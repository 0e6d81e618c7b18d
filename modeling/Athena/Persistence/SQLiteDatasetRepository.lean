import Mathlib.Data.List.Sort
import Mathlib.Data.String.Basic
import Mathlib.Data.Prod.Lex
import Athena.Dataset.Models
import Athena.Persistence.Migrations

/-!
# The SQLite dataset repository

`SQLiteDatasetRepository` keeps datasets in one table of a database file. The file is shared by
every object opened on it; an object has besides only its connection, which is there between a
successful `initialize` and the next `close`, and which may be inside a transaction. Each method is
a program over what its object sees. `World` puts any number of objects on one file.

SQLite compares the `TEXT` columns byte by byte in UTF-8, which orders them as their code points do.
-/

namespace Athena.Persistence

open Library Library.Program Library.Session

/-! ### The table and its encoding -/

structure Row where
  id : String
  providerId : String
  reference : String
  name : String
  sourceType : String
  assetUri : String
  sizeBytes : Int
  createdAt : String
  status : String
  sha256 : Option String
  deriving DecidableEq

/-- The application schema: the `datasets` table, once a migration has created it. -/
abbrev Tables := Option (List Row)

abbrev Database := Catalog Tables

def createDatasetsTable : Tables → Except PyException Tables
  | none => .ok (some [])
  | some _ => .error (.operationalError "table datasets already exists")

def MIGRATIONS : List (Migration Tables) := [(1, createDatasetsTable)]

def serializeCreatedAt (createdAt : Datetime) : Except PyException String :=
  match createdAt.utcoffset with
  | none => .error (.valueError "Dataset.created_at must be timezone-aware.")
  | some offset => do
      let utc ← createdAt.astimezoneUtc offset
      return utc.isoformat

/-- The parameters of the `INSERT` in `add`. -/
def toRow (dataset : Dataset) : Except PyException Row := do
  let createdAt ← serializeCreatedAt dataset.createdAt
  return {
    id := dataset.id.str, providerId := dataset.providerId, reference := dataset.reference
    name := dataset.name, sourceType := dataset.sourceType, assetUri := dataset.assetUri
    sizeBytes := dataset.sizeBytes, createdAt := createdAt, status := dataset.status.value
    sha256 := dataset.sha256 }

def toDataset (row : Row) : Except PyException Dataset := do
  let id ← UUID.ofText row.id
  let createdAt ← Datetime.fromisoformat row.createdAt
  let status ← DatasetStatus.ofText row.status
  return {
    id := id, providerId := row.providerId, reference := row.reference, name := row.name
    sourceType := row.sourceType, assetUri := row.assetUri, sizeBytes := row.sizeBytes
    createdAt := createdAt, status := status, sha256 := row.sha256 }

/-! ### Statements -/

def datasetsTable : Program PyException Database (List Row) := do
  match (← get).schema with
  | some rows => return rows
  | none => throw (.operationalError "no such table: datasets")

/-- `INSERT INTO datasets`, with the 64-bit integer, the `CHECK` and the `PRIMARY KEY` it is subject
to. -/
def insertRow (fault : Option PyException) (row : Row) : Program PyException Database Unit := do
  if row.sizeBytes < -2 ^ 63 ∨ 2 ^ 63 ≤ row.sizeBytes then
    throw (.overflowError "Python int too large to convert to SQLite INTEGER")
  mayRaise fault
  let rows ← datasetsTable
  if row.status ∉ DatasetStatus.all.map DatasetStatus.value then
    throw (.integrityError "CHECK constraint failed: datasets")
  if row.id ∈ rows.map Row.id then
    throw (.integrityError "UNIQUE constraint failed: datasets.id")
  modify fun database => { database with schema := some (rows ++ [row]) }

/-- `SELECT * FROM datasets WHERE id = ?`. -/
def selectRow (id : String) : Program PyException Database (Option Row) := do
  let rows ← datasetsTable
  return rows.find? (·.id == id)

/-- `created_at ASC, id ASC`. -/
def Row.before (r s : Row) : Prop := toLex (r.createdAt, r.id) ≤ toLex (s.createdAt, s.id)

instance : DecidableRel Row.before := fun r s =>
  inferInstanceAs (Decidable (toLex (r.createdAt, r.id) ≤ toLex (s.createdAt, s.id)))

/-- `SELECT * FROM datasets ORDER BY created_at ASC, id ASC`. -/
def selectRows : Program PyException Database (List Row) := do
  let rows ← datasetsTable
  return rows.insertionSort Row.before

/-! ### One object -/

/-- The file, and `self._connection` with the working copy of its open transaction. -/
structure SQLiteDatasetRepository where
  database : Database
  connection : Option (Option Database) := none

/-- What the environment makes of one call of `initialize`. -/
structure InitializeFaults where
  mkdir : Option PyException := none
  connect : Option PyException := none
  foreignKeys : Option PyException := none
  journalMode : Option PyException := none
  busyTimeout : Option PyException := none
  migrations : Faults Tables := {}

/-- What the environment makes of one call of `add`. -/
structure AddFaults where
  insert : Option PyException := none
  commit : Option PyException := none

namespace SQLiteDatasetRepository

def notInitialized : PyException :=
  .runtimeError "SQLiteDatasetRepository must be initialized before use."

/-- Run `p` on the connection that `_require_connection` returns. -/
def requireConnection {α : Type} (p : Program PyException (Session Database) α) :
    Program PyException SQLiteDatasetRepository α := fun self =>
  match self.connection with
  | none => (.error notInitialized, self)
  | some pending =>
      let (result, session) := exec p ⟨self.database, pending⟩
      (result, ⟨session.durable, some session.pending⟩)

/-- The part of `initialize` that owns the new connection: `p` runs on it, and if that raises the
connection is closed, which drops a transaction it may have left open. -/
def openConnection (p : Program PyException (Session Database) Unit) :
    Program PyException SQLiteDatasetRepository Unit := fun self =>
  match exec p ⟨self.database, none⟩ with
  | (.ok (), session) => (.ok (), ⟨session.durable, some session.pending⟩)
  | (.error e, session) => (.error e, { self with database := session.durable })

def initializeCatalog (faults : InitializeFaults) :
    Program PyException SQLiteDatasetRepository Unit := do
  if (← get).connection.isSome then
    return
  mayRaise faults.mkdir
  mayRaise faults.connect
  openConnection do
    mayRaise faults.foreignKeys
    mayRaise faults.journalMode
    mayRaise faults.busyTimeout
    applyMigrations MIGRATIONS faults.migrations

def close : Program PyException SQLiteDatasetRepository Unit :=
  modify fun self => { self with connection := none }

def add (faults : AddFaults) (dataset : Dataset) :
    Program PyException SQLiteDatasetRepository Unit :=
  requireConnection do
    -- `with connection:` commits or rolls back; the `INSERT` opens the transaction.
    committing (do
      let row ← ofExcept (toRow dataset)
      begin none
      statement (insertRow faults.insert row)) faults.commit

def get (datasetId : UUID) : Program PyException SQLiteDatasetRepository (Option Dataset) :=
  requireConnection do
    let row ← statement (selectRow datasetId.str)
    ofExcept (row.mapM toDataset)

def list : Program PyException SQLiteDatasetRepository (List Dataset) :=
  requireConnection do
    let rows ← statement selectRows
    ofExcept (rows.mapM toDataset)

/-! ### Reading back what was written -/

/-- What a dataset looks like after a round through the table: the same in every field, with
`created_at` the same instant in UTC. -/
structure StoredAs (dataset stored : Dataset) : Prop where
  fields : stored = { dataset with createdAt := stored.createdAt }
  utc : stored.createdAt.utcoffset = some 0
  instant : stored.createdAt.instant = dataset.createdAt.instant

/-- The text is that of the same instant in UTC. -/
theorem serializeCreatedAt_eq_isoformat {createdAt : Datetime} {text : String}
    (h : serializeCreatedAt createdAt = .ok text) :
    ∃ utc : Datetime, utc.isoformat = text ∧ utc.utcoffset = some 0 ∧
      utc.instant = createdAt.instant := by
  unfold serializeCreatedAt at h
  cases hoffset : createdAt.utcoffset with
  | none => simp [hoffset] at h
  | some offset =>
      simp only [hoffset] at h
      cases hutc : createdAt.astimezoneUtc offset with
      | error e => simp [hutc, bind, Except.bind] at h
      | ok utc =>
          obtain rfl : utc.isoformat = text := by
            simpa [hutc, bind, Except.bind, pure, Except.pure] using h
          obtain ⟨hzero, hinstant⟩ := Datetime.astimezoneUtc_ok hoffset hutc
          exact ⟨utc, rfl, hzero, hinstant⟩

theorem serializeCreatedAt_ok {createdAt : Datetime} {text : String}
    (h : serializeCreatedAt createdAt = .ok text) :
    ∃ utc, Datetime.fromisoformat text = .ok utc ∧ utc.utcoffset = some 0 ∧
      utc.instant = createdAt.instant := by
  obtain ⟨utc, rfl, hzero, hinstant⟩ := serializeCreatedAt_eq_isoformat h
  exact ⟨utc, Datetime.fromisoformat_isoformat hzero, hzero, hinstant⟩

theorem exists_serializeCreatedAt_iff (createdAt : Datetime) :
    (∃ text, serializeCreatedAt createdAt = .ok text) ↔ createdAt.UtcRepresentable := by
  unfold serializeCreatedAt
  cases hoffset : createdAt.utcoffset with
  | none => simp [Datetime.UtcRepresentable, Datetime.instant, hoffset]
  | some offset =>
      rw [← Datetime.exists_astimezoneUtc_iff hoffset]
      cases hutc : createdAt.astimezoneUtc offset <;>
        simp [hutc, bind, Except.bind, pure, Except.pure]

theorem toRow_eq_ok {dataset : Dataset} {row : Row} (h : toRow dataset = .ok row) :
    serializeCreatedAt dataset.createdAt = .ok row.createdAt ∧
      row = ⟨dataset.id.str, dataset.providerId, dataset.reference, dataset.name,
        dataset.sourceType, dataset.assetUri, dataset.sizeBytes, row.createdAt,
        dataset.status.value, dataset.sha256⟩ := by
  unfold toRow at h
  cases htext : serializeCreatedAt dataset.createdAt with
  | error e => simp [htext, bind, Except.bind] at h
  | ok text =>
      simp only [htext, bind, Except.bind, pure, Except.pure, Except.ok.injEq] at h
      subst h
      exact ⟨rfl, rfl⟩

/-- What `add` writes reads back as the dataset. -/
theorem toRow_ok {dataset : Dataset} {row : Row} (h : toRow dataset = .ok row) :
    row.id = dataset.id.str ∧ row.sizeBytes = dataset.sizeBytes ∧
      row.status = dataset.status.value ∧
      ∃ stored, toDataset row = .ok stored ∧ StoredAs dataset stored := by
  obtain ⟨htext, hrow⟩ := toRow_eq_ok h
  obtain ⟨utc, hread, hzero, hinstant⟩ := serializeCreatedAt_ok htext
  rw [hrow]
  refine ⟨rfl, rfl, rfl, { dataset with createdAt := utc }, ?_, rfl, hzero, hinstant⟩
  simp [toDataset, hread, bind, Except.bind, pure, Except.pure]

theorem exists_toRow_iff (dataset : Dataset) :
    (∃ row, toRow dataset = .ok row) ↔ dataset.createdAt.UtcRepresentable := by
  rw [← exists_serializeCreatedAt_iff, toRow]
  cases serializeCreatedAt dataset.createdAt <;> simp [bind, Except.bind, pure, Except.pure]

/-! ### What one call can do -/

theorem exec_datasetsTable (database : Database) {rows : List Row}
    (hrows : database.schema = some rows) :
    exec datasetsTable database = (.ok rows, database) := by
  rw [datasetsTable, exec_bind, exec_get]
  simp only [hrows, exec_pure]

def SizeFits (n : Int) : Prop := -2 ^ 63 ≤ n ∧ n < 2 ^ 63

theorem insertRow_ok {fault : Option PyException} {row : Row} {database database' : Database}
    {rows : List Row} (hrows : database.schema = some rows)
    (h : exec (insertRow fault row) database = (.ok (), database')) :
    SizeFits row.sizeBytes ∧ row.id ∉ rows.map Row.id ∧
      database' = { database with schema := some (rows ++ [row]) } := by
  rw [insertRow] at h
  split at h
  · simp at h
  · rename_i hsize
    cases fault with
    | some e => simp [exec_bind] at h
    | none =>
        simp only [exec_bind, exec_mayRaise_none, exec_datasetsTable database hrows] at h
        split at h
        · simp at h
        · split at h
          · simp at h
          · rename_i hid
            refine ⟨⟨by omega, by omega⟩, hid, ?_⟩
            simpa using h.symm

theorem insertRow_returns {row : Row} {database : Database} {rows : List Row}
    {status : DatasetStatus} (hrows : database.schema = some rows) (hsize : SizeFits row.sizeBytes)
    (hstatus : row.status = status.value) (hid : row.id ∉ rows.map Row.id) :
    exec (insertRow none row) database =
      (.ok (), { database with schema := some (rows ++ [row]) }) := by
  have hfits : ¬(row.sizeBytes < -2 ^ 63 ∨ 2 ^ 63 ≤ row.sizeBytes) := by
    obtain ⟨hlow, hhigh⟩ := hsize
    omega
  have hknown : ¬row.status ∉ DatasetStatus.all.map DatasetStatus.value :=
    not_not_intro (hstatus ▸ List.mem_map_of_mem status.mem_all)
  rw [insertRow, if_neg hfits]
  simp only [exec_bind, exec_mayRaise_none, exec_datasetsTable database hrows, if_neg hknown,
    if_neg hid]
  rfl

@[simp] theorem exec_requireConnection_none {α : Type}
    (p : Program PyException (Session Database) α) (database : Database) :
    exec (requireConnection p) ⟨database, none⟩ = (.error notInitialized, ⟨database, none⟩) := rfl

@[simp] theorem exec_requireConnection_some {α : Type}
    (p : Program PyException (Session Database) α)
    (database : Database) (pending : Option Database) :
    exec (requireConnection p) ⟨database, some pending⟩ =
      ((exec p ⟨database, pending⟩).1,
        ⟨(exec p ⟨database, pending⟩).2.durable, some (exec p ⟨database, pending⟩).2.pending⟩) :=
  rfl

theorem initializeCatalog_again (faults : InitializeFaults) (database : Database)
    (pending : Option Database) :
    exec (initializeCatalog faults) ⟨database, some pending⟩ = (.ok (), ⟨database, some pending⟩) :=
  rfl

/-- An `initialize` without a connection either migrates the file and keeps its connection, or
raises and changes nothing. -/
theorem initializeCatalog_cases (faults : InitializeFaults) (database : Database) :
    (∃ database', exec (upgrade MIGRATIONS faults.migrations) database = (.ok (), database') ∧
        exec (initializeCatalog faults) ⟨database, none⟩ = (.ok (), ⟨database', some none⟩)) ∨
      ∃ e, exec (initializeCatalog faults) ⟨database, none⟩ = (.error e, ⟨database, none⟩) := by
  obtain ⟨mkdir, connect, foreignKeys, journalMode, busyTimeout, migrations⟩ := faults
  -- Whatever raises before the transaction leaves the file alone.
  rcases mkdir with _ | e
  swap
  · exact .inr ⟨e, rfl⟩
  rcases connect with _ | e
  swap
  · exact .inr ⟨e, rfl⟩
  rcases foreignKeys with _ | e
  swap
  · exact .inr ⟨e, rfl⟩
  rcases journalMode with _ | e
  swap
  · exact .inr ⟨e, rfl⟩
  rcases busyTimeout with _ | e
  swap
  · exact .inr ⟨e, rfl⟩
  have hopen :
      exec (initializeCatalog ⟨none, none, none, none, none, migrations⟩) ⟨database, none⟩ =
      exec (openConnection (applyMigrations MIGRATIONS migrations)) ⟨database, none⟩ := rfl
  rcases applyMigrations_cases MIGRATIONS migrations database with
    ⟨database', hupgrade, hrun⟩ | ⟨e, hrun⟩
  · refine .inl ⟨database', hupgrade, ?_⟩
    rw [hopen]
    simp only [exec, ExceptT.run, StateT.run, openConnection] at hrun ⊢
    simp only [hrun]
  · refine .inr ⟨e, ?_⟩
    rw [hopen]
    simp only [exec, ExceptT.run, StateT.run, openConnection] at hrun ⊢
    simp only [hrun]

theorem exec_add (faults : AddFaults) (dataset : Dataset) (database : Database) :
    exec (add faults dataset) ⟨database, some none⟩ =
      match toRow dataset with
      | .error e => (.error e, ⟨database, some none⟩)
      | .ok row =>
        match exec (insertRow faults.insert row) database, faults.commit with
        | (.ok (), database'), none => (.ok (), ⟨database', some none⟩)
        | (.ok (), _), some e => (.error e, ⟨database, some none⟩)
        | (.error e, _), _ => (.error e, ⟨database, some none⟩) := by
  rw [add, exec_requireConnection_some, exec_committing, exec_bind, exec_ofExcept]
  cases toRow dataset with
  | error e => rfl
  | ok row =>
      simp only [exec_bind, exec_begin_none, exec_statement]
      rcases exec (insertRow faults.insert row) database with ⟨e | _, database'⟩
      · rfl
      · cases faults.commit <;> rfl

/-- An `add` on a connection outside a transaction either inserts the row of its dataset or raises
and changes nothing. -/
theorem add_cases (faults : AddFaults) (dataset : Dataset) {database : Database} {rows : List Row}
    (hrows : database.schema = some rows) :
    (∃ row, toRow dataset = .ok row ∧ SizeFits dataset.sizeBytes ∧ row.id ∉ rows.map Row.id ∧
        exec (add faults dataset) ⟨database, some none⟩ =
          (.ok (), ⟨{ database with schema := some (rows ++ [row]) }, some none⟩)) ∨
      ∃ e, exec (add faults dataset) ⟨database, some none⟩ = (.error e, ⟨database, some none⟩) := by
  rw [exec_add]
  cases htoRow : toRow dataset with
  | error e => exact .inr ⟨e, rfl⟩
  | ok row =>
      obtain ⟨-, hsize, -⟩ := toRow_ok htoRow
      rcases hinsert : exec (insertRow faults.insert row) database with ⟨e | _, database'⟩
      · exact .inr ⟨e, by simp only [hinsert]⟩
      · obtain ⟨hfits, hid, rfl⟩ := insertRow_ok hrows hinsert
        cases faults.commit with
        | none => exact .inl ⟨row, rfl, hsize ▸ hfits, hid, by simp only [hinsert]⟩
        | some e => exact .inr ⟨e, by simp only [hinsert]⟩

/-- Where the environment makes nothing go wrong, an `add` of a new dataset that the table can hold
returns. -/
theorem add_returns {dataset : Dataset} {database : Database} {rows : List Row}
    (hrows : database.schema = some rows) (hutc : dataset.createdAt.UtcRepresentable)
    (hsize : SizeFits dataset.sizeBytes) (hid : dataset.id.str ∉ rows.map Row.id) :
    ∃ self, exec (add {} dataset) ⟨database, some none⟩ = (.ok (), self) := by
  obtain ⟨row, htoRow⟩ := (exists_toRow_iff dataset).mpr hutc
  obtain ⟨hrowId, hrowSize, hstatus, -⟩ := toRow_ok htoRow
  have hinsert := insertRow_returns hrows (hrowSize ▸ hsize) hstatus (hrowId ▸ hid)
  rw [exec_add, htoRow]
  simp only [hinsert]
  exact ⟨_, rfl⟩

theorem get_of_rows (datasetId : UUID) {database : Database} {rows : List Row}
    (hrows : database.schema = some rows) :
    exec (get datasetId) ⟨database, some none⟩ =
      ((rows.find? (·.id == datasetId.str)).mapM toDataset, ⟨database, some none⟩) := by
  have hselect : exec (statement (selectRow datasetId.str)) ⟨database, none⟩ =
      (.ok (rows.find? (·.id == datasetId.str)), (⟨database, none⟩ : Session Database)) := by
    have hrun : exec (selectRow datasetId.str) database =
      (.ok (rows.find? (·.id == datasetId.str)), database) := by
      rw [selectRow, exec_bind, exec_datasetsTable database hrows]
      rfl
    rw [exec_statement_none, hrun]
  rw [get, exec_requireConnection_some, exec_bind, hselect]
  simp only [exec_ofExcept]

theorem list_of_rows {database : Database} {rows : List Row} (hrows : database.schema = some rows) :
    exec list ⟨database, some none⟩ =
      ((rows.insertionSort Row.before).mapM toDataset, ⟨database, some none⟩) := by
  have hselect : exec (statement selectRows) ⟨database, none⟩ =
      (.ok (rows.insertionSort Row.before), (⟨database, none⟩ : Session Database)) := by
    have hrun : exec selectRows database = (.ok (rows.insertionSort Row.before), database) := by
      rw [selectRows, exec_bind, exec_datasetsTable database hrows]
      rfl
    rw [exec_statement_none, hrun]
  rw [list, exec_requireConnection_some, exec_bind, hselect]
  simp only [exec_ofExcept]

end SQLiteDatasetRepository

end Athena.Persistence
