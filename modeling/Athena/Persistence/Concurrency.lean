import Athena.Library.Linearization
import Athena.Persistence.CatalogRefinement

/-!
# Threads and processes on one catalog

Each method of the repository takes the lock of its object, and each write takes the write lock of
the database file: with `BEGIN IMMEDIATE` in `initialize`, with the `INSERT` in `add`. What lies
between are the steps of this module; those of any number of threads, on any objects, come in any
order. A statement that finds the write lock taken waits, and raises when it has waited too long. A
reader sees what was last committed. At any point the process of an object may die: its transaction
is gone, its locks are free, and its calls are never answered.

What a thread does inside the lock of its object is `Work`; it involves no other object but through
the file and the write lock.
-/

namespace Athena.Persistence

open Library Library.Program Library.Session SQLiteDatasetRepository

/-- A call as its caller makes it. -/
inductive Request
  | initializing
  | close
  | add (dataset : Dataset)
  | get (datasetId : UUID)
  | list

def Call.request : Call → Request
  | .initializing _ => .initializing
  | .close => .close
  | .add _ dataset => .add dataset
  | .get datasetId => .get datasetId
  | .list => .list

/-- What the environment makes of `initialize` before its transaction. -/
def InitializeFaults.early (faults : InitializeFaults) : Option PyException :=
  faults.mkdir.or
    (faults.connect.or (faults.foreignKeys.or (faults.journalMode.or faults.busyTimeout)))

/-! ### Inside the lock of an object -/

/-- Where a thread is that holds the lock; each constructor is named by what was done or comes next.
-/
inductive Stage
  | entered (request : Request)
  /-- The parameters of the `INSERT` are there. -/
  | inserting (dataset : Dataset) (row : Row)
  | inserted (dataset : Dataset) (pending : Database)
  /-- The new connection is set up, and `BEGIN IMMEDIATE` is next. -/
  | opening
  | upgrading
  | upgraded (faults : Faults Tables) (pending : Database)
  | rollingBack (e : PyException)
  /-- `self._connection` is set next. -/
  | assigning
  | leaving (response : Response)

/-- What a thread inside the lock of one object can see: the file, whether the object has a
connection, and which object's connection holds the write lock. -/
structure Scope where
  database : Database
  connected : Bool
  writer : Option Nat

def Response.of {α : Type} (respond : α → Response) : Except PyException α → Response
  | .ok a => respond a
  | .error e => .raised e

/-- What a read on a connection outside a transaction answers. -/
def Scope.answer {α : Type} (c : Scope) (p : Program PyException SQLiteDatasetRepository α)
    (respond : α → Response) :
    Response :=
  .of respond (exec p ⟨c.database, some none⟩).1

def Scope.released (c : Scope) (object : Nat) : Scope :=
  { c with writer := if c.writer = some object then none else c.writer }

/-- One step of a thread inside the lock of `object`, with the event that takes effect, if any. -/
inductive Work (object : Nat) (c : Scope) : Stage → Option Event → Stage → Scope → Prop
  | unavailable {call : Call} (hneeds : call.needsConnection) (hclosed : c.connected = false) :
      Work object c (.entered call.request) (some ⟨object, call, .raised notInitialized⟩)
        (.leaving (.raised notInitialized)) c
  | get (datasetId : UUID) (hopen : c.connected = true) :
      Work object c (.entered (.get datasetId))
        (some ⟨object, .get datasetId, c.answer (SQLiteDatasetRepository.get datasetId) .dataset⟩)
        (.leaving (c.answer (SQLiteDatasetRepository.get datasetId) .dataset)) c
  | list (hopen : c.connected = true) :
      Work object c (.entered .list)
        (some ⟨object, .list, c.answer SQLiteDatasetRepository.list .datasets⟩)
        (.leaving (c.answer SQLiteDatasetRepository.list .datasets)) c
  | close : Work object c (.entered .close) (some ⟨object, .close, .returned⟩) (.leaving .returned)
      { c with connected := false }
  -- `add`
  | serialize {dataset : Dataset} {row : Row} (hopen : c.connected = true)
      (hrow : toRow dataset = .ok row) :
      Work object c (.entered (.add dataset)) none (.inserting dataset row) c
  | serializeRaises {dataset : Dataset} {e : PyException} (hopen : c.connected = true)
      (hrow : toRow dataset = .error e) :
      Work object c (.entered (.add dataset)) (some ⟨object, .add {} dataset, .raised e⟩)
        (.leaving (.raised e)) c
  | insert {dataset : Dataset} {row : Row} {pending : Database} (hfree : c.writer = none)
      (hinsert : exec (insertRow none row) c.database = (.ok (), pending)) :
      Work object c (.inserting dataset row) none (.inserted dataset pending)
        { c with writer := some object }
  | insertRaises {dataset : Dataset} {row : Row} {fault : Option PyException} {e : PyException}
      {left : Database} {writer : Option Nat} (hfree : fault = none → c.writer = none)
      (hinsert : exec (insertRow fault row) c.database = (.error e, left))
      (hwriter : writer = c.writer ∨ c.writer = none ∧ writer = some object) :
      -- The write lock may have been taken before the statement failed.
      Work object c (.inserting dataset row)
        (some ⟨object, .add { insert := fault } dataset, .raised e⟩)
        (.rollingBack e) { c with writer := writer }
  | commitAdd {dataset : Dataset} {pending : Database} :
      Work object c (.inserted dataset pending) (some ⟨object, .add {} dataset, .returned⟩)
        (.leaving .returned) { c with database := pending, writer := none }
  | commitAddRaises {dataset : Dataset} {pending : Database} (e : PyException) :
      Work object c (.inserted dataset pending)
        (some ⟨object, .add { commit := some e } dataset, .raised e⟩) (.rollingBack e) c
  -- `initialize`
  | again (hopen : c.connected = true) :
      Work object c (.entered .initializing) (some ⟨object, .initializing {}, .returned⟩)
        (.leaving .returned) c
  | setUp (hclosed : c.connected = false) : Work object c (.entered .initializing) none .opening c
  | setUpRaises {faults : InitializeFaults} {e : PyException} (hclosed : c.connected = false)
      (hfault : faults.early = some e) :
      Work object c (.entered .initializing) (some ⟨object, .initializing faults, .raised e⟩)
        (.leaving (.raised e)) c
  | beginImmediate (hfree : c.writer = none) :
      Work object c .opening none .upgrading { c with writer := some object }
  | beginRaises (e : PyException) :
      Work object c .opening
        (some ⟨object, .initializing { migrations := { beginImmediate := some e } }, .raised e⟩)
        (.leaving (.raised e)) c
  | upgrade {faults : Faults Tables} {pending : Database} (hbegin : faults.beginImmediate = none)
      (hcommit : faults.commit = none)
      (hupgrade : exec (upgrade MIGRATIONS faults) c.database = (.ok (), pending)) :
      Work object c .upgrading none (.upgraded faults pending) c
  | upgradeRaises {faults : Faults Tables} {e : PyException} {left : Database}
      (hbegin : faults.beginImmediate = none)
      (hupgrade : exec (upgrade MIGRATIONS faults) c.database = (.error e, left)) :
      Work object c .upgrading (some ⟨object, .initializing { migrations := faults }, .raised e⟩)
        (.rollingBack e) c
  | commitUpgrade {faults : Faults Tables} {pending : Database} :
      Work object c (.upgraded faults pending)
        (some ⟨object, .initializing { migrations := faults }, .returned⟩)
        .assigning { c with database := pending, writer := none }
  | commitUpgradeRaises {faults : Faults Tables} {pending : Database} (e : PyException) :
      Work object c (.upgraded faults pending)
        (some ⟨object, .initializing { migrations := { faults with commit := some e } }, .raised e⟩)
          (.rollingBack e) c
  | assign : Work object c .assigning none (.leaving .returned) { c with connected := true }
  | rollback (e : PyException) :
      Work object c (.rollingBack e) none (.leaving (.raised e)) (c.released object)

/-! ### Any number of threads -/

inductive ThreadState
  | idle
  /-- Waits for the lock of the object. -/
  | acquiring (object : Nat) (request : Request)
  | inside (object : Nat) (stage : Stage)

def ThreadState.object : ThreadState → Option Nat
  | .idle => none
  | .acquiring object _ | .inside object _ => some object

/-- The file, with the object whose connection is writing to it; for every object, whether it has a
connection and which thread holds its lock; and the threads. -/
structure State where
  database : Database
  writer : Option Nat
  connected : Nat → Bool
  owner : Nat → Option Nat
  thread : Nat → ThreadState

namespace State

def fresh : State := ⟨⟨none, none⟩, none, fun _ => false, fun _ => none, fun _ => .idle⟩

def scope (s : State) (object : Nat) : Scope := ⟨s.database, s.connected object, s.writer⟩

/-- What a call comes to, as the object, the request and the response of its event. -/
abbrev Act := Action Nat (Nat × Request) Response Event

def performing (thread : Nat) : Option Event → Act
  | none => .work thread
  | some event => .effect thread event

inductive Step (s : State) : Act → State → Prop
  | invoke {thread : Nat} (hthread : s.thread thread = .idle) (object : Nat) (request : Request) :
      Step s (.invoke thread (object, request))
        { s with thread := Function.update s.thread thread (.acquiring object request) }
  | acquire {thread object : Nat} {request : Request}
      (hthread : s.thread thread = .acquiring object request) (hfree : s.owner object = none) :
      Step s (.work thread) { s with
        owner := Function.update s.owner object (some thread)
        thread := Function.update s.thread thread (.inside object (.entered request)) }
  | work {thread object : Nat} {stage stage' : Stage} {event : Option Event} {c : Scope}
      (hthread : s.thread thread = .inside object stage)
      (hwork : Work object (s.scope object) stage event stage' c) :
      Step s (performing thread event) { s with
        database := c.database
        writer := c.writer
        connected := Function.update s.connected object c.connected
        thread := Function.update s.thread thread (.inside object stage') }
  | release {thread object : Nat} {response : Response}
      (hthread : s.thread thread = .inside object (.leaving response)) :
      Step s (.answer thread response) { s with
        owner := Function.update s.owner object none
        thread := Function.update s.thread thread .idle }
  | crash (object : Nat) :
      Step s (.stop {thread | (s.thread thread).object = some object} ⟨object, .close, .returned⟩)
        { s with
        writer := if s.writer = some object then none else s.writer
        connected := Function.update s.connected object false
        owner := Function.update s.owner object none
        thread := fun thread =>
          if (s.thread thread).object = some object then .idle else s.thread thread }

end State

/-! ### What the steps of one call come to

The facts that a thread relies on between its steps, and the same call as one step of the world. -/

/-- What holds of the object while a thread is at a stage. -/
def Stage.Valid (object : Nat) (c : Scope) : Stage → Prop
  | .inserting dataset row => c.connected = true ∧ toRow dataset = .ok row
  | .inserted dataset pending => c.connected = true ∧ c.writer = some object ∧
      ∃ row, toRow dataset = .ok row ∧ exec (insertRow none row) c.database = (.ok (), pending)
  | .opening | .assigning => c.connected = false
  | .upgrading => c.connected = false ∧ c.writer = some object
  | .upgraded faults pending =>
      c.connected = false ∧ c.writer = some object ∧ faults.beginImmediate = none ∧
      faults.commit = none ∧
      exec (Persistence.upgrade MIGRATIONS faults) c.database = (.ok (), pending)
  | .entered _ | .rollingBack _ | .leaving _ => True

/-- The connection that the sequential object has meanwhile: it is there as soon as the upgrade is
committed. -/
def Stage.connection (connected : Bool) : Stage → Option (Option Database)
  | .assigning => some none
  | _ => if connected then some none else none

theorem Stage.connection_true (stage : Stage) : stage.connection true = some none := by
  cases stage <;> rfl

/-- The stages at which a transaction may be open. -/
def Stage.MayWrite : Stage → Prop
  | .inserted _ _ | .upgrading | .upgraded _ _ | .rollingBack _ => True
  | _ => False

theorem exec_initializeCatalog (faults : InitializeFaults) (database : Database) :
    exec (initializeCatalog faults) ⟨database, none⟩ =
      match faults.early.or faults.migrations.beginImmediate with
      | some e => (.error e, ⟨database, none⟩)
      | none =>
        match exec (Persistence.upgrade MIGRATIONS faults.migrations) database,
          faults.migrations.commit with
        | (.ok (), database'), none => (.ok (), ⟨database', some none⟩)
        | (.ok (), _), some e => (.error e, ⟨database, none⟩)
        | (.error e, _), _ => (.error e, ⟨database, none⟩) := by
  obtain ⟨mkdir, connect, foreignKeys, journalMode, busyTimeout, migrations⟩ := faults
  cases mkdir with
  | some e => rfl
  | none =>
  cases connect with
  | some e => rfl
  | none =>
  cases foreignKeys with
  | some e => rfl
  | none =>
  cases journalMode with
  | some e => rfl
  | none =>
  cases busyTimeout with
  | some e => rfl
  | none =>
  have hopen :
      exec (initializeCatalog ⟨none, none, none, none, none, migrations⟩) ⟨database, none⟩ =
      exec (openConnection (applyMigrations MIGRATIONS migrations)) ⟨database, none⟩ := rfl
  have hconnection :
      exec (openConnection (applyMigrations MIGRATIONS migrations)) ⟨database, none⟩ =
      match exec (applyMigrations MIGRATIONS migrations) ⟨database, none⟩ with
      | (.ok (), session) => (.ok (), ⟨session.durable, some session.pending⟩)
      | (.error e, session) => (.error e, ⟨session.durable, none⟩) := rfl
  rw [hopen, hconnection, applyMigrations, exec_bind]
  cases hbegin : migrations.beginImmediate with
  | some e => rfl
  | none =>
      have hnone : (InitializeFaults.early ⟨none, none, none, none, none, migrations⟩).or
          migrations.beginImmediate =
          none := by rw [hbegin]; rfl
      simp only [exec_begin_none, exec_committing, exec_statement, InitializeFaults.early,
        Option.none_or]
      rcases exec (Persistence.upgrade MIGRATIONS migrations) database with ⟨e | _, database'⟩
      · rfl
      · cases migrations.commit <;> rfl

/-- A read leaves the file and its connection as they are. -/
theorem snd_exec_get (datasetId : UUID) (database : Database) :
    (exec (SQLiteDatasetRepository.get datasetId) ⟨database, some none⟩).2 =
      ⟨database, some none⟩ := by
  cases hrows : database.schema with
  | some rows => rw [get_of_rows datasetId hrows]
  | none =>
      have hselect : exec (selectRow datasetId.str) database =
          (.error (.operationalError "no such table: datasets"), database) := by
        rw [selectRow, exec_bind, datasetsTable, exec_bind, exec_get]
        simp only [hrows, exec_throw]
      rw [SQLiteDatasetRepository.get, exec_requireConnection_some, exec_bind, exec_statement_none,
        hselect]

theorem snd_exec_list (database : Database) :
    (exec SQLiteDatasetRepository.list ⟨database, some none⟩).2 = ⟨database, some none⟩ := by
  cases hrows : database.schema with
  | some rows => rw [list_of_rows hrows]
  | none =>
      have hselect : exec selectRows database =
          (.error (.operationalError "no such table: datasets"), database) := by
        rw [selectRows, exec_bind, datasetsTable, exec_bind, exec_get]
        simp only [hrows, exec_throw]
      rw [SQLiteDatasetRepository.list, exec_requireConnection_some, exec_bind, exec_statement_none,
        hselect]

theorem World.run_eq {α : Type} {w : World} {object : Nat} {database : Database}
    {connection : Option (Option Database)}
    (hdatabase : w.database = database) (hconnection : w.connections object = connection)
    (p : Program PyException SQLiteDatasetRepository α) (respond : α → Response) :
    w.run object p respond = (.of respond (exec p ⟨database, connection⟩).1,
      ⟨(exec p ⟨database, connection⟩).2.database,
        Function.update w.connections object (exec p ⟨database, connection⟩).2.connection⟩) := by
  rw [World.run, hdatabase, hconnection]
  rcases exec p ⟨database, connection⟩ with ⟨e | a, self⟩
  · rfl
  · rfl

section Work

variable {object : Nat} {c c' : Scope} {stage stage' : Stage} {event : Event}

/-- A step with an effect is a call of the world. -/
theorem Work.effective (h : Work object c stage (some event) stage' c')
    (hvalid : stage.Valid object c) {w : World} (hdatabase : w.database = c.database)
    (hconnection : w.connections object = stage.connection c.connected) :
    event.object = object ∧ w.call object event.call = (event.response,
      ⟨c'.database, Function.update w.connections object (stage'.connection c'.connected)⟩) := by
  cases h with
  | @unavailable call hneeds hclosed =>
      rw [hclosed] at hconnection
      change w.connections object = none at hconnection
      refine ⟨rfl, ?_⟩
      cases call with
      | initializing | close => exact hneeds.elim
      | add | get | list =>
          rw [World.call, World.run_eq hdatabase hconnection, hclosed]
          rfl
  | get datasetId hopen =>
      rw [hopen, Stage.connection_true] at hconnection
      refine ⟨rfl, ?_⟩
      rw [World.call, World.run_eq hdatabase hconnection, snd_exec_get, hopen]
      rfl
  | list hopen =>
      rw [hopen, Stage.connection_true] at hconnection
      refine ⟨rfl, ?_⟩
      rw [World.call, World.run_eq hdatabase hconnection, snd_exec_list, hopen]
      rfl
  | close =>
      refine ⟨rfl, ?_⟩
      rw [World.call, World.run_eq hdatabase hconnection]
      rfl
  | serializeRaises hopen hrow =>
      rw [hopen, Stage.connection_true] at hconnection
      refine ⟨rfl, ?_⟩
      rw [World.call, World.run_eq hdatabase hconnection, exec_add, hrow, hopen]
      rfl
  | insertRaises hfree hinsert hwriter =>
      obtain ⟨hopen, hrow⟩ := hvalid
      rw [hopen, Stage.connection_true] at hconnection
      refine ⟨rfl, ?_⟩
      rw [World.call, World.run_eq hdatabase hconnection, exec_add, hrow]
      simp only [hinsert, hopen]
      rfl
  | commitAdd =>
      obtain ⟨hopen, -, row, hrow, hinsert⟩ := hvalid
      rw [hopen, Stage.connection_true] at hconnection
      refine ⟨rfl, ?_⟩
      rw [World.call, World.run_eq hdatabase hconnection, exec_add, hrow]
      simp only [hinsert, hopen]
      rfl
  | commitAddRaises e =>
      obtain ⟨hopen, -, row, hrow, hinsert⟩ := hvalid
      rw [hopen, Stage.connection_true] at hconnection
      refine ⟨rfl, ?_⟩
      rw [World.call, World.run_eq hdatabase hconnection, exec_add, hrow]
      simp only [hinsert, hopen]
      rfl
  | again hopen =>
      rw [hopen, Stage.connection_true] at hconnection
      refine ⟨rfl, ?_⟩
      rw [World.call, World.run_eq hdatabase hconnection, hopen]
      rfl
  | setUpRaises hclosed hfault =>
      rw [hclosed] at hconnection
      change w.connections object = none at hconnection
      refine ⟨rfl, ?_⟩
      rw [World.call, World.run_eq hdatabase hconnection, exec_initializeCatalog, hfault, hclosed]
      rfl
  | beginRaises e =>
      have hclosed : c.connected = false := hvalid
      rw [hclosed] at hconnection
      change w.connections object = none at hconnection
      refine ⟨rfl, ?_⟩
      rw [World.call, World.run_eq hdatabase hconnection, exec_initializeCatalog, hclosed]
      rfl
  | upgradeRaises hbegin hupgrade =>
      obtain ⟨hclosed, -⟩ := hvalid
      rw [hclosed] at hconnection
      change w.connections object = none at hconnection
      refine ⟨rfl, ?_⟩
      rw [World.call, World.run_eq hdatabase hconnection, exec_initializeCatalog, hclosed]
      simp only [hbegin, hupgrade]
      rfl
  | commitUpgrade =>
      obtain ⟨hclosed, -, hbegin, hcommit, hupgrade⟩ := hvalid
      rw [hclosed] at hconnection
      change w.connections object = none at hconnection
      refine ⟨rfl, ?_⟩
      rw [World.call, World.run_eq hdatabase hconnection, exec_initializeCatalog]
      simp only [hbegin, hupgrade, hcommit]
      rfl
  | @commitUpgradeRaises faults pending e =>
      obtain ⟨hclosed, -, hbegin, -, hupgrade⟩ := hvalid
      -- A fault of the commit is none of the statements before it.
      have hsame : exec (Persistence.upgrade MIGRATIONS { faults with commit := some e })
          c.database = (.ok (), pending) :=
        hupgrade
      rw [hclosed] at hconnection
      change w.connections object = none at hconnection
      refine ⟨rfl, ?_⟩
      rw [World.call, World.run_eq hdatabase hconnection, exec_initializeCatalog, hclosed]
      simp only [hsame]
      rw [hbegin]
      rfl

theorem Work.silent (h : Work object c stage none stage' c') :
    c'.database = c.database ∧ stage'.connection c'.connected = stage.connection c.connected := by
  cases h <;> exact ⟨rfl, rfl⟩

variable {effect : Option Event}

/-- The write lock is taken when it is free, and the file changes only under it. -/
theorem Work.locks (h : Work object c stage effect stage' c') (hvalid : stage.Valid object c) :
    (c'.writer = c.writer ∨ c.writer = none ∧ c'.writer = some object ∨
      c.writer = some object ∧ c'.writer = none) ∧
      (c'.database = c.database ∨ c.writer = some object) := by
  cases h with
  | insert hfree => exact ⟨.inr (.inl ⟨hfree, rfl⟩), .inl rfl⟩
  | insertRaises _ _ hwriter => exact ⟨hwriter.imp id .inl, .inl rfl⟩
  | beginImmediate hfree => exact ⟨.inr (.inl ⟨hfree, rfl⟩), .inl rfl⟩
  | commitAdd => exact ⟨.inr (.inr ⟨hvalid.2.1, rfl⟩), .inr hvalid.2.1⟩
  | commitUpgrade => exact ⟨.inr (.inr ⟨hvalid.2.1, rfl⟩), .inr hvalid.2.1⟩
  | rollback e =>
      refine ⟨?_, .inl rfl⟩
      by_cases hwriter : c.writer = some object
      · exact .inr (.inr ⟨hwriter, if_pos hwriter⟩)
      · exact .inl (if_neg hwriter)
  | _ => exact ⟨.inl rfl, .inl rfl⟩

theorem Work.valid (h : Work object c stage effect stage' c') (hvalid : stage.Valid object c) :
    stage'.Valid object c' := by
  cases h with
  | serialize hopen hrow => exact ⟨hopen, hrow⟩
  | insert hfree hinsert => exact ⟨hvalid.1, rfl, _, hvalid.2, hinsert⟩
  | setUp hclosed => exact hclosed
  | beginImmediate hfree => exact ⟨hvalid, rfl⟩
  | upgrade hbegin hcommit hupgrade => exact ⟨hvalid.1, hvalid.2, hbegin, hcommit, hupgrade⟩
  | commitUpgrade => exact hvalid.1
  | _ => exact trivial

/-- A connection that holds the write lock is in a transaction. -/
theorem Work.writing (h : Work object c stage effect stage' c')
    (hwriting : c.writer = some object → stage.MayWrite)
    (hwriter : c'.writer = some object) : stage'.MayWrite := by
  cases h with
  | insert | insertRaises | commitAddRaises | beginImmediate | upgrade | upgradeRaises
  | commitUpgradeRaises =>
      exact trivial
  | commitAdd | commitUpgrade => exact absurd hwriter (Option.some_ne_none object).symm
  | rollback e =>
      have hfree : (c.released object).writer ≠ some object := by
        rw [Scope.released]
        split
        · exact (Option.some_ne_none object).symm
        · assumption
      exact absurd hwriter hfree
  | _ => exact (hwriting hwriter).elim

/-- What a thread relies on is left alone by threads on other objects. -/
theorem Stage.Valid.frame (h : stage.Valid object c) (hconnected : c'.connected = c.connected)
    (hkept : c.writer = some object → c'.writer = some object ∧ c'.database = c.database) :
    stage.Valid object c' := by
  cases stage with
  | entered | rollingBack | leaving => exact trivial
  | inserting dataset row => exact ⟨hconnected.trans h.1, h.2⟩
  | inserted dataset pending =>
      obtain ⟨hopen, hwriter, row, hrow, hinsert⟩ := h
      obtain ⟨hwriter', hdatabase⟩ := hkept hwriter
      exact ⟨hconnected.trans hopen, hwriter', row, hrow, hdatabase ▸ hinsert⟩
  | opening => exact hconnected.trans h
  | assigning => exact hconnected.trans h
  | upgrading => exact ⟨hconnected.trans h.1, (hkept h.2).1⟩
  | upgraded faults pending =>
      obtain ⟨hclosed, hwriter, hbegin, hcommit, hupgrade⟩ := h
      obtain ⟨hwriter', hdatabase⟩ := hkept hwriter
      exact ⟨hconnected.trans hclosed, hwriter', hbegin, hcommit, hdatabase ▸ hupgrade⟩

/-! ### The course of a call -/

def Stage.phase (object : Nat) : Stage → Phase (Nat × Request) Response
  | .entered request => .invoked (object, request)
  | .inserting dataset _ | .inserted dataset _ => .invoked (object, .add dataset)
  | .opening | .upgrading | .upgraded _ _ => .invoked (object, .initializing)
  | .rollingBack e => .effective (.raised e)
  | .assigning => .effective .returned
  | .leaving response => .effective response

theorem Work.phase_of_event (h : Work object c stage (some event) stage' c') :
    stage.phase object = .invoked (event.object, event.call.request) ∧
      stage'.phase object = .effective event.response := by
  cases h <;> exact ⟨rfl, rfl⟩

theorem Work.phase_of_silent (h : Work object c stage none stage' c') :
    stage'.phase object = stage.phase object := by
  cases h <;> rfl

/-- How many steps are left at most until the lock can be given back. -/
def Stage.remaining : Stage → Nat
  | .entered _ => 5
  | .opening => 4
  | .inserting _ _ | .upgrading => 3
  | .inserted _ _ | .upgraded _ _ => 2
  | .rollingBack _ | .assigning => 1
  | .leaving _ => 0

theorem Work.remaining_lt (h : Work object c stage effect stage' c') :
    stage'.remaining < stage.remaining := by
  cases h <;> simp [Stage.remaining]

theorem exists_insertRow_raises (e : PyException) (row : Row) (database : Database) :
    ∃ e' left, exec (insertRow (some e) row) database = (.error e', left) := by
  rw [insertRow]
  split
  · exact ⟨_, _, rfl⟩
  · exact ⟨e, database, rfl⟩

/-- A thread inside the lock waits for nobody: where the write lock is taken, its statement raises
in the end. -/
theorem exists_work (object : Nat) (c : Scope) (stage : Stage) :
    (∃ response, stage = .leaving response) ∨
      ∃ effect stage' c', Work object c stage effect stage' c' := by
  cases stage with
  | entered request =>
      right
      cases hconnected : c.connected with
      | false =>
          cases request with
          | initializing => exact ⟨_, _, _, .setUp hconnected⟩
          | close => exact ⟨_, _, _, .close⟩
          | add dataset =>
              exact ⟨_, _, _, @Work.unavailable object c (.add {} dataset) trivial hconnected⟩
          | get datasetId =>
              exact ⟨_, _, _, @Work.unavailable object c (.get datasetId) trivial hconnected⟩
          | list => exact ⟨_, _, _, @Work.unavailable object c .list trivial hconnected⟩
      | true =>
          cases request with
          | initializing => exact ⟨_, _, _, .again hconnected⟩
          | close => exact ⟨_, _, _, .close⟩
          | add dataset =>
              cases hrow : toRow dataset with
              | error e => exact ⟨_, _, _, .serializeRaises hconnected hrow⟩
              | ok row => exact ⟨_, _, _, .serialize hconnected hrow⟩
          | get datasetId => exact ⟨_, _, _, .get datasetId hconnected⟩
          | list => exact ⟨_, _, _, .list hconnected⟩
  | inserting dataset row =>
      right
      cases hwriter : c.writer with
      | none =>
          rcases hinsert : exec (insertRow none row) c.database with ⟨e | _, pending⟩
          · exact ⟨_, _, _, .insertRaises (fun _ => hwriter) hinsert (.inl rfl)⟩
          · exact ⟨_, _, _, .insert hwriter hinsert⟩
      | some other =>
          obtain ⟨e, left, hinsert⟩ :=
            exists_insertRow_raises (.operationalError "database is locked") row c.database
          exact ⟨_, _, _,
            .insertRaises (fun hnone => absurd hnone (Option.some_ne_none _)) hinsert (.inl rfl)⟩
  | inserted dataset pending => exact .inr ⟨_, _, _, .commitAdd⟩
  | opening => exact .inr ⟨_, _, _, .beginRaises (.operationalError "database is locked")⟩
  | upgrading =>
      right
      rcases hupgrade : exec (upgrade MIGRATIONS {}) c.database with ⟨e | _, pending⟩
      · exact ⟨_, _, _, .upgradeRaises rfl hupgrade⟩
      · exact ⟨_, _, _, .upgrade rfl rfl hupgrade⟩
  | upgraded faults pending => exact .inr ⟨_, _, _, .commitUpgrade⟩
  | rollingBack e => exact .inr ⟨_, _, _, .rollback e⟩
  | assigning => exact .inr ⟨_, _, _, .assign⟩
  | leaving response => exact .inl ⟨response, rfl⟩

end Work

end Athena.Persistence
