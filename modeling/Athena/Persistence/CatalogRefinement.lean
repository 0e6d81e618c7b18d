import Mathlib.Data.Finmap
import Athena.Library.Trace
import Athena.Library.Traverse
import Athena.Persistence.SQLiteDatasetRepository

/-!
# Any number of repositories on one file refine one finite map

`World` is one database file and the repository objects opened on it; each call is one step, whose
outcome the event records. The purpose of all this is `CatalogMap`: a finite map from ids to
datasets, and the set of objects through which it can be reached. The main result is the refinement,
with what it says of reads and of refused calls in terms of the history alone.
-/

namespace Athena.Persistence

open Library Library.Program SQLiteDatasetRepository

/-! ### The world -/

inductive Call
  | initializing (faults : InitializeFaults)
  | close
  | add (faults : AddFaults) (dataset : Dataset)
  | get (datasetId : UUID)
  | list

inductive Response
  | returned
  | dataset (found : Option Dataset)
  | datasets (listed : List Dataset)
  | raised (e : PyException)
  deriving DecidableEq

structure Event where
  object : Nat
  call : Call
  response : Response

/-- The file and, for every object, its connection. A restart is a new object. -/
structure World where
  database : Database
  connections : Nat → Option (Option Database)

namespace World

def fresh : World := ⟨⟨none, none⟩, fun _ => none⟩

def run {α : Type} (w : World) (object : Nat) (p : Program PyException SQLiteDatasetRepository α)
    (respond : α → Response) : Response × World :=
  match exec p ⟨w.database, w.connections object⟩ with
  | (.ok a, self) =>
      (respond a, ⟨self.database, Function.update w.connections object self.connection⟩)
  | (.error e, self) =>
      (.raised e, ⟨self.database, Function.update w.connections object self.connection⟩)

def call (w : World) (object : Nat) : Call → Response × World
  | .initializing faults => w.run object (initializeCatalog faults) fun _ => .returned
  | .close => w.run object close fun _ => .returned
  | .add faults dataset => w.run object (add faults dataset) fun _ => .returned
  | .get datasetId => w.run object (get datasetId) .dataset
  | .list => w.run object list .datasets

/-- What a sequence of calls answers, and the world after it. -/
def perform (w : World) : List (Nat × Call) → List Event × World
  | [] => ([], w)
  | (object, call) :: rest =>
      let (response, w') := w.call object call
      let (events, w'') := w'.perform rest
      (⟨object, call, response⟩ :: events, w'')

def Step (w : World) (e : Event) (w' : World) : Prop := w.call e.object e.call = (e.response, w')

end World

/-! ### The map -/

/-- The datasets are the entries of the map, each once. -/
structure Lists (datasets : List Dataset) (entries : Finmap fun _ : UUID => Dataset) : Prop where
  ids : (datasets.map Dataset.id).Nodup
  lookup_iff : ∀ datasetId dataset,
    entries.lookup datasetId = some dataset ↔ dataset ∈ datasets ∧ dataset.id = datasetId

namespace Lists

variable {datasets datasets' : List Dataset} {entries : Finmap fun _ : UUID => Dataset}

theorem nil : Lists [] ∅ := ⟨List.nodup_nil, fun _ _ => by simp⟩

theorem mem_iff (h : Lists datasets entries) (datasetId : UUID) :
    datasetId ∈ entries ↔ datasetId ∈ datasets.map Dataset.id := by
  simp only [Finmap.mem_iff, h.lookup_iff, List.mem_map]

theorem concat (h : Lists datasets entries) {dataset : Dataset} (hnew : dataset.id ∉ entries) :
    Lists (datasets ++ [dataset]) (entries.insert dataset.id dataset) := by
  have habsent : ∀ d ∈ datasets, d.id ≠ dataset.id := by
    intro d hd hid
    exact hnew ((h.mem_iff _).mpr (hid ▸ List.mem_map_of_mem hd))
  constructor
  · rw [List.map_append, List.nodup_append']
    refine ⟨h.ids, List.nodup_singleton _, ?_⟩
    simpa [List.disjoint_singleton] using habsent
  · intro datasetId d
    by_cases hsame : datasetId = dataset.id
    · subst hsame
      rw [Finmap.lookup_insert]
      constructor
      · intro heq
        obtain rfl := Option.some.inj heq
        exact ⟨by simp, rfl⟩
      · rintro ⟨hmem, hid⟩
        rcases List.mem_append.mp hmem with hold | hlast
        · exact absurd hid (habsent d hold)
        · rw [List.mem_singleton.mp hlast]
    · rw [Finmap.lookup_insert_of_ne _ hsame, h.lookup_iff]
      constructor
      · rintro ⟨hmem, hid⟩
        exact ⟨List.mem_append_left _ hmem, hid⟩
      · rintro ⟨hmem, hid⟩
        rcases List.mem_append.mp hmem with hold | hlast
        · exact ⟨hold, hid⟩
        · rw [List.mem_singleton.mp hlast] at hid
          exact absurd hid.symm hsame

theorem find?_eq (h : Lists datasets entries) (datasetId : UUID) :
    datasets.find? (·.id == datasetId) = entries.lookup datasetId := by
  ext dataset
  rw [h.lookup_iff]
  constructor
  · intro hfind
    exact ⟨List.mem_of_find?_eq_some hfind, by simpa using List.find?_some hfind⟩
  · rintro ⟨hmem, hid⟩
    cases hfind : datasets.find? (·.id == datasetId) with
    | none => simpa [hid] using List.find?_eq_none.mp hfind dataset hmem
    | some found =>
        have hfoundId : found.id = datasetId := by simpa using List.find?_some hfind
        rw [List.inj_on_of_nodup_map h.ids (List.mem_of_find?_eq_some hfind) hmem
          (hfoundId.trans hid.symm)]

theorem of_perm (h : Lists datasets entries) (hperm : datasets'.Perm datasets) :
    Lists datasets' entries :=
  ⟨(hperm.map Dataset.id).nodup_iff.mpr h.ids, fun datasetId dataset =>
    by rw [h.lookup_iff, hperm.mem_iff]⟩

theorem perm (h : Lists datasets entries) (h' : Lists datasets' entries) :
    datasets.Perm datasets' := by
  have hmem : ∀ {d : List Dataset}, Lists d entries → ∀ dataset, dataset ∈ d ↔
      entries.lookup dataset.id = some dataset :=
    fun hd dataset => by simp [hd.lookup_iff]
  rw [List.perm_ext_iff_of_nodup h.ids.of_map h'.ids.of_map]
  exact fun dataset => (hmem h dataset).trans (hmem h' dataset).symm

end Lists

structure CatalogMap where
  entries : Finmap fun _ : UUID => Dataset
  initialized : Finset Nat

def Call.needsConnection : Call → Prop
  | .initializing _ | .close => False
  | .add _ _ | .get _ | .list => True

namespace CatalogMap

def empty : CatalogMap := ⟨∅, ∅⟩

inductive Step : CatalogMap → Event → CatalogMap → Prop
  | initialized (m : CatalogMap) (object : Nat) (faults : InitializeFaults) :
      Step m ⟨object, .initializing faults, .returned⟩
        { m with initialized := insert object m.initialized }
  | initializeRaised (m : CatalogMap) {object : Nat} (faults : InitializeFaults) (e : PyException)
      (hobject : object ∉ m.initialized) : Step m ⟨object, .initializing faults, .raised e⟩ m
  | closed (m : CatalogMap) (object : Nat) :
      Step m ⟨object, .close, .returned⟩ { m with initialized := m.initialized.erase object }
  | added (m : CatalogMap) {object : Nat} (faults : AddFaults) {dataset stored : Dataset}
      (hobject : object ∈ m.initialized) (hnew : dataset.id ∉ m.entries)
      (hstored : StoredAs dataset stored) :
      Step m ⟨object, .add faults dataset, .returned⟩
        { m with entries := m.entries.insert dataset.id stored }
  | refused (m : CatalogMap) {object : Nat} (faults : AddFaults) (dataset : Dataset)
      (e : PyException)
      (hobject : object ∈ m.initialized) : Step m ⟨object, .add faults dataset, .raised e⟩ m
  | got (m : CatalogMap) {object : Nat} (datasetId : UUID) (hobject : object ∈ m.initialized) :
      Step m ⟨object, .get datasetId, .dataset (m.entries.lookup datasetId)⟩ m
  | listed (m : CatalogMap) {object : Nat} {datasets : List Dataset}
      (hobject : object ∈ m.initialized)
      (hlists : Lists datasets m.entries) : Step m ⟨object, .list, .datasets datasets⟩ m
  | unavailable (m : CatalogMap) {object : Nat} {call : Call} (hcall : call.needsConnection)
      (hobject : object ∉ m.initialized) : Step m ⟨object, call, .raised notInitialized⟩ m

end CatalogMap

/-! ### The representation -/

def RowStores (row : Row) (dataset : Dataset) : Prop :=
  toDataset row = .ok dataset ∧ row.id = dataset.id.str

/-- The table `rows` holds exactly the entries of the map, one row each. -/
def TableStores (rows : List Row) (entries : Finmap fun _ : UUID => Dataset) : Prop :=
  ∃ stored, List.Forall₂ RowStores rows stored ∧ Lists stored entries

/-- A file that no `initialize` has migrated, or the migrated one with its table. -/
inductive FileStores (database : Database) (m : CatalogMap) : Prop
  | fresh (hschema : database.schema = none) (hversions : database.appliedVersions = [])
      (hempty : m = CatalogMap.empty)
  | migrated {rows : List Row} (hschema : database.schema = some rows)
      (hversions : database.appliedVersions = [1]) (htable : TableStores rows m.entries)

structure Represents (w : World) (m : CatalogMap) : Prop where
  file : FileStores w.database m
  connected : ∀ object ∈ m.initialized, w.connections object = some none
  disconnected : ∀ object, object ∉ m.initialized → w.connections object = none

theorem fresh_represents_empty : Represents World.fresh CatalogMap.empty :=
  ⟨.fresh rfl rfl rfl, fun _ h => absurd h (Finset.notMem_empty _), fun _ _ => rfl⟩

/-! ### The table -/

namespace TableStores

variable {rows : List Row} {entries : Finmap fun _ : UUID => Dataset} {stored : List Dataset}

theorem ids_eq (hrows : List.Forall₂ RowStores rows stored) :
    rows.map Row.id = (stored.map Dataset.id).map UUID.str := by
  induction hrows with
  | nil => rfl
  | cons hhead _ ih => rw [List.map_cons, List.map_cons, List.map_cons, hhead.2, ih]

theorem find_stored (hrows : List.Forall₂ RowStores rows stored) (datasetId : UUID) :
    (rows.find? (·.id == datasetId.str)).mapM toDataset =
      .ok (stored.find? (·.id == datasetId)) := by
  induction hrows with
  | nil => rfl
  | @cons row dataset rows stored hhead _ ih =>
      obtain ⟨hread, hid⟩ := hhead
      by_cases hfound : dataset.id = datasetId
      · have hrow : (row.id == datasetId.str) = true := by simp [hid, hfound]
        have hdataset : (dataset.id == datasetId) = true := by simp [hfound]
        simp only [List.find?_cons, hrow, hdataset, Option.mapM_some, hread]
        rfl
      · have hrow : (row.id == datasetId.str) = false := by
          simpa [hid] using fun h => hfound (UUID.str_injective h)
        have hdataset : (dataset.id == datasetId) = false := by simpa using hfound
        simpa only [List.find?_cons, hrow, hdataset] using ih

theorem nil : TableStores [] ∅ := ⟨[], .nil, .nil⟩

theorem mem_ids_iff (h : TableStores rows entries) (datasetId : UUID) :
    datasetId.str ∈ rows.map Row.id ↔ datasetId ∈ entries := by
  obtain ⟨stored, hrows, hlists⟩ := h
  rw [ids_eq hrows, hlists.mem_iff]
  constructor
  · intro hmem
    obtain ⟨datasetId', hstored, hstr⟩ := List.mem_map.mp hmem
    exact UUID.str_injective hstr ▸ hstored
  · exact List.mem_map_of_mem

theorem concat (h : TableStores rows entries) {row : Row} {dataset : Dataset}
    (hrow : RowStores row dataset) (hnew : dataset.id ∉ entries) :
    TableStores (rows ++ [row]) (entries.insert dataset.id dataset) := by
  obtain ⟨stored, hrows, hlists⟩ := h
  exact ⟨stored ++ [dataset], List.rel_append hrows (.cons hrow .nil), hlists.concat hnew⟩

theorem find (h : TableStores rows entries) (datasetId : UUID) :
    (rows.find? (·.id == datasetId.str)).mapM toDataset = .ok (entries.lookup datasetId) := by
  obtain ⟨stored, hrows, hlists⟩ := h
  rw [find_stored hrows, hlists.find?_eq]

/-- The whole table read back in any order: every entry once. -/
theorem read (h : TableStores rows entries) {ordered : List Row} (hperm : ordered.Perm rows) :
    ∃ datasets, ordered.mapM toDataset = .ok datasets ∧ Lists datasets entries := by
  obtain ⟨stored, hrows, hlists⟩ := h
  obtain ⟨datasets, hordered, hdatasets⟩ := List.perm_comp_forall₂ hperm hrows
  exact ⟨datasets, mapM_eq_ok_iff.mpr (hordered.imp fun _ _ h => h.1), hlists.of_perm hdatasets⟩

end TableStores

/-! ### The file -/

namespace FileStores

variable {database database' : Database} {m : CatalogMap}

/-- Either no migration of this release has run on the file, or all have. -/
theorem upgrade_cases {faults : Faults Tables} (h : FileStores database m)
    (hupgrade : exec (upgrade MIGRATIONS faults) database = (.ok (), database')) :
    database'.appliedVersions = [1] ∧
      ((database'.schema = some [] ∧ m = CatalogMap.empty) ∨
        ∃ rows, database.schema = some rows ∧ database'.schema = some rows ∧
          TableStores rows m.entries) := by
  cases h with
  | fresh hschema hversions hempty =>
      have hnew : ∀ migration ∈ MIGRATIONS, migration.1 ∉ database.appliedVersions := by
        rw [hversions]
        exact fun _ _ => List.not_mem_nil
      rw [← List.nil_append MIGRATIONS] at hupgrade
      obtain ⟨hbuilt, hrecorded⟩ := upgrade_ok (fun _ h => absurd h List.not_mem_nil) hnew hupgrade
      rw [hversions] at hrecorded
      rw [hschema] at hbuilt
      exact ⟨hrecorded, .inl ⟨(Except.ok.inj hbuilt).symm, hempty⟩⟩
  | @migrated rows hschema hversions htable =>
      have hold : ∀ migration ∈ MIGRATIONS, migration.1 ∈ database.appliedVersions := by
        rw [hversions]
        decide
      rw [← List.append_nil MIGRATIONS] at hupgrade
      obtain ⟨hbuilt, hrecorded⟩ := upgrade_ok hold (fun _ h => absurd h List.not_mem_nil) hupgrade
      rw [hversions] at hrecorded
      exact ⟨hrecorded, .inr ⟨rows, hschema, (Except.ok.inj hbuilt).symm.trans hschema, htable⟩⟩

theorem of_upgrade {faults : Faults Tables} (h : FileStores database m)
    (hupgrade : exec (upgrade MIGRATIONS faults) database = (.ok (), database')) :
    ∃ rows, database'.schema = some rows ∧ database'.appliedVersions = [1] ∧
      TableStores rows m.entries := by
  obtain ⟨hversions, ⟨hschema, rfl⟩ | ⟨rows, -, hschema, htable⟩⟩ := h.upgrade_cases hupgrade
  · exact ⟨[], hschema, hversions, TableStores.nil⟩
  · exact ⟨rows, hschema, hversions, htable⟩

/-- The file of an object that is connected has been migrated. -/
theorem table_of_initialized (h : FileStores database m) {object : Nat}
    (hobject : object ∈ m.initialized) :
    ∃ rows, database.schema = some rows ∧ database.appliedVersions = [1] ∧
      TableStores rows m.entries := by
  cases h with
  | fresh _ _ hempty =>
      rw [hempty] at hobject
      exact absurd hobject (Finset.notMem_empty _)
  | migrated hschema hversions htable => exact ⟨_, hschema, hversions, htable⟩

end FileStores

/-! ### One call -/

namespace Represents

variable {w w' : World} {m : CatalogMap} {object : Nat} {response : Response}

theorem call_get (h : Represents w m) (hobject : object ∈ m.initialized) (datasetId : UUID) :
    w.call object (.get datasetId) = (.dataset (m.entries.lookup datasetId), w) := by
  obtain ⟨rows, hschema, -, htable⟩ := h.file.table_of_initialized hobject
  have hconnection := h.connected object hobject
  simp only [World.call, World.run, hconnection, get_of_rows datasetId hschema, htable.find]
  rw [← hconnection, Function.update_eq_self]

theorem call_list (h : Represents w m) (hobject : object ∈ m.initialized) :
    ∃ datasets, w.call object .list = (.datasets datasets, w) ∧ Lists datasets m.entries := by
  obtain ⟨rows, hschema, -, htable⟩ := h.file.table_of_initialized hobject
  have hconnection := h.connected object hobject
  obtain ⟨datasets, hread, hlists⟩ := htable.read (List.perm_insertionSort Row.before rows)
  refine ⟨datasets, ?_, hlists⟩
  simp only [World.call, World.run, hconnection, list_of_rows hschema, hread]
  rw [← hconnection, Function.update_eq_self]

theorem call_unavailable (h : Represents w m) (hobject : object ∉ m.initialized) {call : Call}
    (hcall : call.needsConnection) : w.call object call = (.raised notInitialized, w) := by
  have hconnection := h.disconnected object hobject
  have hsame : (⟨w.database, Function.update w.connections object none⟩ : World) = w := by
    rw [← hconnection, Function.update_eq_self]
  cases call with
  | initializing | close => exact hcall.elim
  | add | get | list =>
      simp only [World.call, World.run, hconnection, add, SQLiteDatasetRepository.get, list,
        exec_requireConnection_none]
      exact congrArg _ hsame

theorem call_close (h : Represents w m) (object : Nat) :
    ∃ w', w.call object .close = (.returned, w') ∧
      Represents w' { m with initialized := m.initialized.erase object } := by
  refine ⟨_, rfl, ⟨?_, fun o ho => ?_, fun o ho => ?_⟩⟩
  · cases h.file with
    | fresh hschema hversions hempty =>
        exact .fresh hschema hversions (by simp [hempty, CatalogMap.empty])
    | migrated hschema hversions htable => exact .migrated hschema hversions htable
  · obtain ⟨hne, hmem⟩ := Finset.mem_erase.mp ho
    exact (Function.update_of_ne hne _ _).trans (h.connected o hmem)
  · by_cases hsame : o = object
    · rw [hsame]
      exact Function.update_self ..
    · exact (Function.update_of_ne hsame _ _).trans (h.disconnected o fun hmem =>
        ho (Finset.mem_erase.mpr ⟨hsame, hmem⟩))

theorem call_initializing (h : Represents w m) (object : Nat) (faults : InitializeFaults) :
    (∃ w', w.call object (.initializing faults) = (.returned, w') ∧
        Represents w' { m with initialized := insert object m.initialized }) ∨
      (object ∉ m.initialized ∧ ∃ e, w.call object (.initializing faults) = (.raised e, w)) := by
  by_cases hobject : object ∈ m.initialized
  · have hconnection := h.connected object hobject
    refine .inl ⟨w, ?_, ?_⟩
    · simp only [World.call, World.run, hconnection, initializeCatalog_again]
      rw [← hconnection, Function.update_eq_self]
    · rwa [Finset.insert_eq_of_mem hobject]
  · have hconnection := h.disconnected object hobject
    rcases initializeCatalog_cases faults w.database with ⟨database', hupgrade, hrun⟩ | ⟨e, hrun⟩
    · obtain ⟨rows, hschema, hversions, htable⟩ := h.file.of_upgrade hupgrade
      refine .inl ⟨⟨database', Function.update w.connections object (some none)⟩, ?_, ?_⟩
      · simp only [World.call, World.run, hconnection, hrun]
      refine ⟨.migrated hschema hversions htable, fun o ho => ?_, fun o ho => ?_⟩
      · by_cases hsame : o = object
        · rw [hsame]
          exact Function.update_self ..
        · exact (Function.update_of_ne hsame _ _).trans
            (h.connected o (Finset.mem_of_mem_insert_of_ne ho hsame))
      · obtain ⟨hne, hmem⟩ := not_or.mp (mt Finset.mem_insert.mpr ho)
        exact (Function.update_of_ne hne _ _).trans (h.disconnected o hmem)
    · refine .inr ⟨hobject, e, ?_⟩
      simp only [World.call, World.run, hconnection, hrun]
      rw [← hconnection, Function.update_eq_self]

theorem call_add (h : Represents w m) (hobject : object ∈ m.initialized) (faults : AddFaults)
    (dataset : Dataset) :
    (∃ w' stored, w.call object (.add faults dataset) = (.returned, w') ∧ dataset.id ∉ m.entries ∧
        StoredAs dataset stored ∧ dataset.createdAt.UtcRepresentable ∧ SizeFits dataset.sizeBytes ∧
        Represents w' { m with entries := m.entries.insert dataset.id stored }) ∨
      ∃ e, w.call object (.add faults dataset) = (.raised e, w) := by
  obtain ⟨rows, hschema, hversions, htable⟩ := h.file.table_of_initialized hobject
  have hconnection := h.connected object hobject
  have hsame : Function.update w.connections object (some none) = w.connections := by
    rw [← hconnection, Function.update_eq_self]
  rcases add_cases faults dataset hschema with ⟨row, htoRow, hsize, hnew, hrun⟩ | ⟨e, hrun⟩
  · obtain ⟨hrowId, -, -, stored, hread, hstored⟩ := toRow_ok htoRow
    have hid : stored.id = dataset.id := by rw [hstored.fields]
    rw [hrowId, htable.mem_ids_iff] at hnew
    have hutc := (exists_toRow_iff dataset).mp ⟨row, htoRow⟩
    refine .inl ⟨⟨{ w.database with schema := some (rows ++ [row]) }, w.connections⟩, stored, ?_,
      hnew, hstored, hutc, hsize, ?_⟩
    · simp only [World.call, World.run, hconnection, hrun, hsame]
    · rw [← hid]
      refine ⟨.migrated rfl hversions ?_, h.connected, h.disconnected⟩
      exact htable.concat ⟨hread, hid ▸ hrowId⟩ (hid ▸ hnew)
  · refine .inr ⟨e, ?_⟩
    simp only [World.call, World.run, hconnection, hrun, hsame]

/-- With nothing going wrong around it, an `add` is refused for a reason of its own only. -/
theorem call_add_raises_iff (h : Represents w m) (hobject : object ∈ m.initialized)
    (dataset : Dataset) :
    (∃ e, (w.call object (.add {} dataset)).1 = .raised e) ↔
      dataset.id ∈ m.entries ∨ ¬dataset.createdAt.UtcRepresentable ∨
      ¬SizeFits dataset.sizeBytes := by
  obtain ⟨rows, hschema, -, htable⟩ := h.file.table_of_initialized hobject
  have hconnection := h.connected object hobject
  constructor
  · rintro ⟨e, hraised⟩
    by_contra hfine
    simp only [not_or, not_not] at hfine
    obtain ⟨hnew, hutc, hsize⟩ := hfine
    rw [← htable.mem_ids_iff] at hnew
    obtain ⟨self, hrun⟩ := add_returns hschema hutc hsize hnew
    simp [World.call, World.run, hconnection, hrun] at hraised
  · intro hwrong
    rcases h.call_add hobject {} dataset with
      ⟨w', stored, -, hnew, -, hutc, hsize, -⟩ | ⟨e, hraised⟩
    · rcases hwrong with hmem | hlate | hlarge
      · exact absurd hmem hnew
      · exact absurd hutc hlate
      · exact absurd hsize hlarge
    · exact ⟨e, congrArg Prod.fst hraised⟩

end Represents

/-! ### Every run -/

variable {w w' : World} {m : CatalogMap} {events : List Event}

private theorem refines_unavailable (h : Represents w m) {object : Nat} {call : Call}
    {response : Response}
    (hcall : w.call object call = (response, w')) (hobject : object ∉ m.initialized)
    (hneeds : call.needsConnection) :
    ∃ m', CatalogMap.Step m ⟨object, call, response⟩ m' ∧ Represents w' m' := by
  obtain ⟨rfl, rfl⟩ := Prod.mk.inj ((h.call_unavailable hobject hneeds).symm.trans hcall)
  exact ⟨m, .unavailable m hneeds hobject, h⟩

/-- Every call on a world is a step of the map it represents. -/
theorem World.Step.refines {e : Event} (h : Represents w m) (hstep : World.Step w e w') :
    ∃ m', CatalogMap.Step m e m' ∧ Represents w' m' := by
  obtain ⟨object, call, response⟩ := e
  change w.call object call = (response, w') at hstep
  cases call with
  | initializing faults =>
      rcases h.call_initializing object faults with ⟨_, hcall, hrep⟩ | ⟨hobject, e, hcall⟩
      · obtain ⟨rfl, rfl⟩ := Prod.mk.inj (hcall.symm.trans hstep)
        exact ⟨_, .initialized m object faults, hrep⟩
      · obtain ⟨rfl, rfl⟩ := Prod.mk.inj (hcall.symm.trans hstep)
        exact ⟨m, .initializeRaised m faults e hobject, h⟩
  | close =>
      obtain ⟨_, hcall, hrep⟩ := h.call_close object
      obtain ⟨rfl, rfl⟩ := Prod.mk.inj (hcall.symm.trans hstep)
      exact ⟨_, .closed m object, hrep⟩
  | add faults dataset =>
      by_cases hobject : object ∈ m.initialized
      · rcases h.call_add hobject faults dataset with
          ⟨_, stored, hcall, hnew, hstored, -, -, hrep⟩ | ⟨e, hcall⟩
        · obtain ⟨rfl, rfl⟩ := Prod.mk.inj (hcall.symm.trans hstep)
          exact ⟨_, .added m faults hobject hnew hstored, hrep⟩
        · obtain ⟨rfl, rfl⟩ := Prod.mk.inj (hcall.symm.trans hstep)
          exact ⟨m, .refused m faults dataset e hobject, h⟩
      · exact refines_unavailable h hstep hobject trivial
  | get datasetId =>
      by_cases hobject : object ∈ m.initialized
      · obtain ⟨rfl, rfl⟩ := Prod.mk.inj ((h.call_get hobject datasetId).symm.trans hstep)
        exact ⟨m, .got m datasetId hobject, h⟩
      · exact refines_unavailable h hstep hobject trivial
  | list =>
      by_cases hobject : object ∈ m.initialized
      · obtain ⟨datasets, hcall, hlists⟩ := h.call_list hobject
        obtain ⟨rfl, rfl⟩ := Prod.mk.inj (hcall.symm.trans hstep)
        exact ⟨m, .listed m hobject hlists, h⟩
      · exact refines_unavailable h hstep hobject trivial

theorem World.refines (h : Trace World.Step World.fresh events w) :
    ∃ m, Trace CatalogMap.Step CatalogMap.empty events m ∧ Represents w m :=
  h.simulate fresh_represents_empty fun _ _ _ _ hrep hstep => hstep.refines hrep

/-! ### What the history says of the map -/

/-- The objects that have been initialized and not closed since. -/
def initializedBy (events : List Event) : Finset Nat :=
  events.foldl (fun initialized e =>
    match e.call, e.response with
    | .initializing _, .returned => insert e.object initialized
    | .close, _ => initialized.erase e.object
    | _, _ => initialized) ∅

/-- The datasets of the `add` calls that returned, on any object. -/
def addedBy (events : List Event) : List Dataset :=
  events.filterMap fun e =>
    match e.call, e.response with
    | .add _ dataset, .returned => some dataset
    | _, _ => none

structure Reflects (events : List Event) (m : CatalogMap) : Prop where
  initialized : m.initialized = initializedBy events
  entries : ∃ stored, List.Forall₂ StoredAs (addedBy events) stored ∧ Lists stored m.entries

theorem CatalogMap.Step.reflects {e : Event} {m' : CatalogMap} (h : Reflects events m)
    (hstep : CatalogMap.Step m e m') : Reflects (events ++ [e]) m' := by
  obtain ⟨hinitialized, stored, hstored, hlists⟩ := h
  cases hstep with
  | initialized | closed | initializeRaised | refused | got | listed =>
      constructor
      · simp [initializedBy, hinitialized]
      · exact ⟨stored, by simpa [addedBy] using hstored, hlists⟩
  | added faults hobject hnew hstoredAs =>
      constructor
      · simp [initializedBy, hinitialized]
      · have hid := congrArg Dataset.id hstoredAs.fields
        rw [← hid] at hnew ⊢
        refine ⟨stored ++ [_], ?_, hlists.concat hnew⟩
        simpa [addedBy] using List.rel_append hstored (.cons hstoredAs .nil)
  | @unavailable object call hcall hobject =>
      cases call with
      | initializing | close => exact hcall.elim
      | add | get | list =>
          constructor
          · simp [initializedBy, hinitialized]
          · exact ⟨stored, by simpa [addedBy] using hstored, hlists⟩

theorem CatalogMap.reflects (h : Trace CatalogMap.Step CatalogMap.empty events m) :
    Reflects events m :=
  h.invariant ⟨rfl, [], .nil, .nil⟩ fun _ _ _ _ _ hreflects hstep => hstep.reflects hreflects

namespace Reflects

theorem added_ids_eq {added stored : List Dataset} (h : List.Forall₂ StoredAs added stored) :
    stored.map Dataset.id = added.map Dataset.id := by
  induction h with
  | nil => rfl
  | cons hhead _ ih => rw [List.map_cons, List.map_cons, ih, congrArg Dataset.id hhead.fields]

theorem added_nodup (h : Reflects events m) : ((addedBy events).map Dataset.id).Nodup := by
  obtain ⟨stored, hstored, hlists⟩ := h.entries
  exact added_ids_eq hstored ▸ hlists.ids

theorem mem_entries_iff (h : Reflects events m) (datasetId : UUID) :
    datasetId ∈ m.entries ↔ ∃ dataset ∈ addedBy events, dataset.id = datasetId := by
  obtain ⟨stored, hstored, hlists⟩ := h.entries
  rw [hlists.mem_iff, added_ids_eq hstored, List.mem_map]

theorem lookup (h : Reflects events m) {datasetId : UUID} {stored : Dataset}
    (hlookup : m.entries.lookup datasetId = some stored) :
    ∃ dataset ∈ addedBy events, dataset.id = datasetId ∧ StoredAs dataset stored := by
  obtain ⟨all, hstored, hlists⟩ := h.entries
  obtain ⟨hmem, rfl⟩ := (hlists.lookup_iff _ _).mp hlookup
  obtain ⟨i, hi, rfl⟩ := List.mem_iff_getElem.mp hmem
  obtain ⟨hlength, hat⟩ := List.forall₂_iff_get.mp hstored
  have hstoredAs : StoredAs (addedBy events)[i] all[i] := hat i (hlength ▸ hi) hi
  exact ⟨_, List.getElem_mem _, (congrArg Dataset.id hstoredAs.fields).symm, hstoredAs⟩

end Reflects

/-- **The repository refines a finite map.** After any run of calls on any objects: the run is a run
of the map; an initialized object finds exactly what was added under an id, and lists everything
added once, in every field as it was and with the same instant in UTC; any other object refuses
`add`, `get` and `list`; and an `add` that raises changes nothing. With nothing failing around it,
`add` raises for the reasons listed last and no other. -/
theorem repository_refines_catalog_map (h : Trace World.Step World.fresh events w) :
    (∃ m, Trace CatalogMap.Step CatalogMap.empty events m ∧ Represents w m) ∧
      ((addedBy events).map Dataset.id).Nodup ∧
      (∀ object ∈ initializedBy events,
        (∀ datasetId, ∃ found, w.call object (.get datasetId) = (.dataset found, w) ∧
          (found.isSome ↔ ∃ dataset ∈ addedBy events, dataset.id = datasetId) ∧
          ∀ stored ∈ found, ∃ dataset ∈ addedBy events, dataset.id = datasetId ∧
            StoredAs dataset stored) ∧
        ∃ listed stored, w.call object .list = (.datasets listed, w) ∧ listed.Perm stored ∧
          List.Forall₂ StoredAs (addedBy events) stored) ∧
      (∀ object, object ∉ initializedBy events → ∀ call : Call, call.needsConnection →
        w.call object call = (.raised notInitialized, w)) ∧
      (∀ object faults dataset e w', w.call object (.add faults dataset) = (.raised e, w') →
        w' = w) ∧
      ∀ object dataset, (∃ e, (w.call object (.add {} dataset)).1 = .raised e) ↔
        object ∉ initializedBy events ∨ (∃ added ∈ addedBy events, added.id = dataset.id) ∨
          ¬dataset.createdAt.UtcRepresentable ∨ ¬SizeFits dataset.sizeBytes := by
  obtain ⟨m, htrace, hrep⟩ := World.refines h
  have hreflects := CatalogMap.reflects htrace
  rw [← hreflects.initialized]
  refine ⟨⟨m, htrace, hrep⟩, hreflects.added_nodup, fun object hobject => ⟨fun datasetId => ?_, ?_⟩,
    ?_, ?_, ?_⟩
  · refine ⟨_, hrep.call_get hobject datasetId, ?_, fun stored hlookup => hreflects.lookup hlookup⟩
    rw [Finmap.lookup_isSome, hreflects.mem_entries_iff]
  · obtain ⟨listed, hcall, hlisted⟩ := hrep.call_list hobject
    obtain ⟨stored, hstored, hlists⟩ := hreflects.entries
    exact ⟨listed, stored, hcall, hlisted.perm hlists, hstored⟩
  · exact fun object hobject call hneeds => hrep.call_unavailable hobject hneeds
  · intro object faults dataset e w' hcall
    by_cases hobject : object ∈ m.initialized
    · rcases hrep.call_add hobject faults dataset with ⟨_, _, hok, -⟩ | ⟨e', hraised⟩
      · simp [hok] at hcall
      · exact (Prod.mk.inj (hraised.symm.trans hcall)).2.symm
    · have hneeds : (Call.add faults dataset).needsConnection := trivial
      exact (Prod.mk.inj ((hrep.call_unavailable hobject hneeds).symm.trans hcall)).2.symm
  · intro object dataset
    by_cases hobject : object ∈ m.initialized
    · rw [hrep.call_add_raises_iff hobject, hreflects.mem_entries_iff]
      simp only [hobject, not_true, false_or]
    · have hneeds : (Call.add {} dataset).needsConnection := trivial
      have hrefused := hrep.call_unavailable hobject hneeds
      simp only [hrefused, hobject, not_false_iff, true_or, iff_true]
      exact ⟨notInitialized, rfl⟩

/-- The calls of any sequence make a run. -/
theorem World.trace_perform (w : World) (calls : List (Nat × Call)) :
    Trace World.Step w (w.perform calls).1 (w.perform calls).2 := by
  induction calls generalizing w with
  | nil => exact .nil
  | cons c calls ih =>
      have hfirst : Trace World.Step w [⟨c.1, c.2, (w.call c.1 c.2).1⟩] (w.call c.1 c.2).2 :=
        .single rfl
      exact hfirst.append (ih _)

/-- 11 o'clock on 11 August 2026, five and a half hours east of UTC. -/
def sampleDataset : Dataset where
  id := ⟨7⟩
  providerId := "local"
  name := "sales"
  sourceType := "csv"
  reference := "unusual/../opaque reference.csv"
  assetUri := "file:///descriptive/sales.csv"
  sizeBytes := 24
  createdAt := ⟨2026, 8, 11, 11, 0, 0, 0, some 19800000000, by decide, by decide, by decide⟩
  status := .registered
  sha256 := none

/-- An `initialize` that fails and is retried, an `add`, the same `add` again, and a restart. -/
def sampleCalls : List (Nat × Call) :=
  [(0, .initializing { journalMode := some (.operationalError "database is locked") }),
    (0, .add {} sampleDataset), (0, .initializing {}), (0, .add {} sampleDataset),
    (0, .add {} sampleDataset), (0, .close), (1, .initializing {})]

theorem sampleCalls_history :
    addedBy (World.fresh.perform sampleCalls).1 = [sampleDataset] ∧
      1 ∈ initializedBy (World.fresh.perform sampleCalls).1 :=
  ⟨by decide +kernel, by decide +kernel⟩

theorem repository_refines_catalog_map_after_restart :
    ∃ stored, ((World.fresh.perform sampleCalls).2.call 1 (.get sampleDataset.id)).1 =
      .dataset (some stored) ∧
      StoredAs sampleDataset stored := by
  have hrun := repository_refines_catalog_map (World.fresh.trace_perform sampleCalls)
  have hhistory := sampleCalls_history
  generalize World.fresh.perform sampleCalls = run at hrun hhistory ⊢
  obtain ⟨hadded, hobject⟩ := hhistory
  obtain ⟨found, hcall, hfound, hstored⟩ := (hrun.2.2.1 1 hobject).1 sampleDataset.id
  rw [hadded] at hfound hstored
  cases found with
  | none => simp at hfound
  | some stored =>
      obtain ⟨dataset, hmem, -, hstoredAs⟩ := hstored stored rfl
      rw [List.mem_singleton.mp hmem] at hstoredAs
      exact ⟨stored, congrArg Prod.fst hcall, hstoredAs⟩

end Athena.Persistence
