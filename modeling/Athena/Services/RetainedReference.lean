import Athena.Profiling.Profiler
import Athena.Services.DatasetServices

/-!
# Storage is asked for what was registered

A run of the application is any sequence of operations of any processes, one after another, each
with the storage as it is then. What a step does to the catalog is said once: an operation registers
a new id, or leaves every entry as it is. So the reference of an entry is the string of the one
registration that made it, and both services ask the provider for that string.
-/

namespace Athena

open Library Library.Program Persistence

variable {V : Type} {table : Text.UpperTable} {readers : Readers V}

/-- One operation as it went. -/
structure Performed (V : Type) where
  application : Application V
  operation : Operation
  calls : List StorageCall
  outcome : Except ServiceError (Answer V)

def Performed.Step (table : Text.UpperTable) (readers : Readers V) (w : World) (e : Performed V)
    (w' : World) : Prop :=
  exec (e.application.perform table readers e.operation) ⟨w, []⟩ = (e.outcome, ⟨w', e.calls⟩)

/-- The event is a registration of `reference` that returned, under the id `id`. -/
def Performed.Registers (e : Performed V) (id : UUID) (reference : String) : Prop :=
  ∃ now faults dataset, e.operation = .register id now faults reference ∧
    e.outcome = .ok (.dataset dataset)

def Registered (events : List (Performed V)) (id : UUID) (reference : String) : Prop :=
  ∃ e ∈ events, e.Registers id reference

/-! ### The catalog under one operation -/

variable {w w' : World} {m : CatalogMap}

theorem exec_askRepository_get (h : Represents w m) (object : Nat) (datasetId : UUID)
    (calls : List StorageCall) :
    exec (askRepository object (SQLiteDatasetRepository.get datasetId)) ⟨w, calls⟩ =
      (if object ∈ m.initialized then .ok (m.entries.lookup datasetId)
        else .error (.catalog SQLiteDatasetRepository.notInitialized), ⟨w, calls⟩) := by
  by_cases hobject : object ∈ m.initialized
  · obtain ⟨result, hexec, hresponse⟩ :=
      exec_askRepository_of_run (h.call_get hobject datasetId) calls
    rw [hexec, if_pos hobject]
    cases result with
    | error e => simp at hresponse
    | ok found =>
        obtain rfl : m.entries.lookup datasetId = found := by simpa using hresponse
        rfl
  · have hneeds : (Call.get datasetId).needsConnection := trivial
    obtain ⟨result, hexec, hresponse⟩ :=
      exec_askRepository_of_run (h.call_unavailable hobject hneeds) calls
    rw [hexec, if_neg hobject]
    cases result with
    | error e =>
        obtain rfl : SQLiteDatasetRepository.notInitialized = e := by simpa using hresponse
        rfl
    | ok found => simp at hresponse

theorem world_askRepository {α : Type} (object : Nat)
    (p : Program PyException SQLiteDatasetRepository α)
    (respond : α → Response) (state : AppState) :
    (exec (askRepository object p) state).2.world = (state.world.run object p respond).2 := by
  rw [exec_askRepository, World.run]
  rcases exec p ⟨state.world.database, state.world.connections object⟩ with ⟨e | a, self⟩
  · rfl
  · rfl

theorem fixes_list (h : Represents w m) (object : Nat) :
    Fixes AppState.world w (askRepository object SQLiteDatasetRepository.list) := by
  rintro state rfl
  rw [world_askRepository object _ .datasets]
  by_cases hobject : object ∈ m.initialized
  · obtain ⟨datasets, hcall, -⟩ := h.call_list hobject
    exact congrArg Prod.snd hcall
  · have hneeds : Call.list.needsConnection := trivial
    exact congrArg Prod.snd (h.call_unavailable hobject hneeds)

/-- An `add` enters the dataset under a new id, or raises and changes nothing. -/
theorem exec_askRepository_add (h : Represents w m) (object : Nat) (faults : AddFaults)
    (dataset : Dataset) (calls : List StorageCall) :
    (∃ w' stored,
      exec (askRepository object (SQLiteDatasetRepository.add faults dataset)) ⟨w, calls⟩ =
        (.ok ⟨⟩, ⟨w', calls⟩) ∧ dataset.id ∉ m.entries ∧
          SQLiteDatasetRepository.StoredAs dataset stored ∧
        Represents w' { m with entries := m.entries.insert dataset.id stored }) ∨
      ∃ e, exec (askRepository object (SQLiteDatasetRepository.add faults dataset)) ⟨w, calls⟩ =
        (.error e, ⟨w, calls⟩) := by
  have hrefused : ∀ e, w.call object (.add faults dataset) = (.raised e, w) →
      ∃ e, exec (askRepository object (SQLiteDatasetRepository.add faults dataset)) ⟨w, calls⟩ =
        (.error e, ⟨w, calls⟩) := by
    intro e hcall
    obtain ⟨result, hexec, hresponse⟩ := exec_askRepository_of_run hcall calls
    cases result with
    | error e => exact ⟨_, hexec⟩
    | ok _ => simp at hresponse
  by_cases hobject : object ∈ m.initialized
  · rcases h.call_add hobject faults dataset with
      ⟨w', stored, hcall, hnew, hstored, -, -, hrep⟩ | ⟨e, hcall⟩
    · obtain ⟨result, hexec, hresponse⟩ := exec_askRepository_of_run hcall calls
      cases result with
      | error e => simp at hresponse
      | ok _ => exact .inl ⟨w', stored, hexec, hnew, hstored, hrep⟩
    · exact .inr (hrefused e hcall)
  · have hneeds : (Call.add faults dataset).needsConnection := trivial
    exact .inr (hrefused _ (h.call_unavailable hobject hneeds))

/-! ### Operations that read -/

theorem exec_service_get (h : Represents w m) (service : DatasetService) (datasetId : UUID)
    (calls : List StorageCall) :
    exec (service.get datasetId) ⟨w, calls⟩ =
      (if service.repository ∈ m.initialized then
          match m.entries.lookup datasetId with
          | some dataset => .ok dataset
          | none => .error (.datasetNotFound datasetId.str)
        else .error (.catalog SQLiteDatasetRepository.notInitialized), ⟨w, calls⟩) := by
  rw [DatasetService.get, exec_bind, exec_askRepository_get h]
  by_cases hobject : service.repository ∈ m.initialized
  · simp only [if_pos hobject]
    cases m.entries.lookup datasetId with
    | none => rfl
    | some dataset => rfl
  · simp only [if_neg hobject]

/-- The catalog lookup of the application succeeds. -/
def Application.Finds (self : Application V) (w : World) (datasetId : UUID) (dataset : Dataset) :
    Prop :=
  (exec (self.datasetService.get datasetId) ⟨w, []⟩).1 = .ok dataset

theorem Application.Finds.lookup {self : Application V} {datasetId : UUID} {dataset : Dataset}
    (h : Represents w m) (hfound : self.Finds w datasetId dataset) :
    self.datasetService.repository ∈ m.initialized ∧ m.entries.lookup datasetId = some dataset := by
  rw [Finds, exec_service_get h] at hfound
  split at hfound
  · rename_i hobject
    refine ⟨hobject, ?_⟩
    cases hlookup : m.entries.lookup datasetId with
    | none => simp [hlookup] at hfound
    | some found => simpa [hlookup] using hfound
  · simp at hfound

/-- `profile`, and `query` of a text that the policy lets through, with what they do with the loaded
table. -/
inductive Consumes (table : Text.UpperTable) (self : Application V) (datasetId : UUID) :
    Operation → (TabularLoadResult V → Except ServiceError (Answer V)) → Prop
  | profile : Consumes table self datasetId (.profile datasetId)
      fun result => ((self.profiler result).mapError .profiler).map .profile
  | query {sql : String} (hpolicy : DatasetQueryService.validateSql table sql = .ok ()) :
      Consumes table self datasetId (.query datasetId sql) fun result =>
        (self.queryService.execute sql result).map .result

theorem exec_perform_of_finds (h : Represents w m) {self : Application V} {datasetId : UUID}
    {dataset : Dataset} (hfound : self.Finds w datasetId dataset) {operation : Operation}
    {use : TabularLoadResult V → Except ServiceError (Answer V)}
    (huse : Consumes table self datasetId operation use) :
    exec (self.perform table readers operation) ⟨w, []⟩ =
      ((loads readers self.storageProvider dataset).1.bind use,
        ⟨w, (loads readers self.storageProvider dataset).2⟩) := by
  obtain ⟨hobject, hlookup⟩ := hfound.lookup h
  have hget : exec (self.datasetService.get datasetId) ⟨w, []⟩ = (.ok dataset, ⟨w, []⟩) := by
    rw [exec_service_get h, if_pos hobject, hlookup]
  cases huse with
  | profile =>
      have hget' : exec (self.profilingService.datasetService.get datasetId) ⟨w, []⟩ =
          (.ok dataset, ⟨w, []⟩) := hget
      have hload := self.profilingService.exec_load readers dataset ⟨w, []⟩
      have hprovider : self.profilingService.storageProvider = self.storageProvider := rfl
      rw [hprovider] at hload
      simp only [Application.perform, DatasetProfilingService.profile, exec_bind, hget', hload,
        List.nil_append]
      cases (loads readers self.storageProvider dataset).1 with
      | error e => rfl
      | ok result =>
          simp only [exec_ofExcept, Except.bind]
          have hprofiler : self.profilingService.profiler = self.profiler := rfl
          rw [hprofiler]
          cases self.profiler result with
          | error e => rfl
          | ok profiled => rfl
  | @query sql hpolicy =>
      have hget' : exec (self.queryService.datasetService.get datasetId) ⟨w, []⟩ =
          (.ok dataset, ⟨w, []⟩) := hget
      have hload := self.queryService.exec_load readers dataset ⟨w, []⟩
      have hprovider : self.queryService.storageProvider = self.storageProvider := rfl
      rw [hprovider] at hload
      simp only [Application.perform, DatasetQueryService.query, exec_bind, hpolicy, exec_ofExcept,
        hget', hload, List.nil_append]
      cases (loads readers self.storageProvider dataset).1 with
      | error e => rfl
      | ok result =>
          simp only [Except.bind]
          cases self.queryService.execute sql result with
          | error e => rfl
          | ok executed => rfl

def Operation.Reads : Operation → Prop
  | .get _ | .list | .profile _ | .query _ _ => True
  | .startup _ | .shutdown | .register _ _ _ _ => False

theorem fixes_service_get (h : Represents w m) (service : DatasetService) (datasetId : UUID) :
    Fixes AppState.world w (service.get datasetId) := by
  rintro ⟨w, calls⟩ rfl
  rw [exec_service_get h]

theorem fixes_perform (h : Represents w m) (self : Application V) {operation : Operation}
    (hreads : operation.Reads) : Fixes AppState.world w (self.perform table readers operation) := by
  have hget := fixes_service_get h self.datasetService
  cases operation with
  | startup | shutdown | register => exact hreads.elim
  | get datasetId => exact (hget datasetId).bind fun _ => fixes_pure _
  | list => exact (fixes_list h self.repository).bind fun _ => fixes_pure _
  | profile datasetId =>
      have hload :
          ∀ dataset, Fixes AppState.world w (self.profilingService.load readers dataset) := by
        rintro dataset state rfl
        rw [DatasetProfilingService.exec_load]
      apply Fixes.bind _ fun _ => fixes_pure _
      exact (hget datasetId).bind fun dataset => (hload dataset).bind fun _ => fixes_ofExcept _
  | query datasetId sql =>
      have hload : ∀ dataset, Fixes AppState.world w (self.queryService.load readers dataset) := by
        rintro dataset state rfl
        rw [DatasetQueryService.exec_load]
      apply Fixes.bind _ fun _ => fixes_pure _
      apply (fixes_ofExcept _).bind
      exact fun _ =>
        (hget datasetId).bind fun dataset => (hload dataset).bind fun _ => fixes_ofExcept _

/-- An operation that reads, successful or not, leaves the catalog as it is. -/
theorem exec_perform_reads (h : Represents w m) (self : Application V) {operation : Operation}
    (hreads : operation.Reads) :
    ∃ outcome calls, exec (self.perform table readers operation) ⟨w, []⟩ =
      (outcome, ⟨w, calls⟩) := by
  have hworld := @fixes_perform V table readers w m h self operation hreads ⟨w, []⟩ rfl
  rcases hexec : exec (self.perform table readers operation) ⟨w, []⟩ with ⟨outcome, w', calls⟩
  rw [hexec] at hworld
  obtain rfl : w' = w := hworld
  exact ⟨outcome, calls, rfl⟩

/-! ### Every operation -/

theorem world_startup (self : Application V) (faults : InitializeFaults) (w : World) :
    (exec (self.perform table readers (.startup faults)) ⟨w, []⟩).2.world =
      (w.call self.repository (.initializing faults)).2 := by
  rw [Application.perform, snd_exec_bind_pure]
  exact world_askRepository self.repository _ (fun _ => .returned) ⟨w, []⟩

theorem world_shutdown (self : Application V) (w : World) :
    (exec (self.perform table readers .shutdown) ⟨w, []⟩).2.world =
      (w.call self.repository .close).2 := by
  rw [Application.perform, snd_exec_bind_pure]
  exact world_askRepository self.repository _ (fun _ => .returned) ⟨w, []⟩

/-- A registration that returns enters its reference under a new id; one that raises changes
nothing. -/
theorem exec_register_cases (h : Represents w m) (service : DatasetService) (id : UUID)
    (now : Datetime) (faults : AddFaults) (reference : String) :
    (∃ dataset stored w' calls, exec (service.register id now faults reference) ⟨w, []⟩ =
      (.ok dataset, ⟨w', calls⟩) ∧
        id ∉ m.entries ∧ stored.reference = reference ∧
          Represents w' { m with entries := m.entries.insert id stored }) ∨
      ∃ e calls, exec (service.register id now faults reference) ⟨w, []⟩ =
        (.error e, ⟨w, calls⟩) := by
  rw [DatasetService.exec_register]
  cases hdescribe : service.storageProvider.describe reference with
  | error e => exact .inr ⟨_, _, rfl⟩
  | ok asset =>
      simp only [List.nil_append]
      rcases exec_askRepository_add h service.repository faults (service.datasetOf id now asset)
        [.describe reference] with
        ⟨w', stored, hexec, hnew, hstored, hrep⟩ | ⟨e, hexec⟩
      · left
        rw [hexec]
        refine ⟨_, stored, w', _, rfl, hnew, ?_, hrep⟩
        rw [hstored.fields]
        exact service.storageProvider.describe_reference reference asset hdescribe
      · right
        rw [hexec]
        exact ⟨_, _, rfl⟩

theorem Performed.not_registers {e : Performed V}
    (h : ∀ id now faults reference, e.operation ≠ .register id now faults reference) (id : UUID)
    (reference : String) :
    ¬e.Registers id reference := by
  rintro ⟨now, faults, dataset, hregister, -⟩
  exact h id now faults reference hregister

/-- An operation other than a registration keeps every entry. -/
theorem represents_perform (h : Represents w m) (self : Application V) {operation : Operation}
    (hother : ∀ id now faults reference, operation ≠ .register id now faults reference) :
    ∃ m', Represents (exec (self.perform table readers operation) ⟨w, []⟩).2.world m' ∧
      m'.entries = m.entries := by
  have hreading : operation.Reads →
      ∃ m', Represents (exec (self.perform table readers operation) ⟨w, []⟩).2.world m' ∧
      m'.entries = m.entries := by
    intro hreads
    rw [fixes_perform h self hreads ⟨w, []⟩ rfl]
    exact ⟨m, h, rfl⟩
  cases operation with
  | get | list | profile | query => exact hreading trivial
  | register id now faults reference => exact absurd rfl (hother id now faults reference)
  | startup faults =>
      rw [world_startup]
      rcases h.call_initializing self.repository faults with ⟨w', hcall, hrep⟩ | ⟨-, e, hcall⟩
      · rw [hcall]
        exact ⟨_, hrep, rfl⟩
      · rw [hcall]
        exact ⟨m, h, rfl⟩
  | shutdown =>
      rw [world_shutdown]
      obtain ⟨w', hcall, hrep⟩ := h.call_close self.repository
      rw [hcall]
      exact ⟨_, hrep, rfl⟩

/-- What one operation does to the catalog: it registers one reference under a new id, or it
registers nothing and keeps every entry. -/
theorem Performed.Step.enters {e : Performed V} (h : Represents w m)
    (hstep : Performed.Step table readers w e w') :
    (∃ m', Represents w' m' ∧ m'.entries = m.entries ∧ ∀ id reference, ¬e.Registers id reference) ∨
      ∃ m' id reference stored, Represents w' m' ∧ id ∉ m.entries ∧
      m'.entries = m.entries.insert id stored ∧
        stored.reference = reference ∧
        ∀ id' reference', e.Registers id' reference' ↔ id' = id ∧ reference' = reference := by
  obtain ⟨self, operation, calls, outcome⟩ := e
  change exec (self.perform table readers operation) ⟨w, []⟩ = (outcome, ⟨w', calls⟩) at hstep
  by_cases hother : ∀ id now faults reference, operation ≠ .register id now faults reference
  · obtain ⟨m', hrep, hentries⟩ := @represents_perform V table readers w m h self operation hother
    rw [hstep] at hrep
    exact .inl ⟨m', hrep, hentries, Performed.not_registers hother⟩
  · push Not at hother
    obtain ⟨id, now, faults, reference, rfl⟩ := hother
    rw [Application.perform, exec_bind] at hstep
    rcases exec_register_cases h self.datasetService id now faults reference with
      ⟨dataset, stored, w₁, calls₁, hexec, hnew, hreference, hrep⟩ | ⟨e, calls₁, hexec⟩
    · right
      rw [hexec] at hstep
      obtain ⟨rfl, hstate⟩ := Prod.mk.inj hstep
      obtain ⟨rfl, -⟩ := AppState.mk.inj hstate
      refine ⟨_, id, reference, stored, hrep, hnew, rfl, hreference, fun id' reference' => ?_⟩
      constructor
      · rintro ⟨now', faults', dataset', hoperation, -⟩
        obtain ⟨rfl, -, -, rfl⟩ := Operation.register.inj hoperation
        exact ⟨rfl, rfl⟩
      · rintro ⟨rfl, rfl⟩
        exact ⟨now, faults, dataset, rfl, rfl⟩
    · left
      rw [hexec] at hstep
      obtain ⟨rfl, hstate⟩ := Prod.mk.inj hstep
      obtain ⟨rfl, -⟩ := AppState.mk.inj hstate
      refine ⟨m, h, rfl, ?_⟩
      rintro id' reference' ⟨now', faults', dataset', -, houtcome⟩
      simp at houtcome

/-! ### Every run -/

/-- The entries of the catalog are the registrations of the run: each under its id, with its
reference. -/
structure Retains (events : List (Performed V)) (w : World) (m : CatalogMap) : Prop where
  represents : Represents w m
  registered_iff : ∀ id reference,
    Registered events id reference ↔
      ∃ stored, m.entries.lookup id = some stored ∧ stored.reference = reference

theorem registered_concat {events : List (Performed V)} {e : Performed V} {id : UUID}
    {reference : String} :
    Registered (events ++ [e]) id reference ↔ Registered events id reference ∨
      e.Registers id reference := by
  simp only [Registered, List.mem_append, List.mem_singleton]
  constructor
  · rintro ⟨e', hold | rfl, hregisters⟩
    · exact .inl ⟨e', hold, hregisters⟩
    · exact .inr hregisters
  · rintro (⟨e', hold, hregisters⟩ | hregisters)
    · exact ⟨e', .inl hold, hregisters⟩
    · exact ⟨e, .inr rfl, hregisters⟩

theorem Retains.step {events : List (Performed V)} {e : Performed V} (h : Retains events w m)
    (hstep : Performed.Step table readers w e w') : ∃ m', Retains (events ++ [e]) w' m' := by
  rcases hstep.enters h.represents with ⟨m', hrep, hentries, hnone⟩ |
    ⟨m', id, reference, stored, hrep, hnew, hentries, hreference, hregisters⟩
  · refine ⟨m', hrep, fun id reference => ?_⟩
    rw [registered_concat, hentries, ← h.registered_iff]
    simp only [hnone, or_false]
  · refine ⟨m', hrep, fun id' reference' => ?_⟩
    rw [registered_concat, hentries, hregisters, h.registered_iff]
    by_cases hsame : id' = id
    · subst hsame
      have hlookup : m.entries.lookup id' = none := Finmap.lookup_eq_none.mpr hnew
      rw [Finmap.lookup_insert, hlookup]
      simp [← hreference, eq_comm]
    · rw [Finmap.lookup_insert_of_ne _ hsame]
      simp [hsame]

theorem retains {events : List (Performed V)}
    (h : Trace (Performed.Step table readers) World.fresh events w) :
    ∃ m, Retains events w m := by
  apply h.invariant (I := fun events w => ∃ m, Retains events w m)
  · refine ⟨CatalogMap.empty, fresh_represents_empty, fun id reference => ?_⟩
    simp [Registered, CatalogMap.empty]
  · rintro events w e w' - ⟨m, hretains⟩ hstep
    exact hretains.step hstep

/-- An entry stays what it is. -/
theorem lookup_later {later : List (Performed V)} (h : Represents w m)
    (hlater : Trace (Performed.Step table readers) w later w') :
    ∃ m', Represents w' m' ∧ ∀ id stored, m.entries.lookup id = some stored →
      m'.entries.lookup id = some stored := by
  apply hlater.invariant (I := fun _ w' => ∃ m', Represents w' m' ∧
    ∀ id stored, m.entries.lookup id = some stored → m'.entries.lookup id = some stored)
  · exact ⟨m, h, fun _ _ hlookup => hlookup⟩
  · rintro events w₁ e w₂ - ⟨m₁, hrep, hkept⟩ hstep
    rcases hstep.enters hrep with
      ⟨m₂, hrep', hentries, -⟩ | ⟨m₂, id, -, stored, hrep', hnew, hentries, -⟩
    · exact ⟨m₂, hrep', fun id stored hlookup => hentries ▸ hkept id stored hlookup⟩
    · refine ⟨m₂, hrep', fun id' stored' hlookup => ?_⟩
      have hold := hkept id' stored' hlookup
      have hne : id' ≠ id := by
        rintro rfl
        rw [Finmap.lookup_eq_none.mpr hnew] at hold
        simp at hold
      rw [hentries, Finmap.lookup_insert_of_ne _ hne]
      exact hold

/-- **Both services use the retained reference.** After any run of the application: an operation
that reads leaves the catalog as it is. Where the lookup of an id finds a dataset, its reference is
the string of the one registration of that id; `profile`, and `query` of a text within the policy,
ask the provider for exactly this string if the source type has a loader, and for nothing otherwise;
and now or later, in this process or another, they load the same while the provider answers the
same. -/
theorem services_use_retained_reference {events : List (Performed V)}
    (h : Trace (Performed.Step table readers) World.fresh events w) :
    (∀ (self : Application V) operation, operation.Reads →
      ∃ outcome calls, exec (self.perform table readers operation) ⟨w, []⟩ =
        (outcome, ⟨w, calls⟩)) ∧
    ∀ (self : Application V) datasetId dataset, self.Finds w datasetId dataset →
      (∀ reference, Registered events datasetId reference ↔ reference = dataset.reference) ∧
      (∀ operation use, Consumes table self datasetId operation use →
        ∃ outcome calls, exec (self.perform table readers operation) ⟨w, []⟩ =
          (outcome, ⟨w, calls⟩) ∧
          (dataset.sourceType ∈ SUPPORTED → calls = asked self.storageProvider dataset.reference) ∧
          (dataset.sourceType ∉ SUPPORTED → calls = [] ∧
            outcome = .error
              (.unsupportedDatasetFormat ("Unsupported dataset format: " ++ dataset.sourceType)))) ∧
      ∀ (later : List (Performed V)) w' (self' : Application V) dataset',
        Trace (Performed.Step table readers) w later w' →
        self'.Finds w' datasetId dataset' →
        self'.storageProvider.describe dataset.reference =
          self.storageProvider.describe dataset.reference →
        self'.storageProvider.openBinary dataset.reference =
          self.storageProvider.openBinary dataset.reference →
        dataset' = dataset ∧ ∀ operation use, Consumes table self' datasetId operation use →
          (exec (self'.perform table readers operation) ⟨w', []⟩).1 =
            (loads readers self.storageProvider dataset).1.bind use := by
  obtain ⟨m, hretains⟩ := retains h
  have hrep := hretains.represents
  refine ⟨fun self operation hreads => exec_perform_reads hrep self hreads,
    fun self datasetId dataset hfound => ?_⟩
  obtain ⟨-, hlookup⟩ := hfound.lookup hrep
  refine ⟨fun reference => ?_, fun operation use huse => ?_, ?_⟩
  · rw [hretains.registered_iff, hlookup]
    simp [eq_comm]
  · refine ⟨_, _, exec_perform_of_finds hrep hfound huse,
      loads_supported readers self.storageProvider, fun hunsupported => ?_⟩
    rw [loads_unsupported readers self.storageProvider hunsupported]
    exact ⟨rfl, rfl⟩
  · intro later w' self' dataset' hlater hfound' hdescribe hopen
    obtain ⟨m', hrep', hkept⟩ := lookup_later hrep hlater
    obtain ⟨-, hlookup'⟩ := hfound'.lookup hrep'
    obtain rfl : dataset = dataset' := Option.some.inj ((hkept _ _ hlookup).symm.trans hlookup')
    refine ⟨rfl, fun operation use huse => ?_⟩
    rw [exec_perform_of_finds hrep' hfound' huse, loads_congr hdescribe hopen]

/-! ### A run over two processes -/

/-- The run of some operations, one after another. -/
def performAll (table : Text.UpperTable) (readers : Readers V) (w : World) :
    List (Application V × Operation) → List (Performed V) × World
  | [] => ([], w)
  | (application, operation) :: later =>
      match exec (application.perform table readers operation) ⟨w, []⟩ with
      | (outcome, ⟨w', calls⟩) =>
          let result := performAll table readers w' later
          (⟨application, operation, calls, outcome⟩ :: result.1, result.2)

theorem trace_performAll (w : World) (operations : List (Application V × Operation)) :
    Trace (Performed.Step table readers) w (performAll table readers w operations).1
      (performAll table readers w operations).2 := by
  induction operations generalizing w with
  | nil => exact .nil
  | cons first later ih =>
      obtain ⟨application, operation⟩ := first
      exact .cons rfl (ih _)

/-- A header line without rows; a frame is as large as it is wide. -/
def sampleReaders : Readers Nat where
  readCsv := fun _ source => .ok (.single (if source = [104, 105] then "hi" else "") .string [])
  readExcel := fun _ _ => .error .named
  estimatedSize := fun dataframe => dataframe.width

/-- Every reference denotes one file. -/
def sampleProvider : StorageProvider where
  describe := fun reference => .ok ⟨reference, "f", "csv", "file:///a/f.csv", 2,
    "8f434346648f6b96df89dda901c5176b10a6d83961dd3c1ac88b59b2dc327aa4"⟩
  openBinary := fun _ => .ok [104, 105]
  describe_reference := by
    intro reference asset hdescribe
    rw [← Except.ok.inj hdescribe]

def sampleApplication (repository : Nat) : Application Nat where
  storageProvider := sampleProvider
  repository := repository
  providerId := "local"
  profiler := DatasetProfiler.profile .ascii ⟨fun _ => none, fun _ => ""⟩
  queryEngine := fun result sql => .returned ⟨sql, result.dataframe, 0, 1, 0⟩
  maxRows := 10000

/-- Two references of one file are registered, and the process is restarted. -/
def sampleOperations : List (Application Nat × Operation) :=
  [(sampleApplication 0, .startup {}),
    (sampleApplication 0, .register ⟨7⟩ sampleNow {} "a/../a/f.csv"),
    (sampleApplication 0, .register ⟨8⟩ sampleNow {} "a/f.csv"), (sampleApplication 0, .shutdown),
    (sampleApplication 1, .startup {})]

/-- The new process asks for the string that was registered, although another entry has its normal
form. -/
theorem services_use_retained_reference_sample :
    (exec ((sampleApplication 1).perform DatasetQueryService.asciiUpper sampleReaders
        (.query ⟨7⟩ "SELECT * FROM dataset"))
        ⟨(performAll DatasetQueryService.asciiUpper sampleReaders World.fresh sampleOperations).2,
          []⟩).2.calls =
      [.describe "a/../a/f.csv", .openBinary "a/../a/f.csv"] := by
  have hrun := services_use_retained_reference
    (@trace_performAll Nat DatasetQueryService.asciiUpper sampleReaders World.fresh
      sampleOperations)
  generalize hw : (performAll DatasetQueryService.asciiUpper sampleReaders World.fresh
    sampleOperations).2 = w at hrun ⊢
  have hfound : ∃ dataset, (sampleApplication 1).Finds w ⟨7⟩ dataset ∧
      dataset.reference = "a/../a/f.csv" ∧
      dataset.sourceType = "csv" := by
    rw [← hw]
    exact ⟨_, rfl, by decide +kernel, by decide +kernel⟩
  obtain ⟨dataset, hfinds, hreference, hsource⟩ := hfound
  have hpolicy : DatasetQueryService.validateSql DatasetQueryService.asciiUpper
      "SELECT * FROM dataset" = .ok () := by
    decide
  obtain ⟨outcome, calls, hexec, hasked, -⟩ := (hrun.2 _ _ _ hfinds).2.1 _ _ (.query hpolicy)
  rw [hexec]
  show calls = [.describe "a/../a/f.csv", .openBinary "a/../a/f.csv"]
  rw [hasked (by rw [hsource]; decide), hreference]
  rfl

end Athena
