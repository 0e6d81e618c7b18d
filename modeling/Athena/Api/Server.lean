import Athena.Api.Routes
import Athena.Persistence.ListingOrder

/-!
# What the API says of itself

Requests reach any number of processes that share the catalog; each process starts and stops as it
likes. What has been answered with 201 is all there is to know about the catalog: every process that
serves finds and lists these bodies, letter by letter, and no others.
-/

namespace Athena

namespace Persistence

theorem World.step_call (w : World) (object : Nat) (call : Call) :
    World.Step w ⟨object, call, (w.call object call).1⟩ (w.call object call).2 := rfl

end Persistence

open Library Library.Program Persistence SQLiteDatasetRepository

variable {V : Type} {tables : CaseTables} {table : Text.UpperTable} {readers : Readers V}

/-- One exchange as it went. -/
structure Exchange (V : Type) where
  application : Application V
  operation : Operation
  result : Except RouteError (Payload V)

def Exchange.Step (tables : CaseTables) (table : Text.UpperTable) (readers : Readers V) (w : World)
    (e : Exchange V) (w' : World) : Prop :=
  ∃ calls, exec (e.application.serve tables table readers e.operation) ⟨w, []⟩ =
    (e.result, ⟨w', calls⟩)

/-- The body of a registration that is answered with 201. -/
def Exchange.created (e : Exchange V) : Option DatasetResponse :=
  match e.operation, e.result with
  | .register _ _ _ _, .ok (.dataset response) => some response
  | _, _ => none

def created (exchanges : List (Exchange V)) : List DatasetResponse :=
  exchanges.filterMap Exchange.created

/-- The repositories of the processes that have started and not stopped since. -/
def serving (exchanges : List (Exchange V)) : Finset Nat :=
  exchanges.foldl (fun serving e =>
    match e.operation, e.result with
    | .startup _, .ok _ => insert e.application.repository serving
    | .shutdown, _ => serving.erase e.application.repository
    | _, _ => serving) ∅

/-- `datetime.now(UTC)`. -/
def Operation.Utc : Operation → Prop
  | .register _ now _ _ => now.utcoffset = some 0
  | _ => True

/-! ### One exchange -/

section Step

variable {w w' : World} {m : CatalogMap}

theorem Exchange.Step.performed {e : Exchange V} (h : Exchange.Step tables table readers w e w') :
    ∃ calls outcome, exec (e.application.perform table readers e.operation) ⟨w, []⟩ =
      (outcome, ⟨w', calls⟩) ∧
      e.result = (outcome.mapError e.operation.translate).map (Answer.payload tables) := by
  obtain ⟨calls, hexec⟩ := h
  rw [exec_serve] at hexec
  obtain ⟨hresult, hstate⟩ := Prod.mk.inj hexec
  exact ⟨calls, _, Prod.ext rfl hstate, hresult.symm⟩

/-- A registration that returns stores the dataset it returns; one that raises changes nothing. -/
theorem exec_register_stores (h : Represents w m) (service : DatasetService) (id : UUID)
    (now : Datetime) (faults : AddFaults) (reference : String) :
    (∃ dataset stored w' calls, exec (service.register id now faults reference) ⟨w, []⟩ =
      (.ok dataset, ⟨w', calls⟩) ∧
        dataset.createdAt = now ∧ dataset.id ∉ m.entries ∧ StoredAs dataset stored ∧
        Represents w' { m with entries := m.entries.insert dataset.id stored } ∧
        ∃ e, World.Step w e w') ∨
      ∃ e calls, exec (service.register id now faults reference) ⟨w, []⟩ =
        (.error e, ⟨w, calls⟩) := by
  rw [DatasetService.exec_register]
  cases hdescribe : service.storageProvider.describe reference with
  | error e => exact .inr ⟨_, _, rfl⟩
  | ok asset =>
      simp only [List.nil_append]
      rcases exec_askRepository_add h service.repository faults (service.datasetOf id now asset)
        [.describe reference] with
        ⟨w', stored, hexec, hnew, hstored, hrep⟩ | ⟨e, hexec⟩
      · left
        have hworld := world_askRepository service.repository (SQLiteDatasetRepository.add faults
          (service.datasetOf id now asset)) (fun _ => .returned) ⟨w, [.describe reference]⟩
        rw [hexec] at hworld
        rw [hexec]
        refine ⟨_, stored, w', _, rfl, rfl, hnew, hstored, hrep, ?_⟩
        exact ⟨_, hworld ▸ World.step_call w service.repository
          (.add faults (service.datasetOf id now asset))⟩
      · right
        rw [hexec]
        exact ⟨_, _, rfl⟩

/-- What one exchange does: it starts or stops its process, registers one new dataset, or changes
nothing. -/
inductive Effect (tables : CaseTables) (w : World) (m : CatalogMap) (e : Exchange V) :
    World → CatalogMap → Prop
  | started {w' : World} {faults : InitializeFaults} (hoperation : e.operation = .startup faults)
      (hresult : e.result = .ok .lifespan)
      (hrep :
        Represents w' { m with initialized := insert e.application.repository m.initialized }) :
      Effect tables w m e w' { m with initialized := insert e.application.repository m.initialized }
  | stopped {w' : World} (hoperation : e.operation = .shutdown)
      (hrep :
        Represents w' { m with initialized := m.initialized.erase e.application.repository }) :
      Effect tables w m e w' { m with initialized := m.initialized.erase e.application.repository }
  | registered {w' : World} {id : UUID} {now : Datetime} {faults : AddFaults} {reference : String}
      {dataset stored : Dataset} (hoperation : e.operation = .register id now faults reference)
      (hresult : e.result = .ok (.dataset (.modelValidate tables dataset)))
      (hnow : dataset.createdAt = now)
      (hnew : dataset.id ∉ m.entries) (hstored : StoredAs dataset stored)
      (hrep : Represents w' { m with entries := m.entries.insert dataset.id stored }) :
      Effect tables w m e w' { m with entries := m.entries.insert dataset.id stored }
  | unchanged (hcreated : e.created = none)
      (hstartup : ∀ faults, e.operation = .startup faults → ∀ a, e.result ≠ .ok a)
      (hshutdown : e.operation ≠ .shutdown) : Effect tables w m e w m

theorem Exchange.Step.effect {e : Exchange V} (h : Represents w m)
    (hstep : Exchange.Step tables table readers w e w') :
    (∃ m', Represents w' m' ∧ Effect tables w m e w' m') ∧
      (w' = w ∨ ∃ event, World.Step w event w') := by
  obtain ⟨calls, outcome, hperform, hresult⟩ := hstep.performed
  obtain ⟨self, operation, result⟩ := e
  have hreading : operation.Reads →
      (∃ m', Represents w' m' ∧ Effect tables w m ⟨self, operation, result⟩ w' m') ∧
        (w' = w ∨ ∃ event, World.Step w event w') := by
    intro hreads
    obtain ⟨outcome', calls', hexec⟩ :=
      @exec_perform_reads V table readers w m h self operation hreads
    obtain ⟨-, hstate⟩ := Prod.mk.inj (hperform.symm.trans hexec)
    obtain ⟨rfl, -⟩ := AppState.mk.inj hstate
    refine ⟨⟨m, h, .unchanged ?_ ?_ ?_⟩, .inl rfl⟩
    · cases operation with
      | startup | shutdown | register => exact hreads.elim
      | get | list | profile | query => rfl
    · rintro faults rfl
      exact hreads.elim
    · rintro rfl
      exact hreads
  cases operation with
  | get | list | profile | query => exact hreading trivial
  | startup faults =>
      rw [Application.perform, exec_bind] at hperform
      rcases h.call_initializing self.repository faults with ⟨w₁, hcall, hrep⟩ | ⟨-, e, hcall⟩
      · obtain ⟨_ | _, hexec, hresponse⟩ := exec_askRepository_of_run hcall []
        · cases hresponse
        · rw [hexec] at hperform
          obtain ⟨rfl, hstate⟩ := Prod.mk.inj hperform
          obtain ⟨rfl, -⟩ := AppState.mk.inj hstate
          exact ⟨⟨_, hrep, .started rfl hresult hrep⟩, .inr ⟨⟨_, _, _⟩, hcall⟩⟩
      · obtain ⟨_ | _, hexec, hresponse⟩ := exec_askRepository_of_run hcall []
        · rw [hexec] at hperform
          obtain ⟨rfl, hstate⟩ := Prod.mk.inj hperform
          obtain ⟨rfl, -⟩ := AppState.mk.inj hstate
          refine ⟨⟨m, h, .unchanged rfl ?_ ?_⟩, .inl rfl⟩
          · intro _ _ a hok
            cases hresult.symm.trans hok
          · intro hoperation
            cases hoperation
        · cases hresponse
  | shutdown =>
      have hworld := @world_shutdown V table readers self w
      rw [hperform] at hworld
      obtain rfl : w' = _ := hworld
      obtain ⟨w₁, hcall, hrep⟩ := h.call_close self.repository
      refine ⟨⟨_, ?_, .stopped rfl ?_⟩, .inr ⟨_, World.step_call w self.repository .close⟩⟩
      · rw [hcall]
        exact hrep
      · rw [hcall]
        exact hrep
  | register id now faults reference =>
      rw [Application.perform, exec_bind] at hperform
      rcases exec_register_stores h self.datasetService id now faults reference with
        ⟨dataset, stored, w₁, calls₁, hexec, hnow, hnew, hstored, hrep, hevent⟩ | ⟨e, calls₁, hexec⟩
      · rw [hexec] at hperform
        obtain ⟨rfl, hstate⟩ := Prod.mk.inj hperform
        obtain ⟨rfl, -⟩ := AppState.mk.inj hstate
        exact ⟨⟨_, hrep, .registered rfl hresult hnow hnew hstored hrep⟩, .inr hevent⟩
      · rw [hexec] at hperform
        obtain ⟨rfl, hstate⟩ := Prod.mk.inj hperform
        obtain ⟨rfl, -⟩ := AppState.mk.inj hstate
        refine ⟨⟨m, h, .unchanged ?_ ?_ ?_⟩, .inl rfl⟩
        · change result = .error _ at hresult
          rw [Exchange.created, hresult]
        · intro _ hoperation
          cases hoperation
        · intro hoperation
          cases hoperation

end Step

/-! ### Every run -/

/-- The catalog holds the datasets whose bodies have been answered with 201. -/
structure Serves (tables : CaseTables) (exchanges : List (Exchange V)) (w : World)
    (m : CatalogMap) : Prop where
  represents : Represents w m
  written : RowsWritten w
  initialized : m.initialized = serving exchanges
  entries : ∃ datasets, Lists datasets m.entries ∧
    datasets.map (.modelValidate tables) = created exchanges

theorem serves_fresh : Serves (V := V) tables [] World.fresh CatalogMap.empty :=
  ⟨fresh_represents_empty, (fun _ hrows => nomatch hrows), rfl, [], .nil, rfl⟩

theorem Serves.step {exchanges : List (Exchange V)} {w w' : World} {m : CatalogMap} {e : Exchange V}
    (h : Serves tables exchanges w m) (hstep : Exchange.Step tables table readers w e w')
    (hutc : e.operation.Utc) :
    ∃ m', Serves tables (exchanges ++ [e]) w' m' := by
  obtain ⟨⟨m', hrep, heffect⟩, hworld⟩ := hstep.effect h.represents
  obtain ⟨datasets, hlists, hdatasets⟩ := h.entries
  have hwritten : RowsWritten w' := by
    rcases hworld with rfl | ⟨event, hevent⟩
    · exact h.written
    · exact hevent.rowsWritten h.represents h.written
  have hserving : serving (exchanges ++ [e]) =
      match e.operation, e.result with
      | .startup _, .ok _ => insert e.application.repository (serving exchanges)
      | .shutdown, _ => (serving exchanges).erase e.application.repository
      | _, _ => serving exchanges := by
    rw [serving, List.foldl_append]
    rfl
  have hcreated : created (exchanges ++ [e]) = created exchanges ++ e.created.toList := by
    rw [created, List.filterMap_append, ← created]
    cases hbody : e.created with
    | none => simp [hbody]
    | some response => simp [hbody]
  refine ⟨m', hrep, hwritten, ?_, ?_⟩
  · rw [hserving]
    cases heffect with
    | started hoperation hresult => simp only [hoperation, hresult, h.initialized]
    | stopped hoperation => simp only [hoperation, h.initialized]
    | registered hoperation => simp only [hoperation, h.initialized]
    | unchanged _ hstartup hshutdown =>
        rw [h.initialized]
        split
        · rename_i hoperation hresult
          exact absurd hresult (hstartup _ hoperation _)
        · rename_i hoperation
          exact absurd hoperation hshutdown
        · rfl
  · rw [hcreated]
    cases heffect with
    | started hoperation | stopped hoperation =>
        refine ⟨datasets, hlists, ?_⟩
        rw [Exchange.created, hoperation]
        simpa using hdatasets
    | unchanged hnone =>
        refine ⟨datasets, hlists, ?_⟩
        rw [hnone]
        simpa using hdatasets
    | @registered _ id now faults reference dataset stored hoperation hresult hnow hnew hstored =>
        -- The clock is in UTC, so the dataset comes back as it was.
        rw [hoperation] at hutc
        have hsame : stored = dataset := by
          have hcreatedAt : stored.createdAt = dataset.createdAt :=
            Datetime.eq_of_instant hstored.utc (hnow ▸ hutc) hstored.instant
          rw [hstored.fields, hcreatedAt]
        subst hsame
        refine ⟨datasets ++ [stored], hlists.concat hnew, ?_⟩
        rw [List.map_append, hdatasets, Exchange.created, hoperation, hresult]
        rfl

theorem serves {exchanges : List (Exchange V)} {w : World}
    (h : Trace (Exchange.Step tables table readers) World.fresh exchanges w)
    (hutc : ∀ e ∈ exchanges, e.operation.Utc) : ∃ m, Serves tables exchanges w m := by
  revert hutc
  apply h.invariant (I := fun exchanges w => (∀ e ∈ exchanges, e.operation.Utc) →
    ∃ m, Serves tables exchanges w m)
  · exact fun _ => ⟨_, serves_fresh⟩
  · intro exchanges w e w' _ ih hstep hutc
    obtain ⟨m, hserves⟩ := ih fun e he => hutc e (List.mem_append_left _ he)
    exact hserves.step hstep (hutc e (List.mem_append_right _ (List.mem_singleton_self e)))

/-- A run stops before each of its exchanges in a world that its bodies tell all about. -/
theorem serves_before {first last : List (Exchange V)} {e : Exchange V} {w : World}
    (h : Trace (Exchange.Step tables table readers) World.fresh (first ++ e :: last) w)
    (hutc : ∀ e' ∈ first ++ e :: last, e'.operation.Utc) :
    ∃ w₁ w₂ m, Serves tables first w₁ m ∧ Exchange.Step tables table readers w₁ e w₂ ∧
      Trace (Exchange.Step tables table readers) w₂ last w := by
  obtain ⟨w₁, hfirst, hlater⟩ := h.split
  obtain ⟨w₂, hstep, hlast⟩ := hlater.of_cons
  obtain ⟨m, hserves⟩ := serves hfirst fun e' he' => hutc e' (List.mem_append_left _ he')
  exact ⟨w₁, w₂, m, hserves, hstep, hlast⟩

/-- Created earlier, or at the same moment under a smaller id. -/
def DatasetResponse.Before (a b : DatasetResponse) : Prop :=
  ∃ i j, a.createdAt.instant = some i ∧ b.createdAt.instant = some j ∧
    toLex (i, a.id.int.toNat) < toLex (j, b.id.int.toNat)

section Answers

variable {exchanges : List (Exchange V)} {w : World} {m : CatalogMap} {self : Application V}

theorem Serves.nodup (h : Serves tables exchanges w m) :
    ((created exchanges).map DatasetResponse.id).Nodup := by
  obtain ⟨datasets, hlists, hdatasets⟩ := h.entries
  rw [← hdatasets, List.map_map]
  exact hlists.ids

theorem Serves.exec_get (h : Serves tables exchanges w m)
    (hserving : self.repository ∈ serving exchanges) (datasetId : UUID) :
    (∃ response ∈ created exchanges, response.id = datasetId ∧
        exec (self.serve tables table readers (.get datasetId)) ⟨w, []⟩ =
          (.ok (.dataset response), ⟨w, []⟩)) ∨
      (∀ response ∈ created exchanges, response.id ≠ datasetId) ∧
        exec (self.serve tables table readers (.get datasetId)) ⟨w, []⟩ =
          (.error (.httpException 404 datasetId.str), ⟨w, []⟩) := by
  obtain ⟨datasets, hlists, hdatasets⟩ := h.entries
  have hobject : self.datasetService.repository ∈ m.initialized := h.initialized ▸ hserving
  have hget := exec_service_get h.represents self.datasetService datasetId []
  rw [if_pos hobject] at hget
  rw [exec_serve, Application.perform, exec_bind, hget]
  cases hlookup : m.entries.lookup datasetId with
  | some dataset =>
      obtain ⟨hmem, hid⟩ := (hlists.lookup_iff _ _).mp hlookup
      left
      refine ⟨.modelValidate tables dataset, ?_, hid, rfl⟩
      rw [← hdatasets]
      exact List.mem_map_of_mem hmem
  | none =>
      right
      refine ⟨?_, rfl⟩
      rw [← hdatasets]
      intro response hresponse hid
      obtain ⟨dataset, hmem, rfl⟩ := List.mem_map.mp hresponse
      rw [(hlists.lookup_iff _ _).mpr ⟨hmem, hid⟩] at hlookup
      cases hlookup

theorem Serves.exec_list (h : Serves tables exchanges w m)
    (hserving : self.repository ∈ serving exchanges) :
    ∃ responses, exec (self.serve tables table readers .list) ⟨w, []⟩ =
      (.ok (.datasets responses), ⟨w, []⟩) ∧
      responses.Perm (created exchanges) ∧ responses.Pairwise DatasetResponse.Before := by
  obtain ⟨datasets, hlists, hdatasets⟩ := h.entries
  have hobject : self.datasetService.repository ∈ m.initialized := h.initialized ▸ hserving
  obtain ⟨listed, hcall, hlisted⟩ := h.represents.call_list hobject
  obtain ⟨listed', hcall', hpairwise⟩ := call_list_pairwise h.represents h.written hobject
  obtain rfl : listed = listed' :=
    Response.datasets.inj (congrArg Prod.fst (hcall.symm.trans hcall'))
  obtain ⟨result, hexec, hresponse⟩ := exec_askRepository_of_run hcall []
  cases result with
  | error e => cases hresponse
  | ok found =>
      obtain rfl : listed = found := Response.datasets.inj hresponse
      refine ⟨listed.map (.modelValidate tables), ?_, ?_, ?_⟩
      · have hlist : exec self.datasetService.list ⟨w, []⟩ = (.ok listed, ⟨w, []⟩) := hexec
        rw [exec_serve, Application.perform, exec_bind, hlist]
        rfl
      · rw [← hdatasets]
        exact (hlisted.perm hlists).map _
      · exact List.pairwise_map.mpr hpairwise

/-- A process that has not started has no catalog to ask. -/
theorem Serves.exec_get_of_notServing (h : Serves tables exchanges w m)
    (hserving : self.repository ∉ serving exchanges) (datasetId : UUID) :
    exec (self.datasetService.get datasetId) ⟨w, []⟩ =
      (.error (.catalog notInitialized), ⟨w, []⟩) := by
  have hobject : self.datasetService.repository ∉ m.initialized := h.initialized ▸ hserving
  rw [exec_service_get h.represents, if_neg hobject]

theorem Serves.exec_notServing (h : Serves tables exchanges w m)
    (hserving : self.repository ∉ serving exchanges) {operation : Operation}
    (hoperation : operation = .list ∨ (∃ datasetId, operation = .get datasetId) ∨
      ∃ datasetId, operation = .profile datasetId) :
    exec (self.serve tables table readers operation) ⟨w, []⟩ =
      (.error (.unhandled (.catalog notInitialized)), ⟨w, []⟩) := by
  rw [exec_serve]
  rcases hoperation with rfl | ⟨datasetId, rfl⟩ | ⟨datasetId, rfl⟩
  · have hobject : self.repository ∉ m.initialized := h.initialized ▸ hserving
    have hneeds : Call.list.needsConnection := trivial
    obtain ⟨result, hexec, hresponse⟩ :=
      exec_askRepository_of_run (h.represents.call_unavailable hobject hneeds) []
    cases result with
    | ok found => cases hresponse
    | error e =>
        obtain rfl : notInitialized = e := Response.raised.inj hresponse
        have hlist : exec self.datasetService.list ⟨w, []⟩ =
            (.error (.catalog notInitialized), ⟨w, []⟩) := hexec
        rw [Application.perform, exec_bind, hlist]
        rfl
  · rw [Application.perform, exec_bind, h.exec_get_of_notServing hserving]
    rfl
  · have hget : exec (self.profilingService.datasetService.get datasetId) ⟨w, []⟩ =
        (.error (.catalog notInitialized), ⟨w, []⟩) := h.exec_get_of_notServing hserving datasetId
    rw [Application.perform, exec_bind, DatasetProfilingService.profile, exec_bind, hget]
    rfl

end Answers

/-- **The API answers for what it has created.** After any exchanges of any processes on one
catalog, each registration with the time in UTC: the bodies that have been answered with 201 have
distinct ids. A process that serves answers `GET /datasets/{id}` with the one of these bodies that
has the id, or with 404 and the id if none has, and `GET /datasets` with exactly these bodies, by
time and id, whichever process created them; a process that does not serve has no answer. No
exchange but a registration answered with 201 and the start or stop of a process changes anything.
-/
theorem api_serves_created {exchanges : List (Exchange V)} {w : World}
    (h : Trace (Exchange.Step tables table readers) World.fresh exchanges w)
    (hutc : ∀ e ∈ exchanges, e.operation.Utc) :
    ((created exchanges).map DatasetResponse.id).Nodup ∧
      (∀ self : Application V, self.repository ∈ serving exchanges →
        (∀ datasetId, (∃ response ∈ created exchanges, response.id = datasetId ∧
            exec (self.serve tables table readers (.get datasetId)) ⟨w, []⟩ =
              (.ok (.dataset response), ⟨w, []⟩)) ∨
          (∀ response ∈ created exchanges, response.id ≠ datasetId) ∧
            exec (self.serve tables table readers (.get datasetId)) ⟨w, []⟩ =
              (.error (.httpException 404 datasetId.str), ⟨w, []⟩)) ∧
        ∃ responses, exec (self.serve tables table readers .list) ⟨w, []⟩ =
          (.ok (.datasets responses), ⟨w, []⟩) ∧
          responses.Perm (created exchanges) ∧ responses.Pairwise DatasetResponse.Before) ∧
      (∀ self : Application V, self.repository ∉ serving exchanges → ∀ operation,
        (operation = .list ∨ (∃ datasetId, operation = .get datasetId) ∨
          ∃ datasetId, operation = .profile datasetId) →
          exec (self.serve tables table readers operation) ⟨w, []⟩ =
            (.error (.unhandled (.catalog notInitialized)), ⟨w, []⟩)) ∧
      ∀ e w', Exchange.Step tables table readers w e w' → e.created = none →
        (∀ faults, e.operation ≠ .startup faults) → e.operation ≠ .shutdown → w' = w := by
  obtain ⟨m, hserves⟩ := serves h hutc
  refine ⟨hserves.nodup,
    fun self hself => ⟨fun datasetId => hserves.exec_get hself datasetId, hserves.exec_list hself⟩,
    fun self hself operation hoperation => hserves.exec_notServing hself hoperation, ?_⟩
  intro e w' hstep hcreated hstartup hshutdown
  obtain ⟨⟨m', -, heffect⟩, -⟩ := hstep.effect hserves.represents
  cases heffect with
  | started hoperation => exact absurd hoperation (hstartup _)
  | stopped hoperation => exact absurd hoperation hshutdown
  | unchanged => rfl
  | registered hoperation hresult =>
      rw [Exchange.created, hoperation, hresult] at hcreated
      cases hcreated

/-- The exchanges of some operations, one after another. -/
def serveAll (tables : CaseTables) (table : Text.UpperTable) (readers : Readers V) (w : World) :
    List (Application V × Operation) → List (Exchange V) × World
  | [] => ([], w)
  | (application, operation) :: later =>
      match exec (application.serve tables table readers operation) ⟨w, []⟩ with
      | (result, state) =>
          let rest := serveAll tables table readers state.world later
          (⟨application, operation, result⟩ :: rest.1, rest.2)

theorem trace_serveAll (w : World) (operations : List (Application V × Operation)) :
    Trace (Exchange.Step tables table readers) w (serveAll tables table readers w operations).1
      (serveAll tables table readers w operations).2 := by
  induction operations generalizing w with
  | nil => exact .nil
  | cons first later ih =>
      obtain ⟨application, operation⟩ := first
      exact .cons ⟨_, rfl⟩ (ih _)

theorem operations_serveAll (w : World) (operations : List (Application V × Operation)) :
    (serveAll tables table readers w operations).1.map Exchange.operation =
      operations.map Prod.snd := by
  induction operations generalizing w with
  | nil => rfl
  | cons first later ih =>
      obtain ⟨application, operation⟩ := first
      rw [serveAll, List.map_cons, List.map_cons, ih]

def sampleExchanges : List (Exchange Nat) × World :=
  serveAll .ascii DatasetQueryService.asciiUpper sampleReaders World.fresh sampleOperations

theorem sampleExchanges_utc : ∀ e ∈ sampleExchanges.1, e.operation.Utc := by
  have hoperations : ∀ operation ∈ sampleExchanges.1.map Exchange.operation, operation.Utc := by
    rw [sampleExchanges, operations_serveAll]
    simp [sampleOperations, Operation.Utc, sampleNow]
  exact fun e he => hoperations _ (List.mem_map_of_mem he)

/-- What process 0 has registered, process 1 answers with. -/
theorem api_serves_created_sample :
    ∃ response ∈ created sampleExchanges.1, response.id = ⟨7⟩ ∧
      (exec
        ((sampleApplication 1).serve .ascii DatasetQueryService.asciiUpper sampleReaders (.get ⟨7⟩))
        ⟨sampleExchanges.2, []⟩).1 = .ok (.dataset response) := by
  have hserving : 1 ∈ serving sampleExchanges.1 := by decide +kernel
  have hid : (⟨7⟩ : UUID) ∈ (created sampleExchanges.1).map DatasetResponse.id := by decide +kernel
  rcases ((api_serves_created (trace_serveAll World.fresh sampleOperations) sampleExchanges_utc).2.1
    (sampleApplication 1) hserving).1 ⟨7⟩ with ⟨response, hmem, hresponse, hexec⟩ | ⟨hnone, -⟩
  · exact ⟨response, hmem, hresponse, congrArg Prod.fst hexec⟩
  · obtain ⟨response, hmem, hresponse⟩ := List.mem_map.mp hid
    exact absurd hresponse (hnone response hmem)

/-! ### The order of the listing -/

/-- Created at an earlier moment. -/
def DatasetResponse.Earlier (a b : DatasetResponse) : Prop :=
  ∃ i j, a.createdAt.instant = some i ∧ b.createdAt.instant = some j ∧ i < j

theorem DatasetResponse.Earlier.before {a b : DatasetResponse} (h : a.Earlier b) : a.Before b := by
  obtain ⟨i, j, hi, hj, hlt⟩ := h
  exact ⟨i, j, hi, hj, Prod.Lex.toLex_lt_toLex.mpr (.inl hlt)⟩

theorem DatasetResponse.Before.asymm {a b : DatasetResponse} (h : a.Before b) : ¬b.Before a := by
  rintro ⟨j, i, hj, hi, hgt⟩
  obtain ⟨i', j', hi', hj', hlt⟩ := h
  obtain rfl := Option.some.inj (hi.symm.trans hi')
  obtain rfl := Option.some.inj (hj.symm.trans hj')
  exact lt_asymm hlt hgt

/-- **The listing is the order of registration**, across all processes, as long as the clocks
advance from one registration that returns to the next. -/
theorem list_in_registration_order {exchanges : List (Exchange V)} {w : World}
    (h : Trace (Exchange.Step tables table readers) World.fresh exchanges w)
    (hutc : ∀ e ∈ exchanges, e.operation.Utc)
    (hclock : (created exchanges).Pairwise DatasetResponse.Earlier)
    {self : Application V} (hself : self.repository ∈ serving exchanges) :
    exec (self.serve tables table readers .list) ⟨w, []⟩ =
      (.ok (.datasets (created exchanges)), ⟨w, []⟩) := by
  obtain ⟨m, hserves⟩ := serves h hutc
  obtain ⟨responses, hexec, hperm, hpairwise⟩ :=
    @Serves.exec_list V tables table readers exchanges w m self hserves hself
  have hsame : responses = created exchanges := by
    apply List.Perm.eq_of_pairwise _ hpairwise (hclock.imp DatasetResponse.Earlier.before) hperm
    exact fun a b _ _ hab hba => absurd hba hab.asymm
  rw [hexec, hsame]

/-- Two processes register one file each, the larger id first. -/
def sampleTimed : List (Exchange Nat) × World :=
  serveAll .ascii DatasetQueryService.asciiUpper sampleReaders World.fresh
    [(sampleApplication 0, .startup {}), (sampleApplication 1, .startup {}),
      (sampleApplication 0, .register ⟨8⟩ sampleLater {} "a/f.csv"),
      (sampleApplication 1, .register ⟨7⟩ sampleNow {} "a/f.csv")]

theorem list_in_registration_order_sample :
    (exec ((sampleApplication 0).serve .ascii DatasetQueryService.asciiUpper sampleReaders .list)
        ⟨sampleTimed.2, []⟩).1 = .ok (.datasets (created sampleTimed.1)) ∧
      (created sampleTimed.1).map DatasetResponse.id = [⟨8⟩, ⟨7⟩] := by
  have hoperations : ∀ operation ∈ sampleTimed.1.map Exchange.operation, operation.Utc := by
    rw [sampleTimed, operations_serveAll]
    simp [Operation.Utc, sampleNow, sampleLater]
  have hutc : ∀ e ∈ sampleTimed.1, e.operation.Utc :=
    fun e he => hoperations _ (List.mem_map_of_mem he)
  have hids : (created sampleTimed.1).map DatasetResponse.id = [⟨8⟩, ⟨7⟩] := by decide +kernel
  have htimes : (created sampleTimed.1).map DatasetResponse.createdAt =
      [sampleLater, sampleNow] := by decide +kernel
  have hclock : (created sampleTimed.1).Pairwise DatasetResponse.Earlier := by
    have hpairwise : ((created sampleTimed.1).map DatasetResponse.createdAt).Pairwise fun s t =>
        ∃ i j, s.instant = some i ∧ t.instant = some j ∧ i < j := by
      rw [htimes]
      refine List.pairwise_pair.mpr
        ⟨sampleLater.wall, sampleNow.wall, ?_, ?_, by decide +kernel⟩ <;> decide +kernel
    rw [List.pairwise_map] at hpairwise
    exact hpairwise
  have hserving : 0 ∈ serving sampleTimed.1 := by decide +kernel
  have hlist := @list_in_registration_order Nat .ascii DatasetQueryService.asciiUpper sampleReaders
      sampleTimed.1
    sampleTimed.2 (trace_serveAll World.fresh _) hutc hclock (sampleApplication 0) hserving
  exact ⟨congrArg Prod.fst hlist, hids⟩

end Athena
