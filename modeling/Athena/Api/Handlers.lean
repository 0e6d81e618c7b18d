import Athena.Api.Server
import Athena.Persistence.Concurrency

/-!
# One handler

A handler asks the catalog at most once. Before that it asks the storage for the asset or checks the
text of the query, and afterwards it makes its answer of what it was told. So an operation is a
request, which raises or comes to one call of the repository, and an answer that follows from the
response.
-/

namespace Athena

open Library Library.Program Persistence

variable {V : Type}

/-! ### What a handler does around its call -/

namespace Application

/-- An operation as it reaches its handler, with the id and the time that it will be given. -/
inductive Request
  | startup
  | shutdown
  | register (id : UUID) (now : Datetime) (reference : String)
  | get (datasetId : UUID)
  | list
  | profile (datasetId : UUID)
  | query (datasetId : UUID) (sql : String)

/-- The operation that it turns out to be, from what went wrong in the call. -/
def Request.operation : Request → Call → Operation
  | .startup, .initializing faults => .startup faults
  | .startup, _ => .startup {}
  | .shutdown, _ => .shutdown
  | .register id now reference, .add faults _ => .register id now faults reference
  | .register id now reference, _ => .register id now {} reference
  | .get datasetId, _ => .get datasetId
  | .list, _ => .list
  | .profile datasetId, _ => .profile datasetId
  | .query datasetId sql, _ => .query datasetId sql

/-- What the handler asks of the repository, or what it raises before. -/
def asks (table : Text.UpperTable) (self : Application V) :
    Request → Except ServiceError Persistence.Request
  | .startup => .ok .initializing
  | .shutdown => .ok .close
  | .register id now reference => do
      let asset ← (self.storageProvider.describe reference).mapError .storage
      return .add (self.datasetService.datasetOf id now asset)
  | .get datasetId | .profile datasetId => .ok (.get datasetId)
  | .list => .ok .list
  | .query datasetId sql => do
      DatasetQueryService.validateSql table sql
      return .get datasetId

/-- What it does with the dataset that it was after. -/
def uses (readers : Readers V) (self : Application V) (request : Request) (dataset : Dataset) :
    Except ServiceError (Answer V) :=
  match request with
  | .profile _ => do
      let result ← (loads readers self.storageProvider dataset).1
      return .profile (← (self.profiler result).mapError .profiler)
  | .query _ sql => do
      let result ← (loads readers self.storageProvider dataset).1
      return .result (← self.queryService.execute sql result)
  | _ => .ok (.dataset dataset)

/-- What it makes of the repository's answer. -/
def concludes (readers : Readers V) (self : Application V) (request : Request) :
    Persistence.Request → Response → Except ServiceError (Answer V)
  | _, .raised e => .error (.catalog e)
  | .get datasetId, .dataset none => .error (.datasetNotFound datasetId.str)
  | .get _, .dataset (some dataset) => self.uses readers request dataset
  | .list, .datasets listed => .ok (.datasets listed)
  | .add dataset, _ => .ok (.dataset dataset)
  | _, _ => .ok .done

/-- The answer to the client. -/
def replies (tables : CaseTables) (request : Request) (outcome : Except ServiceError (Answer V)) :
    Except RouteError (Payload V) :=
  (outcome.mapError (request.operation .close).translate).map (Answer.payload tables)

theorem Request.translate_operation (request : Request) (call call' : Call) :
    (request.operation call).translate = (request.operation call').translate := by
  cases request with
  | startup => cases call <;> cases call' <;> rfl
  | register => cases call <;> cases call' <;> rfl
  | shutdown | get | list | profile | query => rfl

section Exec

variable {table : Text.UpperTable} {readers : Readers V} {self : Application V} {request : Request}
  {w w' : World} {call : Call} {response : Response} {calls : List StorageCall}

/-- A service goes on with what the repository returns, and passes on what it raises. -/
theorem exec_askRepository_bind {α β : Type} {object : Nat}
    {p : Program PyException SQLiteDatasetRepository α}
    {respond : α → Response} (h : w.run object p respond = (response, w')) (next : α → Service β)
    (calls : List StorageCall) :
    (∃ a, response = respond a ∧
      exec (askRepository object p >>= next) ⟨w, calls⟩ = exec (next a) ⟨w', calls⟩) ∨
      ∃ e, response = .raised e ∧
        exec (askRepository object p >>= next) ⟨w, calls⟩ = (.error (.catalog e), ⟨w', calls⟩) := by
  obtain ⟨result, hexec, hresponse⟩ := exec_askRepository_of_run h calls
  rw [exec_bind, hexec]
  cases result with
  | ok a => exact .inl ⟨a, hresponse, rfl⟩
  | error e => exact .inr ⟨e, hresponse, rfl⟩

theorem exec_get_of_call {service : DatasetService} {datasetId : UUID}
    (h : w.call service.repository (.get datasetId) = (response, w')) (calls : List StorageCall) :
    (∃ dataset, response = .dataset (some dataset) ∧
        exec (service.get datasetId) ⟨w, calls⟩ = (.ok dataset, ⟨w', calls⟩)) ∨
      (response = .dataset none ∧
        exec (service.get datasetId) ⟨w, calls⟩ =
          (.error (.datasetNotFound datasetId.str), ⟨w', calls⟩)) ∨
      ∃ e, response = .raised e ∧
      exec (service.get datasetId) ⟨w, calls⟩ = (.error (.catalog e), ⟨w', calls⟩) := by
  obtain ⟨result, hexec, hresponse⟩ := exec_askRepository_of_run h calls
  rw [DatasetService.get, exec_bind, hexec]
  cases result with
  | error e => exact .inr (.inr ⟨e, hresponse, rfl⟩)
  | ok found =>
      cases found with
      | none => exact .inr (.inl ⟨hresponse, rfl⟩)
      | some dataset => exact .inl ⟨dataset, hresponse, rfl⟩

/-- Who raises before it asks leaves the catalog alone. -/
theorem exec_perform_of_refused {e : ServiceError} (h : self.asks table request = .error e)
    (call : Call) (calls : List StorageCall) :
    ∃ calls', exec (self.perform table readers (request.operation call)) ⟨w, calls⟩ =
      (.error e, ⟨w, calls'⟩) := by
  cases request with
  | startup | shutdown | get | list | profile => cases h
  | register id now reference =>
      obtain ⟨faults, hoperation⟩ : ∃ faults, (Request.register id now reference).operation call =
          .register id now faults reference := by
        cases call <;> exact ⟨_, rfl⟩
      rw [hoperation, perform, exec_bind, DatasetService.exec_register]
      change (((self.storageProvider.describe reference).mapError .storage).bind _ :
        Except ServiceError _) = _ at h
      have hprovider : self.datasetService.storageProvider = self.storageProvider := rfl
      rw [hprovider]
      cases hdescribe : self.storageProvider.describe reference with
      | ok asset =>
          rw [hdescribe] at h
          cases h
      | error refusal =>
          rw [hdescribe] at h
          obtain rfl := Except.error.inj h
          exact ⟨_, rfl⟩
  | query datasetId sql =>
      have hperform : self.perform table readers ((Request.query datasetId sql).operation call) =
          (do return .result (← self.queryService.query table readers datasetId sql)) := rfl
      change ((DatasetQueryService.validateSql table sql).bind _ : Except ServiceError _) = _ at h
      rw [hperform, exec_bind, DatasetQueryService.query, exec_bind, exec_ofExcept]
      cases hpolicy : DatasetQueryService.validateSql table sql with
      | ok =>
          rw [hpolicy] at h
          cases h
      | error refusal =>
          rw [hpolicy] at h
          obtain rfl := Except.error.inj h
          exact ⟨_, rfl⟩

/-- **A handler is what it does before its call, the call, and what it does after.** -/
theorem exec_perform_of_call (hasks : self.asks table request = .ok call.request)
    (h : w.call self.repository call = (response, w')) (calls : List StorageCall) :
    ∃ calls', exec (self.perform table readers (request.operation call)) ⟨w, calls⟩ =
      (self.concludes readers request call.request response, ⟨w', calls'⟩) := by
  cases request with
  | startup =>
      cases call with
      | close | add | get | list => cases hasks
      | initializing faults =>
          rcases exec_askRepository_bind h (fun _ => pure (Answer.done (V := V))) calls with
            ⟨_, rfl, hexec⟩ | ⟨e, rfl, hexec⟩
          · exact ⟨calls, hexec⟩
          · exact ⟨calls, hexec⟩
  | shutdown =>
      cases call with
      | initializing | add | get | list => cases hasks
      | close =>
          have hrun : w.run self.repository SQLiteDatasetRepository.close (fun _ => .returned) =
              (response, w') := h
          rcases exec_askRepository_bind hrun (fun _ => pure (Answer.done (V := V))) calls with
            ⟨_, rfl, hexec⟩ | ⟨e, rfl, hexec⟩
          · exact ⟨calls, hexec⟩
          · exact ⟨calls, hexec⟩
  | register id now reference =>
      change (((self.storageProvider.describe reference).mapError .storage).bind _ :
        Except ServiceError _) = _ at hasks
      cases hdescribe : self.storageProvider.describe reference with
      | error e =>
          rw [hdescribe] at hasks
          cases hasks
      | ok asset =>
          rw [hdescribe] at hasks
          cases call with
          | initializing | close | get | list => cases hasks
          | add faults dataset =>
              obtain rfl := Persistence.Request.add.inj (Except.ok.inj hasks)
              have hprovider : self.datasetService.storageProvider = self.storageProvider := rfl
              obtain ⟨result, hexec, hresponse⟩ :=
                exec_askRepository_of_run h (calls ++ [.describe reference])
              rw [Request.operation, perform, exec_bind, DatasetService.exec_register, hprovider,
                hdescribe]
              have hrepository : self.datasetService.repository = self.repository := rfl
              simp only [hrepository, hexec]
              cases result with
              | error e =>
                  obtain rfl : response = .raised e := hresponse
                  exact ⟨_, rfl⟩
              | ok _ =>
                  obtain rfl : response = .returned := hresponse
                  exact ⟨_, rfl⟩
  | list =>
      cases call with
      | initializing | close | add | get => cases hasks
      | list =>
          have hrun :
              w.run self.repository SQLiteDatasetRepository.list .datasets = (response, w') := h
          rcases exec_askRepository_bind hrun
            (fun listed => pure (Answer.datasets (V := V) listed)) calls with
            ⟨_, rfl, hexec⟩ | ⟨e, rfl, hexec⟩
          · exact ⟨calls, hexec⟩
          · exact ⟨calls, hexec⟩
  | get datasetId =>
      cases call with
      | initializing | close | add | list => cases hasks
      | get datasetId' =>
          obtain rfl := Persistence.Request.get.inj (Except.ok.inj hasks)
          rw [Request.operation, perform, exec_bind]
          rcases @exec_get_of_call w w' response self.datasetService datasetId h calls with
            ⟨dataset, rfl, hexec⟩ | ⟨rfl, hexec⟩ | ⟨e, rfl, hexec⟩
          · rw [hexec]
            exact ⟨calls, rfl⟩
          · rw [hexec]
            exact ⟨calls, rfl⟩
          · rw [hexec]
            exact ⟨calls, rfl⟩
  | profile datasetId =>
      cases call with
      | initializing | close | add | list => cases hasks
      | get datasetId' =>
          obtain rfl := Persistence.Request.get.inj (Except.ok.inj hasks)
          rw [Request.operation, perform, exec_bind, DatasetProfilingService.profile, exec_bind]
          rcases @exec_get_of_call w w' response self.profilingService.datasetService datasetId h
            calls with
            ⟨dataset, rfl, hexec⟩ | ⟨rfl, hexec⟩ | ⟨e, rfl, hexec⟩
          · have hload := self.profilingService.exec_load readers dataset ⟨w', calls⟩
            have hprovider : self.profilingService.storageProvider = self.storageProvider := rfl
            rw [hprovider] at hload
            simp only [hexec, exec_bind, hload, exec_ofExcept]
            refine ⟨calls ++ (loads readers self.storageProvider dataset).2, ?_⟩
            show _ = ((loads readers self.storageProvider dataset).1.bind fun result =>
              ((self.profiler result).mapError .profiler).bind fun profiled => .ok
                (Answer.profile profiled), _)
            cases (loads readers self.storageProvider dataset).1 with
            | error e => rfl
            | ok result =>
                have hprofiler : self.profilingService.profiler = self.profiler := rfl
                simp only [hprofiler, Except.bind]
                cases self.profiler result <;> rfl
          · rw [hexec]
            exact ⟨calls, rfl⟩
          · rw [hexec]
            exact ⟨calls, rfl⟩
  | query datasetId sql =>
      change ((DatasetQueryService.validateSql table sql).bind _ : Except ServiceError _) =
        _ at hasks
      cases hpolicy : DatasetQueryService.validateSql table sql with
      | error e =>
          rw [hpolicy] at hasks
          cases hasks
      | ok =>
          rw [hpolicy] at hasks
          cases call with
          | initializing | close | add | list => cases hasks
          | get datasetId' =>
              obtain rfl := Persistence.Request.get.inj (Except.ok.inj hasks)
              rw [Request.operation, perform, exec_bind, DatasetQueryService.query, exec_bind,
                exec_ofExcept, hpolicy]
              simp only [exec_bind]
              rcases @exec_get_of_call w w' response self.queryService.datasetService datasetId h
                calls with
                ⟨dataset, rfl, hexec⟩ | ⟨rfl, hexec⟩ | ⟨e, rfl, hexec⟩
              · have hload := self.queryService.exec_load readers dataset ⟨w', calls⟩
                have hprovider : self.queryService.storageProvider = self.storageProvider := rfl
                rw [hprovider] at hload
                simp only [hexec, hload]
                refine ⟨calls ++ (loads readers self.storageProvider dataset).2, ?_⟩
                show _ = ((loads readers self.storageProvider dataset).1.bind fun result =>
                  (self.queryService.execute sql result).bind fun executed => .ok
                    (Answer.result executed), _)
                cases (loads readers self.storageProvider dataset).1 with
                | error e => rfl
                | ok result =>
                    simp only [exec_ofExcept, Except.bind]
                    cases self.queryService.execute sql result <;> rfl
              · rw [hexec]
                exact ⟨calls, rfl⟩
              · rw [hexec]
                exact ⟨calls, rfl⟩

end Exec

end Application

def Operation.request : Operation → Application.Request
  | .startup _ => .startup
  | .shutdown => .shutdown
  | .register id now _ reference => .register id now reference
  | .get datasetId => .get datasetId
  | .list => .list
  | .profile datasetId => .profile datasetId
  | .query datasetId sql => .query datasetId sql

@[simp] theorem Application.Request.request_operation (request : Application.Request)
    (call : Call) :
    (request.operation call).request = request := by
  cases request with
  | startup | register => cases call <;> rfl
  | shutdown | get | list | profile | query => rfl

/-! ### One exchange -/

def Exchange.request (e : Exchange V) : Application V × Application.Request :=
  (e.application, e.operation.request)

theorem Exchange.created_eq_some {e : Exchange V} {response : DatasetResponse} :
    e.created = some response ↔
      (∃ id now faults reference, e.operation = .register id now faults reference) ∧
        e.result = .ok (.dataset response) := by
  obtain ⟨application, operation, result⟩ := e
  cases operation with
  | register =>
      cases result with
      | error => simp [created]
      | ok payload => cases payload <;> simp [created]
  | startup | shutdown | get | list | profile | query => simp [created]

theorem Operation.register_of_request {operation : Operation} {id : UUID} {now : Datetime}
    {reference : String} (h : operation.request = .register id now reference) :
    ∃ faults, operation = .register id now faults reference := by
  cases operation with
  | register id' now' faults reference' =>
      obtain ⟨rfl, rfl, rfl⟩ := Application.Request.register.inj h
      exact ⟨faults, rfl⟩
  | startup | shutdown | get | list | profile | query => cases h

theorem Operation.get_of_request {operation : Operation} {datasetId : UUID}
    (h : operation.request = .get datasetId) :
    operation = .get datasetId := by
  cases operation with
  | get datasetId' =>
      obtain rfl := Application.Request.get.inj h
      rfl
  | startup | shutdown | register | list | profile | query => cases h

theorem Operation.list_of_request {operation : Operation} (h : operation.request = .list) :
    operation = .list := by
  cases operation with
  | list => rfl
  | startup | shutdown | register | get | profile | query => cases h

section Step

variable {tables : CaseTables} {table : Text.UpperTable} {readers : Readers V}
  {self : Application V} {request : Application.Request} {w w' : World}

theorem exchangeStep_of_perform {call : Call} {outcome : Except ServiceError (Answer V)}
    {calls : List StorageCall} (h :
      exec (self.perform table readers (request.operation call)) ⟨w, []⟩ = (outcome, ⟨w', calls⟩)) :
    Exchange.Step tables table readers w
      ⟨self, request.operation call, Application.replies tables request outcome⟩ w' := by
  refine ⟨calls, ?_⟩
  rw [exec_serve, h, Application.replies, request.translate_operation call .close]

theorem exchangeStep_of_refused {e : ServiceError} (h : self.asks table request = .error e)
    (call : Call) :
    Exchange.Step tables table readers w
      ⟨self, request.operation call, Application.replies tables request (.error e)⟩ w := by
  obtain ⟨calls, hexec⟩ := Application.exec_perform_of_refused h call []
  exact exchangeStep_of_perform hexec

theorem exchangeStep_of_call {call : Call} {response : Response}
    (hasks : self.asks table request = .ok call.request)
    (h : w.call self.repository call = (response, w')) :
    Exchange.Step tables table readers w ⟨self, request.operation call,
      Application.replies tables request (self.concludes readers request call.request response)⟩
        w' := by
  obtain ⟨calls, hexec⟩ := Application.exec_perform_of_call hasks h []
  exact exchangeStep_of_perform hexec

/-- A registration answered with 201 has stored the asset as it was described, under the id and the
time that were drawn. -/
theorem Exchange.Step.stores {e : Exchange V} {m : CatalogMap} (hrep : Represents w m)
    (h : Exchange.Step tables table readers w e w') {response : DatasetResponse}
    (hcreated : e.created = some response) :
    ∃ now reference asset stored m', e.operation.request = .register response.id now reference ∧
      e.application.storageProvider.describe reference = .ok asset ∧
      response =
        .modelValidate tables (e.application.datasetService.datasetOf response.id now asset) ∧
      SQLiteDatasetRepository.StoredAs
        (e.application.datasetService.datasetOf response.id now asset) stored ∧
      Represents w' m' ∧ m'.entries.lookup response.id = some stored := by
  obtain ⟨⟨id, now, faults, reference, hoperation⟩, hresult⟩ := Exchange.created_eq_some.mp hcreated
  obtain ⟨calls, outcome, hexec, houtcome⟩ := h.performed
  rw [hoperation, Application.perform, exec_bind, DatasetService.exec_register] at hexec
  have hprovider : e.application.datasetService.storageProvider = e.application.storageProvider :=
    rfl
  rw [hprovider] at hexec
  cases hdescribe : e.application.storageProvider.describe reference with
  | error refusal =>
      rw [hdescribe] at hexec
      obtain ⟨rfl, -⟩ := Prod.mk.inj hexec
      cases houtcome.symm.trans hresult
  | ok asset =>
      rw [hdescribe] at hexec
      simp only [List.nil_append] at hexec
      rcases exec_askRepository_add hrep e.application.datasetService.repository faults
          (e.application.datasetService.datasetOf id now asset) [.describe reference] with
        ⟨w₁, stored, hadd, hnew, hstored, hrep'⟩ | ⟨refusal, hadd⟩
      · rw [hadd] at hexec
        obtain ⟨rfl, hstate⟩ := Prod.mk.inj hexec
        obtain ⟨rfl, -⟩ := AppState.mk.inj hstate
        obtain rfl := Payload.dataset.inj (Except.ok.inj (houtcome.symm.trans hresult))
        rw [hoperation]
        exact ⟨now, reference, asset, stored, _, rfl, hdescribe, rfl, hstored, hrep',
          Finmap.lookup_insert _⟩
      · rw [hadd] at hexec
        obtain ⟨rfl, -⟩ := Prod.mk.inj hexec
        cases houtcome.symm.trans hresult

end Step

end Athena
