import Athena.Api.Server
import Athena.Query.Termination

/-!
# Profiling and querying over HTTP

Both routes look the dataset up, load it, and compute. What keeps them from computing is the same
for both: the policy apart, a query is refused with 400 or 404 where the profile is, for the same
reason, after the same questions to the storage. A query that the policy refuses asks nothing. The
body of a query is a table of at most `max_rows` rows, as the engine has computed it.
-/

namespace Athena

open Library Library.Program Persistence SQLiteDatasetRepository

variable {V : Type} {tables : CaseTables} {table : Text.UpperTable} {readers : Readers V}

/-! ### What the engine returns -/

namespace DuckDBQueryEngine

/-- A result says of its frame what holds of it. -/
def Outcome.Exact (sql : String) : Outcome V → Prop
  | .returned result => result.sql = sql ∧ result.rowCount = result.dataframe.height ∧
      result.columnCount = result.dataframe.width
  | .raised _ => True

theorem outcome_exact (sql : String) (timedOut : Bool) (exit : Exit V) :
    (outcome sql timedOut exit).Exact sql := by
  cases exit with
  | failed | escaped => exact trivial
  | completed dataframe executionTimeMs =>
      cases timedOut with
      | true => exact trivial
      | false => exact ⟨rfl, rfl, rfl⟩

theorem Step.exact {sql : String} {s s' : State V} {e : Event V} (h : Step sql s e s')
    (hs : ∀ o, s.query = .finished o → o.Exact sql) :
    ∀ o, s'.query = .finished o → o.Exact sql := by
  intro o ho
  cases h with
  | rejectSql hquery | connectEscapes hquery =>
      obtain rfl := QueryThread.finished.inj ho
      exact trivial
  | @close exit hquery =>
      cases exit with
      | completed | failed => cases ho
      | escaped =>
          obtain rfl := QueryThread.finished.inj ho
          exact trivial
  | @readTimedOut exit hquery =>
      obtain rfl := QueryThread.finished.inj ho
      exact outcome_exact sql s.timedOut exit
  | fireTimer | skip | timeOut | interrupt => exact hs o ho
  | _ => cases ho

theorem Run.exact {sql : String} {events : List (Event V)} {s : State V} (hrun : Run sql events s)
    {o : Outcome V} (ho : s.query = .finished o) : o.Exact sql := by
  have hexact : ∀ o, s.query = .finished o → o.Exact sql := by
    apply Trace.invariant (I := fun _ s => ∀ o, s.query = .finished o → o.Exact sql) hrun
    · exact fun _ hnone => nomatch hnone
    · exact fun _ _ _ _ _ ih hstep => hstep.exact ih
  exact hexact o ho

end DuckDBQueryEngine

/-- The engine of the application is the one of `DuckDBQueryEngine.execute`, whatever its threads
do. -/
def Application.RunsDuckDB (self : Application V) : Prop :=
  ∀ loaded sql, ∃ events s, DuckDBQueryEngine.Run sql events s ∧
    s.query = .finished (self.queryEngine loaded sql)

/-! ### What is refused -/

theorem unprocessable_ne {statusCode : Nat} (hstatus : statusCode = 400 ∨ statusCode = 404)
    (detail message : String) :
    RouteError.httpException 422 message ≠ .httpException statusCode detail := by
  intro heq
  obtain ⟨rfl, -⟩ := RouteError.httpException.inj heq
  rcases hstatus with h | h <;> cases h

/-- The two handlers give 400 and 404 to the same exceptions. -/
theorem profileError_eq_queryError_iff {statusCode : Nat}
    (hstatus : statusCode = 400 ∨ statusCode = 404) (e : ServiceError) (detail : String) :
    profileError e = .httpException statusCode detail ↔
      queryError e = .httpException statusCode detail := by
  have hne := unprocessable_ne hstatus detail
  cases e with
  | storage e => cases e <;> exact Iff.rfl
  | queryExecution message | queryResourceLimit message =>
      exact iff_of_false (fun h => nomatch h) (hne message)
  | _ => exact Iff.rfl

/-- What the provider raises when a dataset is to be loaded. -/
def Raises (provider : StorageProvider) (reference : String) (e : StorageError) : Prop :=
  provider.describe reference = .error e ∨
    (∃ asset, provider.describe reference = .ok asset) ∧ provider.openBinary reference = .error e

theorem raises_of_answered {provider : StorageProvider} {reference : String} {refusal : RouteError}
    {parse : List UInt8 → Except ServiceError (DataFrame V)}
    (hparse : ∀ source e, parse source = .error e → queryError e ≠ refusal) {e : ServiceError}
    (h : answered readers provider reference parse = .error e) (he : queryError e = refusal) :
    ∃ e', e = .storage e' ∧ Raises provider reference e' := by
  rw [answered] at h
  cases hdescribe : provider.describe reference with
  | error e' =>
      rw [hdescribe] at h
      exact ⟨e', (Except.error.inj h).symm, .inl hdescribe⟩
  | ok asset =>
      rw [hdescribe] at h
      cases hopen : provider.openBinary reference with
      | error e' =>
          rw [hopen] at h
          exact ⟨e', (Except.error.inj h).symm, .inr ⟨⟨asset, hdescribe⟩, hopen⟩⟩
      | ok source =>
          rw [hopen] at h
          change (parse source).bind _ = .error e at h
          cases hsource : parse source with
          | error e' =>
              rw [hsource] at h
              obtain rfl := Except.error.inj h
              exact absurd he (hparse source e' hsource)
          | ok dataframe =>
              rw [hsource] at h
              cases h

/-- Loading is refused by the provider only. -/
theorem raises_of_loads {provider : StorageProvider} {dataset : Dataset} {statusCode : Nat}
    (hstatus : statusCode = 400 ∨ statusCode = 404) {detail : String} {e : ServiceError}
    (h : (loads readers provider dataset).1 = .error e)
    (he : queryError e = .httpException statusCode detail) :
    ∃ e', e = .storage e' ∧ Raises provider dataset.reference e' := by
  have hne := unprocessable_ne hstatus detail
  rw [loads] at h
  split at h
  · apply raises_of_answered _ h he
    intro source e' hparse
    rw [CSVLoader.parse] at hparse
    split at hparse
    · cases hparse
    · obtain rfl := Except.error.inj hparse
      exact hne _
    · obtain rfl := Except.error.inj hparse
      intro heq
      cases heq
  · split at h
    · apply raises_of_answered _ h he
      intro source e' hparse
      rw [ExcelLoader.parse] at hparse
      split at hparse
      · cases hparse
      · obtain rfl := Except.error.inj hparse
        exact hne _
      · obtain rfl := Except.error.inj hparse
        exact hne _
      · obtain rfl := Except.error.inj hparse
        intro heq
        cases heq
    · obtain rfl := Except.error.inj h
      exact absurd he (hne _)

/-! ### Both routes -/

section Answers

variable {exchanges : List (Exchange V)} {w : World} {m : CatalogMap} {self : Application V}
  {datasetId : UUID} {dataset : Dataset} {sql : String}

theorem exec_profile_of_finds (h : Represents w m) (hfound : self.Finds w datasetId dataset) :
    exec (self.serve tables table readers (.profile datasetId)) ⟨w, []⟩ =
      (((((loads readers self.storageProvider dataset).1.bind fun result =>
          ((self.profiler result).mapError .profiler).map .profile).mapError profileError).map
            (Answer.payload tables)),
        ⟨w, (loads readers self.storageProvider dataset).2⟩) := by
  rw [exec_serve, exec_perform_of_finds h hfound .profile]
  rfl

theorem exec_query_of_finds (h : Represents w m) (hfound : self.Finds w datasetId dataset)
    (hpolicy : DatasetQueryService.validateSql table sql = .ok ()) :
    exec (self.serve tables table readers (.query datasetId sql)) ⟨w, []⟩ =
      (((((loads readers self.storageProvider dataset).1.bind fun result =>
          (self.queryService.execute sql result).map .result).mapError queryError).map
            (Answer.payload tables)),
        ⟨w, (loads readers self.storageProvider dataset).2⟩) := by
  rw [exec_serve, exec_perform_of_finds h hfound (.query hpolicy)]
  rfl

theorem exec_of_get_error {e : ServiceError} {state : AppState}
    (hget : exec (self.datasetService.get datasetId) ⟨w, []⟩ = (.error e, state))
    (hpolicy : DatasetQueryService.validateSql table sql = .ok ()) :
    exec (self.serve tables table readers (.profile datasetId)) ⟨w, []⟩ =
      (.error (profileError e), state) ∧
      exec (self.serve tables table readers (.query datasetId sql)) ⟨w, []⟩ =
        (.error (queryError e), state) := by
  have hprofile :
      exec (self.profilingService.datasetService.get datasetId) ⟨w, []⟩ = (.error e, state) := hget
  have hquery : exec (self.queryService.datasetService.get datasetId) ⟨w, []⟩ = (.error e, state) :=
    hget
  constructor
  · rw [exec_serve, Application.perform, exec_bind, DatasetProfilingService.profile, exec_bind,
      hprofile]
    rfl
  · rw [exec_serve, Application.perform, exec_bind, DatasetQueryService.query, exec_bind,
      exec_ofExcept, hpolicy]
    simp only [exec_bind, hquery]
    rfl

theorem exec_query_of_policy {message : ServiceError}
    (hpolicy : DatasetQueryService.validateSql table sql = .error message) :
    ∃ detail, exec (self.serve tables table readers (.query datasetId sql)) ⟨w, []⟩ =
      (.error (.httpException 422 detail), ⟨w, []⟩) := by
  have hmessage : ∃ detail, message = .queryExecution detail := by
    rw [DatasetQueryService.validateSql] at hpolicy
    split at hpolicy
    · exact ⟨_, (Except.error.inj hpolicy).symm⟩
    · split at hpolicy
      · exact ⟨_, (Except.error.inj hpolicy).symm⟩
      · split at hpolicy
        · exact ⟨_, (Except.error.inj hpolicy).symm⟩
        · cases hpolicy
  obtain ⟨detail, rfl⟩ := hmessage
  refine ⟨detail, ?_⟩
  rw [exec_serve, Application.perform, exec_bind, DatasetQueryService.query, exec_bind,
    exec_ofExcept, hpolicy]
  rfl

theorem exists_represents (h : Trace (Exchange.Step tables table readers) World.fresh exchanges w) :
    ∃ m, Represents w m := by
  apply h.invariant (I := fun _ w => ∃ m, Represents w m)
  · exact ⟨_, fresh_represents_empty⟩
  · rintro _ w e w' - ⟨m, hrep⟩ hstep
    obtain ⟨⟨m', hrep', -⟩, -⟩ := hstep.effect hrep
    exact ⟨m', hrep'⟩

/-- A computation that is never refused is refused as its loading is. -/
theorem refused_iff {translate : ServiceError → RouteError}
    {loaded : Except ServiceError (TabularLoadResult V)}
    {use : TabularLoadResult V → Except ServiceError (Answer V)} {refusal : RouteError}
    (htranslate : ∀ e, translate e = refusal ↔ queryError e = refusal)
    (huse : ∀ result e, use result = .error e → queryError e ≠ refusal) :
    (((loaded.bind use).mapError translate).map (Answer.payload tables) = .error refusal) ↔
      ∃ e, loaded = .error e ∧ queryError e = refusal := by
  have herror : ∀ e, ((((Except.error e : Except ServiceError (Answer V)).mapError translate).map
      (Answer.payload tables)) = .error refusal) ↔ queryError e = refusal := by
    intro e
    rw [← htranslate e]
    exact ⟨Except.error.inj, congrArg Except.error⟩
  cases loaded with
  | error e =>
      rw [Except.bind, herror]
      exact ⟨fun h => ⟨e, rfl, h⟩, fun ⟨e', he, h⟩ => Except.error.inj he ▸ h⟩
  | ok result =>
      rw [Except.bind]
      refine iff_of_false ?_ (by simp)
      cases hresult : use result with
      | error e => exact fun h => huse result e hresult ((herror e).mp h)
      | ok answer => exact fun h => nomatch h

/-- Where no dataset is found, a refusal says just this. -/
theorem refused_of_get_error (h : Represents w m) {e : ServiceError} {state : AppState}
    (hget : exec (self.datasetService.get datasetId) ⟨w, []⟩ = (.error e, state)) {statusCode : Nat}
    {detail : String}
    (he : queryError e = .httpException statusCode detail) :
    statusCode = 404 ∧ detail = datasetId.str ∧ ∀ dataset, ¬self.Finds w datasetId dataset := by
  have hnone : ∀ dataset, ¬self.Finds w datasetId dataset := by
    intro dataset hfound
    rw [Application.Finds, hget] at hfound
    cases hfound
  rw [exec_service_get h] at hget
  obtain ⟨hresult, -⟩ := Prod.mk.inj hget
  split at hresult
  · split at hresult
    · cases hresult
    · obtain rfl := Except.error.inj hresult
      obtain ⟨rfl, rfl⟩ := RouteError.httpException.inj he
      exact ⟨rfl, rfl, hnone⟩
  · obtain rfl := Except.error.inj hresult
    cases he

theorem profiler_not_refused {statusCode : Nat} {detail : String} (result : TabularLoadResult V)
    (e : ServiceError) (h : (((self.profiler result).mapError .profiler).map .profile :
      Except ServiceError (Answer V)) = .error e) :
    queryError e ≠ .httpException statusCode detail := by
  cases hprofiler : self.profiler result with
  | error e' =>
      rw [hprofiler] at h
      obtain rfl := Except.error.inj h
      exact fun heq => nomatch heq
  | ok profile =>
      rw [hprofiler] at h
      cases h

theorem execute_not_refused {statusCode : Nat} (hstatus : statusCode = 400 ∨ statusCode = 404)
    {detail : String} (result : TabularLoadResult V) (e : ServiceError)
    (h : ((self.queryService.execute sql result).map .result : Except ServiceError (Answer V)) =
      .error e) :
    queryError e ≠ .httpException statusCode detail := by
  have hne := unprocessable_ne hstatus detail
  rw [DatasetQueryService.execute] at h
  cases houtcome : self.queryService.queryEngine result sql with
  | raised e' =>
      rw [houtcome] at h
      cases e' with
      | queryExecutionError message =>
          obtain rfl := Except.error.inj h
          exact hne message
      | queryResourceLimitError message =>
          obtain rfl := Except.error.inj h
          exact hne message
      | escaped =>
          obtain rfl := Except.error.inj h
          exact fun heq => nomatch heq
  | returned executed =>
      simp only [houtcome] at h
      split at h
      · obtain rfl := Except.error.inj h
        exact hne _
      · cases h

/-- The rows of a response are those of the frame, each under the same names. -/
theorem toDicts_names (frame : DataFrame V) :
    ∀ dict ∈ frame.toDicts, dict.map Prod.fst = frame.columns := by
  intro dict hdict
  obtain ⟨row, -, rfl⟩ := List.mem_map.mp hdict
  rw [List.map_ofFn]
  rfl

theorem execute_ok {result : TabularLoadResult V} {executed : DuckDBQueryEngine.QueryResult V}
    (h : self.queryService.execute sql result = .ok executed) :
    self.queryEngine result sql = .returned executed ∧
      (executed.rowCount : Int) ≤ self.maxRows := by
  rw [DatasetQueryService.execute] at h
  cases houtcome : self.queryService.queryEngine result sql with
  | raised e =>
      rw [houtcome] at h
      cases e <;> cases h
  | returned executed' =>
      simp only [houtcome] at h
      split at h
      · cases h
      · rename_i hlimit
        obtain rfl := Except.ok.inj h
        exact ⟨houtcome, not_lt.mp hlimit⟩

/-- What a body with 200 is made of. -/
theorem query_ok {response : DatasetQueryResponse V} {state : AppState} (h : Represents w m)
    (hok : exec (self.serve tables table readers (.query datasetId sql)) ⟨w, []⟩ =
      (.ok (.query response), state)) :
    ∃ result executed, self.queryEngine result sql = .returned executed ∧
      (executed.rowCount : Int) ≤ self.maxRows ∧
      response = ⟨executed.sql, executed.dataframe.toDicts, executed.rowCount, executed.columnCount,
        executed.executionTimeMs⟩ := by
  cases hpolicy : DatasetQueryService.validateSql table sql with
  | error e =>
      obtain ⟨detail, hrefused⟩ :=
        @exec_query_of_policy V tables table readers w self datasetId sql e hpolicy
      rw [hrefused] at hok
      cases hok
  | ok _ =>
      rcases hget : exec (self.datasetService.get datasetId) ⟨w, []⟩ with ⟨e | dataset, state'⟩
      · rw [(exec_of_get_error hget hpolicy).2] at hok
        cases hok
      · have hfound : self.Finds w datasetId dataset := congrArg Prod.fst hget
        rw [exec_query_of_finds h hfound hpolicy] at hok
        obtain ⟨hresult, -⟩ := Prod.mk.inj hok
        cases hloaded : (loads readers self.storageProvider dataset).1 with
        | error e =>
            rw [hloaded] at hresult
            cases hresult
        | ok result =>
            rw [hloaded] at hresult
            simp only [Except.bind] at hresult
            cases hexecute : self.queryService.execute sql result with
            | error e =>
                rw [hexecute] at hresult
                cases hresult
            | ok executed =>
                rw [hexecute] at hresult
                obtain ⟨hengine, hlimit⟩ := execute_ok hexecute
                exact ⟨result, executed, hengine, hlimit,
                  (Payload.query.inj (Except.ok.inj hresult)).symm⟩

end Answers

/-- **Profile and query over HTTP.** After any exchanges of any processes: a text that the policy
refuses is answered with 422, and nothing is asked for it, neither the catalog nor the storage. Any
other query asks the same as the profile of the same id, and is answered with 400 or 404 exactly
where the profile is and with the same detail; the reason is that no dataset is found, or what the
provider raises for the reference of the one that is. And a query answered with 200 has its own
text, at most `max_rows` rows, as many as it says, and one dictionary for each with the same
distinct keys, as many as it says. -/
theorem profile_and_query {exchanges : List (Exchange V)} {w : World}
    (h : Trace (Exchange.Step tables table readers) World.fresh exchanges w) (self : Application V)
    (datasetId : UUID)
    (sql : String) :
    (DatasetQueryService.validateSql table sql ≠ .ok () →
      ∃ detail, exec (self.serve tables table readers (.query datasetId sql)) ⟨w, []⟩ =
        (.error (.httpException 422 detail), ⟨w, []⟩)) ∧
      (DatasetQueryService.validateSql table sql = .ok () →
        (exec (self.serve tables table readers (.query datasetId sql)) ⟨w, []⟩).2 =
            (exec (self.serve tables table readers (.profile datasetId)) ⟨w, []⟩).2 ∧
          ∀ statusCode detail, statusCode = 400 ∨ statusCode = 404 →
            ((exec (self.serve tables table readers (.query datasetId sql)) ⟨w, []⟩).1 =
                .error (.httpException statusCode detail) ↔
              (exec (self.serve tables table readers (.profile datasetId)) ⟨w, []⟩).1 =
                .error (.httpException statusCode detail)) ∧
            ((exec (self.serve tables table readers (.query datasetId sql)) ⟨w, []⟩).1 =
                .error (.httpException statusCode detail) →
              statusCode = 404 ∧ detail = datasetId.str ∧
              (∀ dataset, ¬self.Finds w datasetId dataset) ∨
                ∃ dataset e, self.Finds w datasetId dataset ∧
                Raises self.storageProvider dataset.reference e ∧
                  queryError (.storage e) = .httpException statusCode detail)) ∧
      (self.RunsDuckDB → ∀ response state,
        exec (self.serve tables table readers (.query datasetId sql)) ⟨w, []⟩ =
          (.ok (.query response), state) →
          response.sql = sql ∧ response.rows.length = response.rowCount ∧
          (response.rowCount : Int) ≤ self.maxRows ∧
            ∃ columns : List String, columns.Nodup ∧ columns.length = response.columnCount ∧
              ∀ dict ∈ response.rows, dict.map Prod.fst = columns) := by
  obtain ⟨m, hrep⟩ := exists_represents h
  refine ⟨fun hpolicy => ?_, fun hpolicy => ?_, fun hengine response state hok => ?_⟩
  · cases hsql : DatasetQueryService.validateSql table sql with
    | ok _ => exact absurd hsql hpolicy
    | error e => exact exec_query_of_policy hsql
  · rcases hget : exec (self.datasetService.get datasetId) ⟨w, []⟩ with ⟨e | dataset, state⟩
    · obtain ⟨hprofile, hquery⟩ :=
        @exec_of_get_error V tables table readers w self datasetId sql e state hget hpolicy
      rw [hprofile, hquery]
      refine ⟨rfl, fun statusCode detail hstatus => ⟨?_, fun hrefused => .inl ?_⟩⟩
      · have hsame := profileError_eq_queryError_iff hstatus e detail
        exact ⟨fun hq => congrArg Except.error (hsame.mpr (Except.error.inj hq)),
          fun hp => congrArg Except.error (hsame.mp (Except.error.inj hp))⟩
      · exact refused_of_get_error hrep hget (Except.error.inj hrefused)
    · have hfound : self.Finds w datasetId dataset := congrArg Prod.fst hget
      rw [exec_query_of_finds hrep hfound hpolicy, exec_profile_of_finds hrep hfound]
      refine ⟨rfl, fun statusCode detail hstatus => ?_⟩
      have hquery : ∀ e, queryError e = .httpException statusCode detail ↔
          queryError e = .httpException statusCode detail :=
        fun _ => Iff.rfl
      have hprofile := fun e => profileError_eq_queryError_iff hstatus e detail
      rw [refused_iff hquery (execute_not_refused hstatus),
        refused_iff hprofile profiler_not_refused]
      refine ⟨Iff.rfl, ?_⟩
      rintro ⟨e, hloads, he⟩
      obtain ⟨e', rfl, hraises⟩ := raises_of_loads hstatus hloads he
      exact .inr ⟨dataset, e', hfound, hraises, he⟩
  · obtain ⟨result, executed, hreturned, hlimit, rfl⟩ := query_ok hrep hok
    obtain ⟨events, s, hrun, hfinished⟩ := hengine result sql
    rw [hreturned] at hfinished
    obtain ⟨hsql, hrows, hcolumns⟩ := hrun.exact hfinished
    refine ⟨hsql, ?_, hlimit, executed.dataframe.columns, ?_, ?_, toDicts_names _⟩
    · rw [hrows]
      exact List.length_map _
    · exact List.nodup_ofFn.mpr executed.dataframe.name_injective
    · rw [hcolumns]
      exact List.length_ofFn

/-- Every query on the second process returns the dataset. -/
def sampleAnalyst : Application Nat :=
  { sampleApplication 1 with
    queryEngine := fun loaded sql =>
      if Text.strip sql = "" then .raised (.queryExecutionError "SQL text must not be empty.")
      else .returned ⟨sql, loaded.dataframe, loaded.dataframe.height, loaded.dataframe.width, 1⟩ }

theorem sampleAnalyst_runs : sampleAnalyst.RunsDuckDB := by
  intro loaded sql
  by_cases hsql : Text.strip sql = ""
  · refine ⟨[.checkSql], _, .single (.rejectSql rfl hsql), ?_⟩
    simp [sampleAnalyst, hsql]
  · refine ⟨_, _, .cons (.checkSql rfl hsql) <| .cons (.connect rfl) <| .cons (.register rfl) <|
      .cons (.startTimer rfl) <|
      .cons (.executeReturns rfl loaded.dataframe 1) <| .cons (.setCompleted rfl) <|
        .cons (.cancelTimer rfl) <|
      .cons (.close rfl) <| .single (.readTimedOut rfl), ?_⟩
    simp [sampleAnalyst, hsql, DuckDBQueryEngine.outcome]

def sampleQuery (sql : String) : Except RouteError (Payload Nat) × AppState :=
  exec (sampleAnalyst.serve .ascii DatasetQueryService.asciiUpper sampleReaders (.query ⟨7⟩ sql))
    ⟨sampleExchanges.2, []⟩

def answersQuery : Except RouteError (Payload Nat) → Bool
  | .ok (.query _) => true
  | _ => false

theorem profile_and_query_sample :
    (∃ detail, (sampleQuery "DROP TABLE dataset").1 = .error (.httpException 422 detail)) ∧
      ∃ response, (sampleQuery "SELECT * FROM dataset").1 = .ok (.query response) ∧
        response.sql = "SELECT * FROM dataset" ∧ response.rows.length = response.rowCount := by
  have hrun := fun sql =>
      profile_and_query (@trace_serveAll Nat .ascii DatasetQueryService.asciiUpper sampleReaders
    World.fresh sampleOperations) sampleAnalyst ⟨7⟩ sql
  constructor
  · obtain ⟨detail, hrefused⟩ := (hrun "DROP TABLE dataset").1 (by decide)
    exact ⟨detail, congrArg Prod.fst hrefused⟩
  · have hok : answersQuery (sampleQuery "SELECT * FROM dataset").1 = true := by
      decide +kernel
    cases hresult : (sampleQuery "SELECT * FROM dataset").1 with
    | error e =>
        rw [hresult] at hok
        cases hok
    | ok payload =>
        rw [hresult] at hok
        cases payload with
        | query response =>
            obtain ⟨hsql, hrows, -⟩ :=
              (hrun "SELECT * FROM dataset").2.2 sampleAnalyst_runs response
              (sampleQuery "SELECT * FROM dataset").2 (Prod.ext hresult rfl)
            exact ⟨response, rfl, hsql, hrows⟩
        | lifespan | dataset | datasets | profile => cases hok

end Athena
