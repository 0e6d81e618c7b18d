import Athena.Query.DuckDB

/-!
# How `execute` ends

Two critical sections compete: the query thread sets `completed`, the watchdog sets `timed_out`.
After a query that returns, the first of them decides. After a query that fails nothing is set, and
what decides is whether the watchdog gets in before the handler reads `timed_out`.
-/

namespace Athena.DuckDBQueryEngine

open Library

variable {V : Type}

/-! ### A query that returns -/

theorem CompletedFirst.append {events : List (Event V)} (h : CompletedFirst events)
    (later : List (Event V)) :
    CompletedFirst (events ++ later) := by
  rw [completedFirst_iff] at h ⊢
  exact decision_append_of_some h later

section Run

variable {sql : String} {events : List (Event V)} {s : State V}

theorem Run.timedOut_iff (hrun : Run sql events s) (hcompleted : s.completed = true) :
    s.timedOut = true ↔ ¬ CompletedFirst events := by
  rw [hrun.invariant.timedOut_iff, completedFirst_iff]
  have hset := hrun.invariant.completed_iff.mp hcompleted
  cases hdecision : decision events with
  | none => exact absurd hset ((decision_eq_none_iff events).mp hdecision).1
  | some d => cases d <;> simp

theorem Run.finished_of_returns (hrun : Run sql events s) {dataframe : DataFrame V}
    {executionTimeMs : ℚ}
    (hreturns : .executeReturns dataframe executionTimeMs ∈ events) {o : Outcome V}
    (ho : s.query = .finished o) :
    s.completed = true ∧ o = outcome sql s.timedOut (.completed dataframe executionTimeMs) := by
  rcases hrun.invariant.returned dataframe executionTimeMs hreturns with
    hcompleting | ⟨hcompleted, hhandled⟩
  · rw [ho] at hcompleting
    cases hcompleting
  · refine ⟨hcompleted, ?_⟩
    rcases hhandled with hleaving | hfinished
    · simp [Leaving, ho] at hleaving
    · simpa [ho] using hfinished

theorem Run.of_completedFirst (hrun : Run sql events s) (hfirst : CompletedFirst events) :
    s.timedOut = false ∧ .interrupt ∉ events := by
  have htimedOut : s.timedOut = false := by
    rw [Bool.eq_false_iff, ne_eq, hrun.invariant.timedOut_iff,
      (completedFirst_iff events).mp hfirst]
    simp
  refine ⟨htimedOut, ?_⟩
  intro hinterrupt
  rw [hrun.invariant.interrupted hinterrupt] at htimedOut
  cases htimedOut

theorem Run.timedOut_first (hrun : Run sql events s) (hcompleted : s.completed = true)
    (htimedOut : s.timedOut = true) :
    ∃ before after, events = before ++ .criticalSection :: after ∧ .setCompleted ∉ before ∧
      .setCompleted ∈ after := by
  have hdecision := hrun.invariant.timedOut_iff.mp htimedOut
  obtain ⟨before, e, after, rfl, he, hbefore⟩ := List.findSome?_eq_some_iff.mp hdecision
  obtain rfl := Event.decision_eq_timedOut.mp he
  have hnone : .setCompleted ∉ before :=
    ((decision_eq_none_iff before).mp (List.findSome?_eq_none_iff.mpr hbefore)).1
  refine ⟨before, after, rfl, hnone, ?_⟩
  have hset := hrun.invariant.completed_iff.mp hcompleted
  simpa [hnone] using hset

end Run

/-- **The first critical section decides.** Once DuckDB has returned a frame, `execute` returns it
if `completed` was set before the watchdog looked, and times out otherwise. -/
theorem execute_decided {sql : String} {events : List (Event V)} {s : State V}
    (hrun : Run sql events s) :
    (∀ dataframe executionTimeMs, .executeReturns dataframe executionTimeMs ∈ events →
      (∃ later s' o, Run sql (events ++ later) s' ∧ s'.query = .finished o) ∧
      (∀ o, s.query = .finished o →
        ((∃ result, o = .returned result) ↔ CompletedFirst events) ∧
        (∀ result, o = .returned result →
          result = ⟨sql, dataframe, dataframe.height, dataframe.width, executionTimeMs⟩) ∧
        (¬ CompletedFirst events → o = .raised limitError)) ∧
      (CompletedFirst events → ∀ later s', Run sql (events ++ later) s' →
        s'.timedOut = false ∧ .interrupt ∉ events ++ later)) ∧
    (s.completed = true → s.timedOut = true →
      ∃ before after, events = before ++ .criticalSection :: after ∧
        .setCompleted ∉ before ∧ .setCompleted ∈ after) := by
  refine ⟨fun dataframe executionTimeMs hreturns => ⟨?_, ?_, ?_⟩, hrun.timedOut_first⟩
  · obtain ⟨later, s', o, hlater, ho⟩ := exists_finished sql s
    exact ⟨later, s', o, hrun.append hlater, ho⟩
  · intro o ho
    obtain ⟨hcompleted, rfl⟩ := hrun.finished_of_returns hreturns ho
    by_cases hfirst : CompletedFirst events
    · have htimedOut := (hrun.of_completedFirst hfirst).1
      simp [outcome, htimedOut, hfirst]
    · have htimedOut := (hrun.timedOut_iff hcompleted).mpr hfirst
      simp [outcome, htimedOut, hfirst]
  · intro hfirst later s' hrun'
    exact hrun'.of_completedFirst (hfirst.append later)

def sampleFrame : DataFrame Nat where
  width := 1
  name _ := "id"
  dtype _ := .int64
  rows := [fun _ => some 1]
  name_injective := Function.injective_of_subsingleton _
  rows_of_width_zero := nofun

/-- The timer fires before it is cancelled and finds `completed` set. -/
theorem execute_decided_sample : ∃ s : State Nat,
    Run "SELECT id FROM dataset"
      [.checkSql, .connect, .register, .startTimer, .executeReturns sampleFrame 1, .fireTimer,
        .setCompleted, .cancelTimer, .close, .readTimedOut, .criticalSection] s ∧
    ∃ o, s.query = .finished o ∧ ∃ result, o = .returned result := by
  have hrun : Run "SELECT id FROM dataset" _ _ :=
    .cons (.checkSql rfl (by decide)) <| .cons (.connect rfl) <| .cons (.register rfl) <|
      .cons (.startTimer rfl) <|
      .cons (.executeReturns rfl sampleFrame 1) <| .cons (.fireTimer rfl) <|
        .cons (.setCompleted rfl) <|
      .cons (.cancelTimer rfl) <| .cons (.close rfl) <| .cons (.readTimedOut rfl) <|
        .single (.skip rfl rfl)
  have hfirst : CompletedFirst _ :=
    ⟨[.checkSql, .connect, .register, .startTimer, .executeReturns sampleFrame 1, .fireTimer],
      [.cancelTimer, .close, .readTimedOut, .criticalSection], rfl, by simp⟩
  exact ⟨_, hrun, _, rfl,
    (((execute_decided hrun).1 sampleFrame 1 (by simp)).2.1 _ rfl).1.mpr hfirst⟩

/-! ### A query that fails -/

/-- The event is a `duckdb.Error`. -/
def Event.IsError : Event V → Prop
  | .connectFails | .registerFails | .executeFails => True
  | _ => False

section Failure

variable {sql : String} {s s' : State V} {e : Event V} {exit : Exit V}

theorem Step.of_isError (h : Step sql s e s') (he : e.IsError) : Leaving s' .failed := by
  cases h with
  | connectFails => exact .inr (.inr rfl)
  | registerFails => exact .inr (.inl rfl)
  | executeFails => exact .inl rfl
  | _ => exact he.elim

theorem finished_run {later : List (Event V)} {o : Outcome V} (h : Trace (Step sql) s later s')
    (hs : s.query = .finished o) : s'.query = .finished o :=
  Trace.invariant (I := fun _ s => s.query = .finished o) h hs fun _ _ _ _ _ hfinished hstep =>
    hstep.finished hfinished

/-- A thread on its way out reads `timed_out` once and ends with what it read. -/
theorem leaving_run {later : List (Event V)} (h : Trace (Step sql) s later s')
    (hexit : exit ≠ .escaped) (hs : Leaving s exit) :
    Leaving s' exit ∨ .readTimedOut ∈ later ∧ ∃ o, s'.query = .finished o := by
  refine Trace.invariant
    (I := fun later s => Leaving s exit ∨ .readTimedOut ∈ later ∧ ∃ o, s.query = .finished o) h
      (.inl hs) ?_
  intro later s e s' _ hinv hstep
  rcases hinv with hleaving | ⟨hread, o, ho⟩
  · rcases hstep.leaving hexit hleaving with hleaving' | ⟨rfl, hfinished⟩
    · exact .inl hleaving'
    · exact .inr ⟨by simp, _, hfinished⟩
  · exact .inr ⟨List.mem_append_left _ hread, o, hstep.finished ho⟩

/-- The state in which `timed_out` is read decides, whatever happens afterwards. -/
theorem leaving_run_read {window after : List (Event V)}
    (h : Trace (Step sql) s (window ++ .readTimedOut :: after) s') (hexit : exit ≠ .escaped)
    (hs : Leaving s exit) :
    ∃ t, Trace (Step sql) s window t ∧ t.query = .reading exit ∧
      s'.query = .finished (outcome sql t.timedOut exit) := by
  obtain ⟨t, hwindow, hrest⟩ := h.split
  obtain ⟨u, hread, hafter⟩ := hrest.of_cons
  obtain ⟨exit', hreading, hfinished⟩ := hread.of_readTimedOut
  have hsame : exit' = exit := by
    rcases leaving_run hwindow hexit hs with hleaving | ⟨-, o, ho⟩
    · simpa [Leaving, hreading] using hleaving
    · rw [hreading] at ho
      cases ho
  subst hsame
  exact ⟨t, hwindow, hreading, finished_run hafter hfinished⟩

end Failure

theorem Run.criticalSection_once {sql : String} (before after : List (Event V)) {s : State V}
    (hrun : Run sql (before ++ .criticalSection :: after) s) : .criticalSection ∉ before := by
  intro hmem
  obtain ⟨t, hbefore, hrest⟩ := hrun.split
  obtain ⟨u, hcritical, -⟩ := hrest.of_cons
  have hdecided := (Run.invariant hbefore).decided hmem
  have hentered := hcritical.of_criticalSection.1
  simp [Watchdog.Decided, hentered] at hdecided

/-- A failure is reported as a timeout exactly when the watchdog had run before it. -/
def ClassifiedAtFailure (before : List (Event V)) (o : Outcome V) : Prop :=
  (o = .raised limitError ↔ .criticalSection ∈ before) ∧
    (.criticalSection ∉ before → o = .raised plainError)

theorem limitError_ne_plainError : limitError ≠ plainError := by
  decide

/-- At the read, `timed_out` tells whether the critical section has run at all. -/
theorem Run.timedOut_iff_of_failed {sql : String} {events : List (Event V)} {s : State V}
    (hrun : Run sql events s)
    (hreading : s.query = .reading .failed) : s.timedOut = true ↔ .criticalSection ∈ events := by
  have hset : .setCompleted ∉ events := by
    intro hmem
    have hcompleted := hrun.invariant.completed_iff.mpr hmem
    obtain ⟨dataframe, executionTimeMs, hhandled⟩ := hrun.invariant.completed hcompleted
    simp [Handled, Leaving, hreading] at hhandled
  rw [hrun.invariant.timedOut_iff]
  constructor
  · intro hdecision
    obtain ⟨before, e, after, rfl, he, -⟩ := List.findSome?_eq_some_iff.mp hdecision
    obtain rfl := Event.decision_eq_timedOut.mp he
    simp
  · intro hcritical
    cases hdecision : decision events with
    | none => exact absurd hcritical ((decision_eq_none_iff events).mp hdecision).2
    | some d =>
        cases d with
        | timedOut => rfl
        | completed =>
            obtain ⟨before, after, rfl, -⟩ := (completedFirst_iff events).mpr hdecision
            simp at hset

/-- After the error the thread is on its way out. -/
theorem Run.after_error {sql : String} {before later : List (Event V)} {e : Event V} {s : State V}
    (hrun : Run sql (before ++ e :: later) s) (he : e.IsError) :
    ∃ t, Run sql (before ++ [e]) t ∧ Leaving t .failed ∧ Trace (Step sql) t later s := by
  obtain ⟨u, hbefore, hrest⟩ := hrun.split
  obtain ⟨t, hfails, hlater⟩ := hrest.of_cons
  exact ⟨t, hbefore.snoc hfails, hfails.of_isError he, hlater⟩

/-- After the read: how `execute` ended, and that it saw every earlier critical section. -/
theorem Run.outcome_of_error {sql : String} {before window after : List (Event V)} {e : Event V}
    {s : State V}
    (hrun : Run sql (before ++ e :: (window ++ .readTimedOut :: after)) s) (he : e.IsError) :
    ∃ timedOut, s.query = .finished (outcome sql timedOut .failed) ∧
      (timedOut = true ↔ .criticalSection ∈ before ∨ .criticalSection ∈ window) := by
  obtain ⟨t, hbefore, hleaving, hlater⟩ := hrun.after_error he
  obtain ⟨m, hwindow, hreading, hfinished⟩ := leaving_run_read hlater (by simp) hleaving
  refine ⟨m.timedOut, hfinished, ?_⟩
  have hne : .criticalSection ≠ e := by
    rintro rfl
    exact he
  simpa [hne] using Run.timedOut_iff_of_failed (hbefore.append hwindow) hreading

/-- **The classification of a failure.** A failed query is classified by whether the watchdog had
run when it failed if and only if the watchdog stays out of the window from the failure to the read
of `timed_out`. -/
theorem execute_classified_iff {sql : String} {events : List (Event V)} {s : State V}
    {o : Outcome V} {e : Event V}
    (hrun : Run sql events s) (ho : s.query = .finished o) (he : e.IsError) (hmem : e ∈ events) :
    (∃ before window after, events = before ++ e :: (window ++ .readTimedOut :: after)) ∧
    ∀ before window after, events = before ++ e :: (window ++ .readTimedOut :: after) →
      (o = .raised limitError ∨ o = .raised plainError) ∧
      (ClassifiedAtFailure before o ↔ .criticalSection ∉ window) := by
  constructor
  · obtain ⟨before, later, rfl⟩ := List.append_of_mem hmem
    obtain ⟨t, -, hleaving, hlater⟩ := hrun.after_error he
    rcases leaving_run hlater (by simp) hleaving with hstill | ⟨hread, -⟩
    · simp [Leaving, ho] at hstill
    · obtain ⟨window, after, rfl⟩ := List.append_of_mem hread
      exact ⟨before, window, after, rfl⟩
  · rintro before window after rfl
    obtain ⟨timedOut, hfinished, htimedOut⟩ := hrun.outcome_of_error he
    obtain rfl : o = outcome sql timedOut .failed := by simpa [ho] using hfinished
    have hdistinct := limitError_ne_plainError
    by_cases hlate : .criticalSection ∈ window
    · -- The watchdog came too late, and it runs only once.
      have honce : .criticalSection ∉ before := by
        obtain ⟨early, late, rfl⟩ := List.append_of_mem hlate
        have hnot : .criticalSection ∉ before ++ e :: early :=
          Run.criticalSection_once _ (late ++ .readTimedOut :: after) (by simpa using hrun)
        exact fun hbefore => hnot (List.mem_append_left _ hbefore)
      obtain rfl := htimedOut.mpr (.inr hlate)
      simp [ClassifiedAtFailure, outcome, hlate, honce, hdistinct]
    · by_cases hearly : .criticalSection ∈ before
      · obtain rfl := htimedOut.mpr (.inl hearly)
        simp [ClassifiedAtFailure, outcome, hearly, hlate]
      · obtain rfl : timedOut = false := by
          rw [Bool.eq_false_iff, ne_eq, htimedOut]
          simp [hearly, hlate]
        simp [ClassifiedAtFailure, outcome, hearly, hlate, hdistinct.symm]

/-- The watchdog interrupts a running query, which then fails. -/
theorem execute_classified_iff_sample :
    ClassifiedAtFailure [.checkSql, .connect, .register, .startTimer, .fireTimer, .criticalSection,
      .interrupt] (.raised limitError : Outcome Nat) := by
  have hrun : Run (V := Nat) "SELECT id FROM dataset" _ _ :=
    .cons (.checkSql rfl (by decide)) <| .cons (.connect rfl) <| .cons (.register rfl) <|
      .cons (.startTimer rfl) <|
      .cons (.fireTimer rfl) <| .cons (.timeOut rfl rfl) <| .cons (.interrupt rfl) <|
        .cons (.executeFails rfl) <|
      .cons (.cancelTimer rfl) <| .cons (.close rfl) <| .single (.readTimedOut rfl)
  have herror : (Event.executeFails : Event Nat).IsError := trivial
  exact ((execute_classified_iff hrun rfl herror (by simp)).2 _ [.cancelTimer, .close] [] rfl).2.mpr
    (by simp)

/-- The query fails before its deadline, the timer fires before it is cancelled, and the failure is
reported as a timeout. -/
theorem execute_misclassified : ∃ s : State Nat, ∃ o,
    Run "SELECT missing FROM dataset"
      ([.checkSql, .connect, .register, .startTimer] ++ .executeFails ::
        ([.fireTimer, .criticalSection, .interrupt, .cancelTimer, .close] ++ [.readTimedOut])) s ∧
    s.query = .finished o ∧
    ¬ ClassifiedAtFailure [.checkSql, .connect, .register, .startTimer] o := by
  refine ⟨_, .raised limitError,
    .cons (.checkSql rfl (by decide)) <| .cons (.connect rfl) <| .cons (.register rfl) <|
    .cons (.startTimer rfl) <| .cons (.executeFails rfl) <| .cons (.fireTimer rfl) <|
      .cons (.timeOut rfl rfl) <|
    .cons (.interrupt rfl) <| .cons (.cancelTimer rfl) <| .cons (.close rfl) <|
      .single (.readTimedOut rfl), rfl, ?_⟩
  simp [ClassifiedAtFailure]

end Athena.DuckDBQueryEngine
