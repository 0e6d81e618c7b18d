import Mathlib.Algebra.Order.Ring.Unbundled.Rat
import Athena.Library.Trace
import Athena.Polars.DataFrame
import Athena.Python.Text

/-!
# The DuckDB query engine

`execute` runs a query on one thread while a timer, the watchdog, may interrupt it from another. The
two share a pair of flags under a lock and a connection. Every block under the lock is one step
here, and so is every call that another step can come before or after: a run of `execute` is any
interleaving of the steps of both threads. What DuckDB does with the query is up to the environment:
it returns a frame, fails with a `duckdb.Error`, or lets another exception escape.

The timer can fire at any moment until it is cancelled; a callback that has begun goes on.
-/

namespace Athena.DuckDBQueryEngine

open Library

structure QueryResult (V : Type) where
  sql : String
  dataframe : DataFrame V
  rowCount : Nat
  columnCount : Nat
  executionTimeMs : ℚ

inductive QueryError
  | queryExecutionError (message : String)
  | queryResourceLimitError (message : String)
  /-- An exception that `execute` does not translate. -/
  | escaped
  deriving DecidableEq

inductive Outcome (V : Type)
  | returned (result : QueryResult V)
  | raised (e : QueryError)

/-- How the `try` block was left. -/
inductive Exit (V : Type)
  | completed (dataframe : DataFrame V) (executionTimeMs : ℚ)
  /-- With a `duckdb.Error`. -/
  | failed
  /-- With any other exception. -/
  | escaped

/-- Where the query thread is; each constructor is named by what comes next. -/
inductive QueryThread (V : Type)
  | starting
  | connecting
  | registering
  | startingTimer
  | executing
  | completing (dataframe : DataFrame V) (executionTimeMs : ℚ)
  | cancelling (exit : Exit V)
  | closing (exit : Exit V)
  | reading (exit : Exit V)
  | finished (outcome : Outcome V)

inductive Watchdog
  | unstarted
  /-- The timer is running. -/
  | waiting
  | cancelled
  /-- The callback has begun. -/
  | entered
  /-- The callback has set `timed_out` and is about to interrupt the connection. -/
  | interrupting
  | done
  deriving DecidableEq

inductive Connection
  | unopened
  | opened
  | closed
  deriving DecidableEq

structure State (V : Type) where
  query : QueryThread V := .starting
  watchdog : Watchdog := .unstarted
  connection : Connection := .unopened
  completed : Bool := false
  timedOut : Bool := false

inductive Event (V : Type)
  | checkSql
  | connect
  | connectFails
  | register
  | registerFails
  | startTimer
  | executeReturns (dataframe : DataFrame V) (executionTimeMs : ℚ)
  | executeFails
  | escapes
  | setCompleted
  | cancelTimer
  | close
  | readTimedOut
  | fireTimer
  | criticalSection
  | interrupt

variable {V : Type}

def limitError : QueryError :=
  .queryResourceLimitError "Query execution exceeded the configured timeout."

def plainError : QueryError := .queryExecutionError "Unable to execute SQL against dataset."

/-- What `execute` ends with once it has read `timed_out`. -/
def outcome (sql : String) (timedOut : Bool) : Exit V → Outcome V
  | .completed dataframe executionTimeMs =>
      if timedOut then .raised limitError
      else .returned ⟨sql, dataframe, dataframe.height, dataframe.width, executionTimeMs⟩
  | .failed => .raised (if timedOut then limitError else plainError)
  | .escaped => .raised .escaped

/-- Where the thread goes when the `with` block is left: the two exits that are handled read
`timed_out`. -/
def leave : Exit V → QueryThread V
  | .completed dataframe executionTimeMs => .reading (.completed dataframe executionTimeMs)
  | .failed => .reading .failed
  | .escaped => .finished (.raised .escaped)

inductive Step (sql : String) (s : State V) : Event V → State V → Prop
  | checkSql (hquery : s.query = .starting) (hsql : Text.strip sql ≠ "") :
      Step sql s .checkSql { s with query := .connecting }
  | rejectSql (hquery : s.query = .starting) (hsql : Text.strip sql = "") :
      Step sql s .checkSql
        { s with query := .finished (.raised (.queryExecutionError "SQL text must not be empty.")) }
  | connect (hquery : s.query = .connecting) :
      Step sql s .connect { s with query := .registering, connection := .opened }
  | connectFails (hquery : s.query = .connecting) :
      Step sql s .connectFails { s with query := .reading .failed }
  | connectEscapes (hquery : s.query = .connecting) :
      Step sql s .escapes { s with query := leave .escaped }
  | register (hquery : s.query = .registering) :
      Step sql s .register { s with query := .startingTimer }
  | registerFails (hquery : s.query = .registering) :
      Step sql s .registerFails { s with query := .closing .failed }
  | registerEscapes (hquery : s.query = .registering) :
      Step sql s .escapes { s with query := .closing .escaped }
  | startTimer (hquery : s.query = .startingTimer) :
      Step sql s .startTimer { s with query := .executing, watchdog := .waiting }
  | startTimerEscapes (hquery : s.query = .startingTimer) :
      Step sql s .escapes { s with query := .closing .escaped }
  | executeReturns (hquery : s.query = .executing) (dataframe : DataFrame V) (executionTimeMs : ℚ) :
      Step sql s (.executeReturns dataframe executionTimeMs)
        { s with query := .completing dataframe executionTimeMs }
  | executeFails (hquery : s.query = .executing) :
      Step sql s .executeFails { s with query := .cancelling .failed }
  | executeEscapes (hquery : s.query = .executing) :
      Step sql s .escapes { s with query := .cancelling .escaped }
  | setCompleted {dataframe : DataFrame V} {executionTimeMs : ℚ}
      (hquery : s.query = .completing dataframe executionTimeMs) :
      Step sql s .setCompleted
        { s with query := .cancelling (.completed dataframe executionTimeMs), completed := true }
  | cancelTimer {exit : Exit V} (hquery : s.query = .cancelling exit) :
      Step sql s .cancelTimer
        { s with
          query := .closing exit,
          watchdog := if s.watchdog = .waiting then .cancelled else s.watchdog }
  | close {exit : Exit V} (hquery : s.query = .closing exit) :
      Step sql s .close { s with query := leave exit, connection := .closed }
  | readTimedOut {exit : Exit V} (hquery : s.query = .reading exit) :
      Step sql s .readTimedOut { s with query := .finished (outcome sql s.timedOut exit) }
  | fireTimer (hwatchdog : s.watchdog = .waiting) :
      Step sql s .fireTimer { s with watchdog := .entered }
  | skip (hwatchdog : s.watchdog = .entered) (hcompleted : s.completed = true) :
      Step sql s .criticalSection { s with watchdog := .done }
  | timeOut (hwatchdog : s.watchdog = .entered) (hcompleted : s.completed = false) :
      Step sql s .criticalSection { s with watchdog := .interrupting, timedOut := true }
  | interrupt (hwatchdog : s.watchdog = .interrupting) :
      Step sql s .interrupt { s with watchdog := .done }

/-- A run of `execute` up to some point. -/
abbrev Run (sql : String) (events : List (Event V)) (s : State V) : Prop :=
  Trace (Step sql) ({} : State V) events s

/-! ### Which flag is set first -/

inductive Decision
  | completed
  | timedOut
  deriving DecidableEq

def Event.decision : Event V → Option Decision
  | .setCompleted => some .completed
  | .criticalSection => some .timedOut
  | _ => none

/-- The first of the two critical sections that ran. -/
def decision (events : List (Event V)) : Option Decision := events.findSome? Event.decision

theorem decision_concat (events : List (Event V)) (e : Event V) :
    decision (events ++ [e]) = (decision events).or e.decision := by
  rw [decision, List.findSome?_append, decision]
  simp

theorem decision_append_of_some {events : List (Event V)} {d : Decision}
    (h : decision events = some d)
    (later : List (Event V)) : decision (events ++ later) = some d := by
  rw [decision] at h
  rw [decision, List.findSome?_append, h, Option.some_or]

/-- `completed` was set before the critical section of the watchdog ran, if that ran at all. -/
def CompletedFirst (events : List (Event V)) : Prop :=
  ∃ before after, events = before ++ .setCompleted :: after ∧ .criticalSection ∉ before

theorem decision_eq_none_iff (events : List (Event V)) :
    decision events = none ↔ .setCompleted ∉ events ∧ .criticalSection ∉ events := by
  rw [decision, List.findSome?_eq_none_iff]
  constructor
  · intro h
    constructor
    · intro hcompleted
      cases h _ hcompleted
    · intro hcritical
      cases h _ hcritical
  · rintro ⟨hcompleted, hcritical⟩ e he
    cases e with
    | setCompleted => exact absurd he hcompleted
    | criticalSection => exact absurd he hcritical
    | _ => rfl

theorem Event.decision_eq_completed {e : Event V} :
    e.decision = some .completed ↔ e = .setCompleted := by
  cases e <;> simp [Event.decision]

theorem Event.decision_eq_timedOut {e : Event V} :
    e.decision = some .timedOut ↔ e = .criticalSection := by
  cases e <;> simp [Event.decision]

theorem completedFirst_iff (events : List (Event V)) :
    CompletedFirst events ↔ decision events = some .completed := by
  constructor
  · rintro ⟨before, after, rfl, hcritical⟩
    rw [List.append_cons]
    apply decision_append_of_some
    rw [decision_concat]
    cases hbefore : decision before with
    | none => rfl
    | some d =>
        cases d with
        | completed => rfl
        | timedOut =>
            obtain ⟨first, e, rest, rfl, he, -⟩ := List.findSome?_eq_some_iff.mp hbefore
            obtain rfl := Event.decision_eq_timedOut.mp he
            exact absurd (by simp) hcritical
  · intro h
    obtain ⟨before, e, after, rfl, he, hbefore⟩ := List.findSome?_eq_some_iff.mp h
    obtain rfl := Event.decision_eq_completed.mp he
    refine ⟨before, after, rfl, ?_⟩
    intro hcritical
    cases hbefore _ hcritical

/-! ### What one step does to the flags and to the watchdog -/

/-- The timer of the call has not been started. -/
def QueryThread.BeforeTimer : QueryThread V → Prop
  | .starting | .connecting | .registering | .startingTimer => True
  | _ => False

/-- The critical section of the watchdog lies behind it. -/
def Watchdog.Decided (w : Watchdog) : Prop :=
  w = .interrupting ∨ w = .done

section Step

variable {sql : String} {s s' : State V} {e : Event V}

theorem Step.completed_iff (h : Step sql s e s') :
    s'.completed = true ↔ s.completed = true ∨ e = .setCompleted := by
  cases h <;> simp

theorem Step.timedOut_iff (h : Step sql s e s') :
    s'.timedOut = true ↔ s.timedOut = true ∨ e = .criticalSection ∧ s.completed = false := by
  cases h <;> simp_all

theorem Step.unstarted (h : Step sql s e s') (hs : s.query.BeforeTimer → s.watchdog = .unstarted)
    (hs' : s'.query.BeforeTimer) : s'.watchdog = .unstarted := by
  cases h with
  | @close exit => cases exit <;> exact hs'.elim
  | _ => simp_all [QueryThread.BeforeTimer, leave]

theorem Step.of_criticalSection (h : Step sql s .criticalSection s') :
    s.watchdog = .entered ∧ s'.watchdog.Decided := by
  cases h with
  | skip hwatchdog => exact ⟨hwatchdog, .inr rfl⟩
  | timeOut hwatchdog => exact ⟨hwatchdog, .inl rfl⟩

theorem Step.decided (h : Step sql s e s') (hs : s.query.BeforeTimer → s.watchdog = .unstarted)
    (hdecided : s.watchdog.Decided) : s'.watchdog.Decided := by
  cases h with
  | startTimer hquery =>
      have hunstarted := hs (by rw [hquery]; trivial)
      simp [Watchdog.Decided, hunstarted] at hdecided
  | cancelTimer => rcases hdecided with hw | hw <;> simp [Watchdog.Decided, hw]
  | _ => simp_all [Watchdog.Decided]

theorem Step.interrupting (h : Step sql s e s') (hs' : s'.watchdog = .interrupting) :
    s.watchdog = .interrupting ∨ s'.timedOut = true := by
  cases h with
  | cancelTimer =>
      dsimp only at hs'
      split at hs'
      · cases hs'
      · exact .inl hs'
  | _ => simp_all

theorem Step.of_interrupt (h : Step sql s .interrupt s') : s.watchdog = .interrupting := by
  cases h
  assumption

theorem Step.completed (h : Step sql s e s') (hs : s.completed = true) :
    s'.completed = true ∧ s'.timedOut = s.timedOut := by
  refine ⟨h.completed_iff.mpr (.inl hs), ?_⟩
  rw [Bool.eq_iff_iff, h.timedOut_iff]
  simp [hs]

end Step

/-! ### Leaving the `try` block -/

/-- The query thread is on its way out, up to the read of `timed_out`. -/
def Leaving (s : State V) (exit : Exit V) : Prop :=
  s.query = .cancelling exit ∨ s.query = .closing exit ∨ s.query = .reading exit

section Leaving

variable {sql : String} {s s' : State V} {e : Event V} {exit : Exit V}

theorem leave_of_ne (hexit : exit ≠ .escaped) : leave exit = .reading exit := by
  cases exit with
  | escaped => exact absurd rfl hexit
  | _ => rfl

theorem Step.leaving (h : Step sql s e s') (hexit : exit ≠ .escaped) (hs : Leaving s exit) :
    Leaving s' exit ∨ e = .readTimedOut ∧ s'.query = .finished (outcome sql s.timedOut exit) := by
  cases h with
  | cancelTimer hquery =>
      obtain rfl : _ = exit := by simpa [Leaving, hquery] using hs
      exact .inl (.inr (.inl rfl))
  | close hquery =>
      obtain rfl : _ = exit := by simpa [Leaving, hquery] using hs
      exact .inl (.inr (.inr (leave_of_ne hexit)))
  | readTimedOut hquery =>
      obtain rfl : _ = exit := by simpa [Leaving, hquery] using hs
      exact .inr ⟨rfl, rfl⟩
  | fireTimer | skip | timeOut | interrupt => exact .inl hs
  | _ hquery => simp [Leaving, hquery] at hs

theorem Step.finished {o : Outcome V} (h : Step sql s e s') (hs : s.query = .finished o) :
    s'.query = .finished o := by
  cases h with
  | fireTimer | skip | timeOut | interrupt => exact hs
  | _ hquery => simp [hquery] at hs

theorem Step.of_readTimedOut (h : Step sql s .readTimedOut s') :
    ∃ exit, s.query = .reading exit ∧ s'.query = .finished (outcome sql s.timedOut exit) := by
  cases h with
  | readTimedOut hquery => exact ⟨_, hquery, rfl⟩

end Leaving

/-! ### The invariant -/

/-- The query thread left the `try` block in this way and decides by the current `timed_out`. -/
def Handled (sql : String) (s : State V) (exit : Exit V) : Prop :=
  Leaving s exit ∨ s.query = .finished (outcome sql s.timedOut exit)

/-- What holds after the events of a run. The flags tell which critical section came first, and
while the watchdog can still set `timed_out` it has not run. -/
structure Invariant (sql : String) (events : List (Event V)) (s : State V) : Prop where
  unstarted : s.query.BeforeTimer → s.watchdog = .unstarted
  completed_iff : s.completed = true ↔ .setCompleted ∈ events
  timedOut_iff : s.timedOut = true ↔ decision events = some .timedOut
  decided : .criticalSection ∈ events → s.watchdog.Decided
  interrupting : s.watchdog = .interrupting → s.timedOut = true
  interrupted : .interrupt ∈ events → s.timedOut = true
  completed : s.completed = true →
    ∃ dataframe executionTimeMs, Handled sql s (.completed dataframe executionTimeMs)
  returned : ∀ dataframe executionTimeMs, .executeReturns dataframe executionTimeMs ∈ events →
    s.query = .completing dataframe executionTimeMs ∨
      s.completed = true ∧ Handled sql s (.completed dataframe executionTimeMs)

theorem Step.handled {sql : String} {s s' : State V} {e : Event V} {dataframe : DataFrame V}
    {executionTimeMs : ℚ} (h : Step sql s e s') (hcompleted : s.completed = true)
    (hs : Handled sql s (.completed dataframe executionTimeMs)) :
    Handled sql s' (.completed dataframe executionTimeMs) := by
  rw [Handled, (h.completed hcompleted).2]
  rcases hs with hleaving | hfinished
  · rcases h.leaving (by simp) hleaving with hleaving' | ⟨-, hfinished'⟩
    · exact .inl hleaving'
    · exact .inr hfinished'
  · exact .inr (h.finished hfinished)

theorem Step.of_setCompleted {sql : String} {s s' : State V} (h : Step sql s .setCompleted s') :
    ∃ dataframe executionTimeMs, Leaving s' (.completed dataframe executionTimeMs) := by
  cases h
  exact ⟨_, _, .inl rfl⟩

theorem Step.completing {sql : String} {s s' : State V} {e : Event V} {dataframe : DataFrame V}
    {executionTimeMs : ℚ}
    (h : Step sql s e s') (hs : s.query = .completing dataframe executionTimeMs) :
    s'.query = .completing dataframe executionTimeMs ∨
      s'.completed = true ∧ Leaving s' (.completed dataframe executionTimeMs) := by
  cases h with
  | setCompleted hquery =>
      obtain ⟨rfl, rfl⟩ : _ = dataframe ∧ _ = executionTimeMs := by simpa [hquery] using hs
      exact .inr ⟨rfl, .inl rfl⟩
  | fireTimer | skip | timeOut | interrupt => exact .inl hs
  | _ hquery => simp [hquery] at hs

theorem Step.of_executeReturns {sql : String} {s s' : State V} {dataframe : DataFrame V}
    {executionTimeMs : ℚ} (h : Step sql s (.executeReturns dataframe executionTimeMs) s') :
    s'.query = .completing dataframe executionTimeMs := by
  cases h
  rfl

namespace Invariant

variable {sql : String} {events : List (Event V)} {s s' : State V} {e : Event V}

theorem start : Invariant sql [] ({} : State V) := by
  constructor <;> simp [decision]

theorem decision_of_entered (h : Invariant sql events s) (hentered : s.watchdog = .entered)
    (hcompleted : s.completed = false) : decision events = none := by
  rw [decision_eq_none_iff]
  constructor
  · rw [← h.completed_iff, hcompleted]
    simp
  · intro hcritical
    have hdecided := h.decided hcritical
    simp [Watchdog.Decided, hentered] at hdecided

theorem step_timedOut (h : Invariant sql events s) (hstep : Step sql s e s') :
    s'.timedOut = true ↔ decision (events ++ [e]) = some .timedOut := by
  rw [hstep.timedOut_iff, h.timedOut_iff, decision_concat]
  cases hdecision : decision events with
  | none =>
      have hcompleted : s.completed = false := by
        rw [Bool.eq_false_iff, ne_eq, h.completed_iff]
        exact ((decision_eq_none_iff events).mp hdecision).1
      simp [Event.decision_eq_timedOut, hcompleted]
  | some d =>
      -- Decided before: `completed` is set, or the critical section has run already.
      have hlate : ¬(e = .criticalSection ∧ s.completed = false) := by
        rintro ⟨rfl, hcompleted⟩
        rw [h.decision_of_entered hstep.of_criticalSection.1 hcompleted] at hdecision
        cases hdecision
      simp [hlate]

theorem step_returned (h : Invariant sql events s) (hstep : Step sql s e s')
    (dataframe : DataFrame V)
    (executionTimeMs : ℚ) (hreturns : .executeReturns dataframe executionTimeMs ∈ events ++ [e]) :
    s'.query = .completing dataframe executionTimeMs ∨
      s'.completed = true ∧ Handled sql s' (.completed dataframe executionTimeMs) := by
  rw [List.mem_append, List.mem_singleton] at hreturns
  rcases hreturns with hold | rfl
  · rcases h.returned dataframe executionTimeMs hold with hcompleting | ⟨hcompleted, hhandled⟩
    · rcases hstep.completing hcompleting with hcompleting' | ⟨hcompleted', hleaving'⟩
      · exact .inl hcompleting'
      · exact .inr ⟨hcompleted', .inl hleaving'⟩
    · exact .inr ⟨(hstep.completed hcompleted).1, hstep.handled hcompleted hhandled⟩
  · exact .inl hstep.of_executeReturns

theorem step (h : Invariant sql events s) (hstep : Step sql s e s') :
    Invariant sql (events ++ [e]) s' where
  unstarted := hstep.unstarted h.unstarted
  completed_iff := by
    rw [hstep.completed_iff, h.completed_iff, List.mem_append, List.mem_singleton, eq_comm (a := e)]
  timedOut_iff := h.step_timedOut hstep
  decided hmem := by
    rw [List.mem_append, List.mem_singleton] at hmem
    rcases hmem with hold | rfl
    · exact hstep.decided h.unstarted (h.decided hold)
    · exact hstep.of_criticalSection.2
  interrupting hs' := by
    rcases hstep.interrupting hs' with hbefore | hnow
    · exact hstep.timedOut_iff.mpr (.inl (h.interrupting hbefore))
    · exact hnow
  interrupted hmem := by
    rw [List.mem_append, List.mem_singleton] at hmem
    rw [hstep.timedOut_iff]
    rcases hmem with hold | rfl
    · exact .inl (h.interrupted hold)
    · exact .inl (h.interrupting hstep.of_interrupt)
  completed hs' := by
    rcases hstep.completed_iff.mp hs' with hcompleted | rfl
    · obtain ⟨dataframe, executionTimeMs, hhandled⟩ := h.completed hcompleted
      exact ⟨dataframe, executionTimeMs, hstep.handled hcompleted hhandled⟩
    · obtain ⟨dataframe, executionTimeMs, hleaving⟩ := hstep.of_setCompleted
      exact ⟨dataframe, executionTimeMs, .inl hleaving⟩
  returned := h.step_returned hstep

end Invariant

theorem Run.invariant {sql : String} {events : List (Event V)} {s : State V}
    (h : Run sql events s) :
    Invariant sql events s :=
  Trace.invariant (I := Invariant sql) h .start fun _ _ _ _ _ hinv hstep => hinv.step hstep

/-! ### Every run ends -/

def QueryThread.remaining : QueryThread V → Nat
  | .starting => 12
  | .connecting => 11
  | .registering => 10
  | .startingTimer => 9
  | .executing => 5
  | .completing _ _ => 4
  | .cancelling _ => 3
  | .closing _ => 2
  | .reading _ => 1
  | .finished _ => 0

def Watchdog.remaining : Watchdog → Nat
  | .waiting => 3
  | .entered => 2
  | .interrupting => 1
  | _ => 0

/-- A bound on the steps that both threads can still make. -/
def State.remaining (s : State V) : Nat := s.query.remaining + s.watchdog.remaining

theorem Step.remaining_lt {sql : String} {s s' : State V} {e : Event V} (h : Step sql s e s') :
    s'.remaining < s.remaining := by
  cases h with
  | startTimer hquery =>
      simp only [State.remaining, hquery, QueryThread.remaining, Watchdog.remaining]
      omega
  | cancelTimer hquery => cases hw : s.watchdog <;>
      simp [State.remaining, hquery, hw, QueryThread.remaining, Watchdog.remaining]
  | @close exit hquery =>
      cases exit <;> simp [State.remaining, hquery, QueryThread.remaining, leave]
  | fireTimer hwatchdog => simp [State.remaining, hwatchdog, Watchdog.remaining]
  | skip hwatchdog => simp [State.remaining, hwatchdog, Watchdog.remaining]
  | timeOut hwatchdog => simp [State.remaining, hwatchdog, Watchdog.remaining]
  | interrupt hwatchdog => simp [State.remaining, hwatchdog, Watchdog.remaining]
  | _ hquery => simp [State.remaining, hquery, QueryThread.remaining, leave]

theorem Run.length_le {sql : String} {events : List (Event V)} {s : State V}
    (h : Run sql events s) :
    events.length + s.remaining ≤ 12 := by
  refine Trace.invariant (I := fun events s => events.length + s.remaining ≤ 12) h ?_ ?_
  · simp [State.remaining, QueryThread.remaining, Watchdog.remaining]
  · intro events s e s' _ hle hstep
    have hlt := hstep.remaining_lt
    rw [List.length_append, List.length_singleton]
    omega

/-- The query thread waits for nobody. -/
theorem exists_step (sql : String) (s : State V) :
    (∃ o, s.query = .finished o) ∨ ∃ e s', Step sql s e s' := by
  cases hquery : s.query with
  | starting =>
      by_cases hsql : Text.strip sql = ""
      · exact .inr ⟨_, _, .rejectSql hquery hsql⟩
      · exact .inr ⟨_, _, .checkSql hquery hsql⟩
  | connecting => exact .inr ⟨_, _, .connect hquery⟩
  | registering => exact .inr ⟨_, _, .register hquery⟩
  | startingTimer => exact .inr ⟨_, _, .startTimer hquery⟩
  | executing => exact .inr ⟨_, _, .executeFails hquery⟩
  | completing dataframe executionTimeMs => exact .inr ⟨_, _, .setCompleted hquery⟩
  | cancelling exit => exact .inr ⟨_, _, .cancelTimer hquery⟩
  | closing exit => exact .inr ⟨_, _, .close hquery⟩
  | reading exit => exact .inr ⟨_, _, .readTimedOut hquery⟩
  | finished o => exact .inl ⟨o, rfl⟩

theorem exists_finished (sql : String) (s : State V) :
    ∃ later s' o, Trace (Step sql) s later s' ∧ s'.query = .finished o := by
  rcases exists_step sql s with ⟨o, ho⟩ | ⟨e, t, hstep⟩
  · exact ⟨[], s, o, .nil, ho⟩
  · have hlt := hstep.remaining_lt
    obtain ⟨later, s', o, hlater, ho⟩ := exists_finished sql t
    exact ⟨e :: later, s', o, .cons hstep hlater, ho⟩
termination_by s.remaining

end Athena.DuckDBQueryEngine
