import Athena.Query.Interrupts

/-!
# Every execution ends and cleans up

However the two threads take turns, an execution makes a bounded number of steps, and none of its
states keeps it from ending. When the query thread has its outcome, the connection is closed and the
timer no longer runs; when neither thread can go on, the callback is over too.
-/

namespace Athena.DuckDBQueryEngine

open Library

variable {V : Type} {sql : String} {s s' : State V} {e : Event V} {events : List (Event V)}

/-- Where the query thread is outside the `with` block, or on its way out of it. -/
structure Tidy (s : State V) : Prop where
  before : s.query = .starting ∨ s.query = .connecting →
    s.connection = .unopened ∧ s.watchdog = .unstarted
  registering : s.query = .registering → s.watchdog = .unstarted
  startingTimer : s.query = .startingTimer → s.watchdog = .unstarted
  closing : ∀ exit, s.query = .closing exit → s.watchdog ≠ .waiting
  reading : ∀ exit, s.query = .reading exit → s.connection ≠ .opened ∧ s.watchdog ≠ .waiting
  finished : ∀ o, s.query = .finished o → s.connection ≠ .opened ∧ s.watchdog ≠ .waiting

theorem Tidy.start : Tidy ({} : State V) := by
  constructor <;> simp

theorem Tidy.step (hs : Tidy s) (h : Step sql s e s') : Tidy s' := by
  obtain ⟨hbefore, hregistering, hstartingTimer, hclosing, hreading, hfinished⟩ := hs
  cases h with
  | cancelTimer =>
      constructor
      case closing =>
        intro _ _
        by_cases hwatchdog : s.watchdog = .waiting <;> simp [hwatchdog]
      all_goals simp
  | @close exit hquery =>
      have hnot := hclosing exit hquery
      cases exit <;> constructor <;> simp [leave, hnot]
  | _ => constructor <;> simp_all [leave]

theorem Run.tidy (hrun : Run sql events s) : Tidy s :=
  Trace.invariant (I := fun _ s => Tidy s) hrun .start fun _ _ _ _ _ htidy hstep => htidy.step hstep

/-- Neither thread can go on. -/
def Ended (sql : String) (s : State V) : Prop := ∀ e s', ¬Step sql s e s'

theorem Ended.finished (h : Ended sql s) : ∃ o, s.query = .finished o := by
  rcases exists_step sql s with hfinished | ⟨e, s', hstep⟩
  · exact hfinished
  · exact absurd hstep (h e s')

/-- A callback that has begun goes on to its end. -/
theorem Ended.watchdog (h : Ended sql s) :
    s.watchdog = .unstarted ∨ s.watchdog = .cancelled ∨ s.watchdog = .done := by
  cases hwatchdog : s.watchdog with
  | unstarted => exact .inl rfl
  | cancelled => exact .inr (.inl rfl)
  | done => exact .inr (.inr rfl)
  | waiting => exact absurd (.fireTimer hwatchdog) (h _ _)
  | interrupting => exact absurd (.interrupt hwatchdog) (h _ _)
  | entered =>
      cases hcompleted : s.completed with
      | true => exact absurd (.skip hwatchdog hcompleted) (h _ _)
      | false => exact absurd (.timeOut hwatchdog hcompleted) (h _ _)

/-- From every state the threads come to an end. -/
theorem exists_ended (sql : String) (s : State V) :
    ∃ later s', Trace (Step sql) s later s' ∧ Ended sql s' := by
  by_cases hended : Ended sql s
  · exact ⟨[], s, .nil, hended⟩
  · simp only [Ended, not_forall, not_not] at hended
    obtain ⟨e, t, hstep⟩ := hended
    have hlt := hstep.remaining_lt
    obtain ⟨later, s', hlater, hended'⟩ := exists_ended sql t
    exact ⟨e :: later, s', .cons hstep hlater, hended'⟩
termination_by s.remaining

/-- **Every execution ends and leaves nothing behind.** For every interleaving of the two threads:
an execution has at most twelve steps, and can always be continued to its end; once the query thread
has its outcome, it keeps it, the connection is not open and the timer is not running; and at the
end it has its outcome and no callback is on its way. -/
theorem execute_terminates (hrun : Run sql events s) :
    events.length ≤ 12 ∧ (∃ later s', Trace (Step sql) s later s' ∧ Ended sql s') ∧
      (∀ o, s.query = .finished o → s.connection ≠ .opened ∧ s.watchdog ≠ .waiting ∧
        ∀ later s', Trace (Step sql) s later s' → s'.query = .finished o) ∧
      (Ended sql s → (∃ o, s.query = .finished o) ∧ s.connection ≠ .opened ∧
        (s.watchdog = .unstarted ∨ s.watchdog = .cancelled ∨ s.watchdog = .done)) := by
  have htidy := hrun.tidy
  refine ⟨?_, exists_ended sql s, ?_, ?_⟩
  · have hlength := hrun.length_le
    omega
  · intro o ho
    obtain ⟨hconnection, hwatchdog⟩ := htidy.finished o ho
    exact ⟨hconnection, hwatchdog, fun later s' hlater => finished_run hlater ho⟩
  · intro hended
    obtain ⟨o, ho⟩ := hended.finished
    exact ⟨⟨o, ho⟩, (htidy.finished o ho).1, hended.watchdog⟩

/-- The query fails while the callback is past its critical section; the interrupt is still to come.
-/
theorem execute_terminates_sample :
    ∃ s : State Nat, s.query = .finished (.raised limitError) ∧ s.connection ≠ .opened ∧
    ∃ later s', Trace (Step "SELECT id FROM dataset") s later s' ∧
    Ended "SELECT id FROM dataset" s' := by
  have hrun : Run (V := Nat) "SELECT id FROM dataset" _ _ :=
    .cons (.checkSql rfl (by decide)) <| .cons (.connect rfl) <| .cons (.register rfl) <|
      .cons (.startTimer rfl) <|
      .cons (.fireTimer rfl) <| .cons (.timeOut rfl rfl) <| .cons (.executeFails rfl) <|
      .cons (.cancelTimer rfl) <| .cons (.close rfl) <| .single (.readTimedOut rfl)
  obtain ⟨-, hended, hfinished, -⟩ := execute_terminates hrun
  exact ⟨_, rfl, (hfinished _ rfl).1, hended⟩

end Athena.DuckDBQueryEngine
