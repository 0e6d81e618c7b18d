import Athena.Query.Outcomes

/-!
# When the connection is interrupted

The watchdog decides under the lock and interrupts after it has given the lock back, and to cancel a
timer is not to wait for a callback that has begun. Nothing but the schedule therefore keeps the
interrupt before the end of the `with` block. It comes before, in every run, where no callback is
left on its way when the block ends; from any other run the watchdog goes on to interrupt a
connection that is closed.
-/

namespace Athena.DuckDBQueryEngine

open Library

variable {V : Type}

/-- No callback is on its way to the interrupt: none is past its critical section, and one that has
begun but not come so far finds `completed` set. -/
def Settled (s : State V) : Prop :=
  s.watchdog ≠ .interrupting ∧ (s.watchdog = .entered → s.completed = true)

/-- Whenever the `with` block ends, no callback is on its way. -/
abbrev ClosesSettled (sql : String) (events : List (Event V)) : Prop :=
  AtEvent (Step sql) ({} : State V) .close Settled events

/-- Whenever `connection.interrupt()` is called, the connection is open. -/
abbrev InterruptsOpen (sql : String) (events : List (Event V)) : Prop :=
  AtEvent (Step sql) ({} : State V) .interrupt (fun s => s.connection = .opened) events

def Event.OfWatchdog : Event V → Prop
  | .fireTimer | .criticalSection | .interrupt => True
  | _ => False

section Step

variable {sql : String} {s s' : State V} {e : Event V}

theorem Step.deterministic (s : State V) (e : Event V) (t t' : State V) (h : Step sql s e t)
    (h' : Step sql s e t') :
    t = t' := by
  cases h <;> cases h' <;> simp_all

/-! ### While the connection is open -/

/-- The connection is open as long as the timer is running, and the timer no longer runs at the end
of the `with` block. -/
structure Connected (s : State V) : Prop where
  unstarted : s.query.BeforeTimer → s.watchdog = .unstarted
  opened : s.query = .registering ∨ s.query = .startingTimer → s.connection = .opened
  waiting : s.watchdog = .waiting → s.connection = .opened ∧ ∀ exit, s.query ≠ .closing exit

theorem Connected.start : Connected ({} : State V) := by
  constructor <;> simp

theorem Connected.step (hs : Connected s) (h : Step sql s e s') : Connected s' where
  unstarted := h.unstarted hs.unstarted
  opened := by
    have hopened := hs.opened
    cases h with
    | @close exit => cases exit <;> simp [leave]
    | _ => simp_all [leave]
  waiting := by
    intro hwaiting'
    cases h with
    | startTimer hquery => exact ⟨hs.opened (.inr hquery), by simp⟩
    | cancelTimer => by_cases hwatchdog : s.watchdog = .waiting <;> simp [hwatchdog] at hwaiting'
    | close hquery => exact absurd hquery ((hs.waiting hwaiting').2 _)
    | fireTimer | skip | timeOut | interrupt => cases hwaiting'
    | checkSql hquery | rejectSql hquery | connect hquery | connectFails hquery
    | connectEscapes hquery | register hquery | registerFails hquery | registerEscapes hquery
    | startTimerEscapes hquery =>
        -- The timer has not been started.
        have hunstarted := hs.unstarted (by rw [hquery]; trivial)
        rw [hunstarted] at hwaiting'
        cases hwaiting'
    | _ => exact ⟨(hs.waiting hwaiting').1, by simp⟩

theorem Step.opened (h : Step sql s e s') (hs : Connected s) (hclose : e = .close → Settled s)
    (hopened : ¬Settled s → s.connection = .opened) (hs' : ¬Settled s') :
    s'.connection = .opened := by
  cases h with
  | connect => rfl
  | fireTimer hwatchdog => exact (hs.waiting hwatchdog).1
  | timeOut hwatchdog hcompleted =>
      apply hopened
      intro hsettled
      rw [hsettled.2 hwatchdog] at hcompleted
      cases hcompleted
  | close => exact absurd (hclose rfl) hs'
  | setCompleted => exact hopened fun hsettled => hs' ⟨hsettled.1, fun _ => rfl⟩
  | cancelTimer =>
      apply hopened
      intro hsettled
      apply hs'
      by_cases hwatchdog : s.watchdog = .waiting
      · simp [Settled, hwatchdog]
      · simpa [Settled, hwatchdog] using hsettled
  | startTimer | skip | interrupt => exact absurd ⟨nofun, nofun⟩ hs'
  | _ => exact hopened hs'

/-! ### After the connection is closed -/

/-- The query thread has left the `with` block, and the connection is closed. -/
def Left (s : State V) : Prop :=
  s.connection = .closed ∧ ((∃ exit, s.query = .reading exit) ∨ ∃ o, s.query = .finished o)

theorem Step.left_of_close (h : Step sql s .close s') : Left s' := by
  cases h with
  | @close exit => cases exit <;> simp [Left, leave]

theorem Step.left (h : Step sql s e s') (hs : Left s) : Left s' := by
  cases h with
  | readTimedOut => exact ⟨hs.1, .inr ⟨_, rfl⟩⟩
  | fireTimer | skip | timeOut | interrupt => exact hs
  | _ hquery => simp [Left, hquery] at hs

/-- `completed` is not set any more, so that a callback on its way stays on it. -/
theorem Step.unsettled (h : Step sql s e s') (hs : Left s) (hunsettled : ¬Settled s) :
    e = .interrupt ∨ ¬Settled s' := by
  cases h with
  | readTimedOut => exact .inr hunsettled
  | fireTimer hwatchdog => simp [Settled, hwatchdog] at hunsettled
  | skip hwatchdog hcompleted => simp [Settled, hwatchdog, hcompleted] at hunsettled
  | timeOut => exact .inr fun hsettled => hsettled.1 rfl
  | interrupt => exact .inl rfl
  | _ hquery => simp [Left, hquery] at hs

end Step

section Run

variable {sql : String} {events : List (Event V)} {s : State V}

theorem Run.connected (hrun : Run sql events s) : Connected s :=
  Trace.invariant (I := fun _ s => Connected s) hrun .start fun _ _ _ _ _ hconnected hstep =>
    hconnected.step hstep

/-- Where no callback was on its way when the block ended, one that is now finds the connection
open. -/
theorem Run.opened (hrun : Run sql events s) :
    ClosesSettled sql events → ¬Settled s → s.connection = .opened := by
  apply Trace.invariant (I := fun events s =>
    ClosesSettled sql events → ¬Settled s → s.connection = .opened) hrun
  · intro _ hunsettled
    exact absurd ⟨nofun, nofun⟩ hunsettled
  · intro events s e s' hrun ih hstep hcloses
    apply hstep.opened (Run.connected hrun)
    · rintro rfl
      exact hcloses.at_last hrun
    · exact ih hcloses.of_append

theorem Run.interruptsOpen (hrun : Run sql events s) (hcloses : ClosesSettled sql events) :
    InterruptsOpen sql events := by
  intro before after t hevents hbefore
  subst hevents
  obtain ⟨t', hbefore', hafter⟩ := hrun.split
  obtain rfl : t' = t := hbefore'.deterministic Step.deterministic hbefore
  obtain ⟨_, hinterrupt, -⟩ := hafter.of_cons
  exact Run.opened hbefore hcloses.of_append fun hsettled => hsettled.1 hinterrupt.of_interrupt

end Run

section Later

variable {sql : String} {before later : List (Event V)} {s t u : State V}

theorem left_of_trace (hlater : Trace (Step sql) u later s) (hu : Left u) : Left s :=
  Trace.invariant (I := fun _ s => Left s) hlater hu fun _ _ _ _ _ hleft hstep => hstep.left hleft

theorem unsettled_of_trace (hlater : Trace (Step sql) u later s) (hu : Left u)
    (hunsettled : ¬Settled u) :
    .interrupt ∈ later ∨ ¬Settled s := by
  apply Trace.invariant (I := fun later s => .interrupt ∈ later ∨ ¬Settled s) hlater
  · exact .inr hunsettled
  · intro later s e s' hlater ih hstep
    rw [List.mem_append, List.mem_singleton]
    rcases ih with hmem | hpending
    · exact .inl (.inl hmem)
    · rcases hstep.unsettled (left_of_trace hlater hu) hpending with rfl | hpending'
      · exact .inl (.inr rfl)
      · exact .inr hpending'

/-- A callback on its way gets to the interrupt by itself. -/
theorem exists_interrupt (sql : String) (hunsettled : ¬Settled s) :
    ∃ later t, (∀ e ∈ later, Event.OfWatchdog e) ∧ .interrupt ∈ later ∧
      Trace (Step sql) s later t := by
  by_cases hinterrupting : s.watchdog = .interrupting
  · refine ⟨[.interrupt], _, ?_, by simp, .single (.interrupt hinterrupting)⟩
    simp [Event.OfWatchdog]
  · have hentered : s.watchdog = .entered ∧ s.completed = false := by
      simpa [Settled, hinterrupting] using hunsettled
    refine ⟨[.criticalSection, .interrupt], _, ?_, by simp,
      .cons (.timeOut hentered.1 hentered.2) (.single (.interrupt rfl))⟩
    simp [Event.OfWatchdog]

theorem not_interruptsOpen (hbefore : Run sql before t) (hclose : Step sql t .close u)
    (hlater : Trace (Step sql) u later s) (hmem : .interrupt ∈ later) :
    ¬InterruptsOpen sql (before ++ .close :: later) := by
  intro hopen
  obtain ⟨first, rest, rfl⟩ := List.append_of_mem hmem
  obtain ⟨w, hfirst, -⟩ := hlater.split
  have hrun : Run sql (before ++ .close :: first) w := hbefore.append (.cons hclose hfirst)
  have hopened : w.connection = .opened := hopen (before ++ .close :: first) rest w (by simp) hrun
  rw [(left_of_trace hfirst hclose.left_of_close).1] at hopened
  cases hopened

end Later

/-- **When the connection is interrupted.** In a run where no callback is on its way whenever the
`with` block ends, every interrupt finds the connection open. From any other run the watchdog alone
goes on, if it has not done so yet, to one that finds it closed. -/
theorem interrupts_open {sql : String} {events : List (Event V)} {s : State V}
    (hrun : Run sql events s) :
    (ClosesSettled sql events → InterruptsOpen sql events) ∧
    (¬ClosesSettled sql events →
      ∃ later t, (∀ e ∈ later, Event.OfWatchdog e) ∧ Run sql (events ++ later) t ∧
      ¬InterruptsOpen sql (events ++ later)) := by
  refine ⟨hrun.interruptsOpen, fun hcloses => ?_⟩
  simp only [ClosesSettled, AtEvent, not_forall] at hcloses
  obtain ⟨before, after, t, rfl, hbefore, hunsettled⟩ := hcloses
  obtain ⟨t', hbefore', hafter⟩ := hrun.split
  obtain rfl : t' = t := hbefore'.deterministic Step.deterministic hbefore
  obtain ⟨u, hclose, hafter⟩ := hafter.of_cons
  have hunsettled' : ¬Settled u := by
    cases hclose
    exact hunsettled
  rcases unsettled_of_trace hafter hclose.left_of_close hunsettled' with hmem | hpending
  · refine ⟨[], s, nofun, by rwa [List.append_nil], ?_⟩
    rw [List.append_nil]
    exact not_interruptsOpen hbefore hclose hafter hmem
  · obtain ⟨later, w, hwatchdog, hmem, hlater⟩ := exists_interrupt sql hpending
    refine ⟨later, w, hwatchdog, hrun.append hlater, ?_⟩
    rw [List.append_assoc, List.cons_append]
    exact not_interruptsOpen hbefore hclose (hafter.append hlater) (List.mem_append_right _ hmem)

/-- The deadline passes while the query runs, and the interrupt makes it fail. -/
theorem interrupts_open_sample : InterruptsOpen "SELECT id FROM dataset"
    ([.checkSql, .connect, .register, .startTimer, .fireTimer, .criticalSection, .interrupt,
      .executeFails, .cancelTimer] ++ [.close] : List (Event Nat)) := by
  have hrun : Run "SELECT id FROM dataset" [.checkSql, .connect, .register, .startTimer, .fireTimer,
      .criticalSection, .interrupt, .executeFails, .cancelTimer] (_ : State Nat) :=
    .cons (.checkSql rfl (by decide)) <| .cons (.connect rfl) <| .cons (.register rfl) <|
      .cons (.startTimer rfl) <|
      .cons (.fireTimer rfl) <| .cons (.timeOut rfl rfl) <| .cons (.interrupt rfl) <|
        .cons (.executeFails rfl) <|
      .single (.cancelTimer rfl)
  refine (interrupts_open (hrun.snoc (.close rfl))).1
    ((AtEvent.of_not_mem (by simp)).concat fun _ t ht => ?_)
  obtain rfl := hrun.deterministic Step.deterministic ht
  exact ⟨nofun, nofun⟩

/-- The query returns just after the deadline: the watchdog has seen that `completed` is not set,
and gets to its interrupt when the connection is closed. -/
theorem interrupt_after_close :
    (∃ s : State Nat, Run "SELECT id FROM dataset"
      [.checkSql, .connect, .register, .startTimer, .fireTimer, .criticalSection,
        .executeReturns sampleFrame 1, .setCompleted, .cancelTimer, .close, .interrupt] s) ∧
    ¬InterruptsOpen "SELECT id FROM dataset"
      [.checkSql, .connect, .register, .startTimer, .fireTimer, .criticalSection,
        .executeReturns sampleFrame 1, .setCompleted, .cancelTimer, .close, .interrupt] := by
  have hclosed : Run "SELECT id FROM dataset" [.checkSql, .connect, .register, .startTimer,
      .fireTimer, .criticalSection, .executeReturns sampleFrame 1, .setCompleted, .cancelTimer,
      .close] _ :=
    .cons (.checkSql rfl (by decide)) <| .cons (.connect rfl) <| .cons (.register rfl) <|
      .cons (.startTimer rfl) <|
      .cons (.fireTimer rfl) <| .cons (.timeOut rfl rfl) <|
        .cons (.executeReturns rfl sampleFrame 1) <|
      .cons (.setCompleted rfl) <| .cons (.cancelTimer rfl) <| .single (.close rfl)
  refine ⟨⟨_, hclosed.snoc (.interrupt rfl)⟩, fun hopen => ?_⟩
  have hopened := hopen _ [] _ rfl hclosed
  cases hopened

end Athena.DuckDBQueryEngine
