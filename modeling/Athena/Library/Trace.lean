import Mathlib.Data.List.Induction

/-!
# Finite runs of a labelled transition system

A component is given by a relation `step s e s'`: from `s`, the event `e` can happen and leaves
`s'`. A `Trace` is a finite sequence of such events. Everything proved of a component "over every
run" goes through the two rules of this module: an invariant that may mention the history, and a
forward simulation into a more abstract system with the same events.
-/

namespace Athena.Library

universe u v w

variable {σ : Type u} {τ : Type v} {ε : Type w}

/-- `Trace step s events t`: the events can happen one after another from `s` and lead to `t`. -/
inductive Trace (step : σ → ε → σ → Prop) (start : σ) : List ε → σ → Prop
  | nil : Trace step start [] start
  | snoc {events : List ε} {s s' : σ} {e : ε} :
      Trace step start events s → step s e s' → Trace step start (events ++ [e]) s'

namespace Trace

variable {step : σ → ε → σ → Prop} {start s t : σ} {events later : List ε}

/-- The invariant rule. The invariant may relate the state to the events that led to it. -/
theorem invariant {I : List ε → σ → Prop} (h : Trace step start events s) (hstart : I [] start)
    (hstep : ∀ events s e s', Trace step start events s → I events s → step s e s' →
      I (events ++ [e]) s') : I events s := by
  induction h with
  | nil => exact hstart
  | snoc hprefix hlast ih => exact hstep _ _ _ _ hprefix ih hlast

theorem append (h : Trace step start events s) (hlater : Trace step s later t) :
    Trace step start (events ++ later) t := by
  induction hlater with
  | nil => simpa using h
  | snoc _ hlast ih =>
      rw [← List.append_assoc]
      exact ih.snoc hlast

theorem single {e : ε} (h : step s e t) : Trace step s [e] t := by
  have hempty : Trace step s [] s := .nil
  simpa using hempty.snoc h

theorem cons {e : ε} (h : step s e t) {u : σ} (hlater : Trace step t later u) :
    Trace step s (e :: later) u :=
  (single h).append hlater

theorem eq_of_nil (h : Trace step s [] t) : t = s := by
  generalize hnone : ([] : List ε) = none at h
  cases h with
  | nil => rfl
  | snoc => simp at hnone

theorem of_single {e : ε} (h : Trace step s [e] t) : step s e t := by
  generalize hall : [e] = all at h
  cases h with
  | nil => simp at hall
  | @snoc events s' _ e' hinitial hlast =>
      obtain ⟨rfl, hlastEq⟩ := List.append_inj' ((List.nil_append [e]).trans hall) rfl
      obtain rfl : e = e' := by simpa using hlastEq
      rw [hinitial.eq_of_nil] at hlast
      exact hlast

/-- A run can be cut at any point: the state reached there is a state of the system. -/
theorem split (h : Trace step start (events ++ later) t) :
    ∃ s, Trace step start events s ∧ Trace step s later t := by
  induction later using List.reverseRecOn generalizing t with
  | nil => exact ⟨t, by simpa using h, .nil⟩
  | append_singleton later e ih =>
      rw [← List.append_assoc] at h
      generalize hall : events ++ later ++ [e] = all at h
      cases h with
      | nil => simp at hall
      | snoc hprefix hlast =>
          obtain ⟨rfl, hlastEq⟩ := List.append_inj' hall rfl
          obtain rfl : e = _ := by simpa using hlastEq
          obtain ⟨s, hbefore, hafter⟩ := ih hprefix
          exact ⟨s, hbefore, hafter.snoc hlast⟩

theorem of_cons {e : ε} (h : Trace step s (e :: later) t) :
    ∃ u, step s e u ∧ Trace step u later t := by
  rw [← List.singleton_append] at h
  obtain ⟨u, hfirst, hlater⟩ := h.split
  exact ⟨u, hfirst.of_single, hlater⟩

/-- Where a step is determined by its event, a run is determined by its events. -/
theorem deterministic (hstep : ∀ s e t t', step s e t → step s e t' → t = t')
    (h : Trace step start events s) (h' : Trace step start events t) : s = t := by
  induction h generalizing t with
  | nil => exact h'.eq_of_nil.symm
  | snoc _ hlast ih =>
      obtain ⟨u, hprefix', hlast'⟩ := h'.split
      rw [ih hprefix'] at hlast
      exact hstep _ _ _ _ hlast hlast'.of_single

/-- Forward simulation: if every step is matched by an abstract step with the same event, every run
is matched by an abstract run with the same events. -/
theorem simulate {step' : τ → ε → τ → Prop} {R : σ → τ → Prop} {start' : τ}
    (h : Trace step start events s) (hstart : R start start')
    (hsim : ∀ s e s' t, R s t → step s e s' → ∃ t', step' t e t' ∧ R s' t') :
    ∃ t, Trace step' start' events t ∧ R s t := by
  induction h with
  | nil => exact ⟨start', .nil, hstart⟩
  | snoc _ hlast ih =>
      obtain ⟨t, htrace, hR⟩ := ih
      obtain ⟨t', hstep', hR'⟩ := hsim _ _ _ _ hR hlast
      exact ⟨t', htrace.snoc hstep', hR'⟩

end Trace

/-! ### What holds when an event happens -/

/-- Whenever `e` happens, it happens in a state with `P`. -/
def AtEvent (step : σ → ε → σ → Prop) (start : σ) (e : ε) (P : σ → Prop) (events : List ε) : Prop :=
  ∀ before after s, events = before ++ e :: after → Trace step start before s → P s

namespace AtEvent

variable {step : σ → ε → σ → Prop} {start : σ} {e e' : ε} {P : σ → Prop} {events later : List ε}

theorem of_append (h : AtEvent step start e P (events ++ later)) :
    AtEvent step start e P events := by
  intro before after s hevents hbefore
  apply h before (after ++ later) s _ hbefore
  rw [hevents, List.append_assoc, List.cons_append]

theorem of_not_mem (h : e ∉ events) : AtEvent step start e P events := by
  intro before after s hevents _
  exact absurd (hevents ▸ List.mem_append_right before List.mem_cons_self) h

theorem at_last (h : AtEvent step start e P (events ++ [e])) {s : σ}
    (hs : Trace step start events s) : P s :=
  h events [] s rfl hs

theorem concat (h : AtEvent step start e P events)
    (hlast : e' = e → ∀ s, Trace step start events s → P s) :
    AtEvent step start e P (events ++ [e']) := by
  intro before after s hevents hbefore
  cases after using List.reverseRecOn with
  | nil =>
      obtain ⟨rfl, hsame⟩ := List.append_inj' hevents rfl
      exact hlast (List.cons.inj hsame).1 s hbefore
  | append_singleton rest last =>
      rw [← List.cons_append, ← List.append_assoc] at hevents
      obtain ⟨hfirst, -⟩ := List.append_inj' hevents rfl
      exact h before rest s hfirst hbefore

end AtEvent

end Athena.Library
