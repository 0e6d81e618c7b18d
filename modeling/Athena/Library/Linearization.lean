import Mathlib.Data.Set.Defs
import Athena.Library.Trace

/-!
# Calls that overlap

Threads call a shared object, and a call takes many steps. An action is the invocation of a call, a
step that nobody else notices, the moment the call takes effect, or its answer; threads can also be
stopped in the middle, which has an effect of its own. The effects, in the order in which they
happen, are to be a run of a sequential object, and each thread is to invoke, take effect and be
answered in turn, for the same request and with the same answer. Then a call that is answered before
another is invoked comes first in the sequential run too.
-/

namespace Athena.Library

universe u v w x y z

/-- Of threads `θ`, requests `ο`, answers `ρ`, and events `ε` of the sequential object. -/
inductive Action (θ : Type u) (ο : Type v) (ρ : Type w) (ε : Type x)
  | invoke (thread : θ) (request : ο)
  | work (thread : θ)
  | effect (thread : θ) (event : ε)
  | answer (thread : θ) (response : ρ)
  | stop (threads : Set θ) (event : ε)

variable {θ : Type u} {ο : Type v} {ρ : Type w} {ε : Type x} {σ : Type y} {τ : Type z}

namespace Action

/-- The thread whose action it is. -/
def thread : Action θ ο ρ ε → Option θ
  | .invoke thread _ | .work thread | .effect thread _ | .answer thread _ => some thread
  | .stop _ _ => none

/-- The thread that goes on with its call. -/
def working : Action θ ο ρ ε → Option θ
  | .work thread | .effect thread _ => some thread
  | .invoke _ _ | .answer _ _ | .stop _ _ => none

def event : Action θ ο ρ ε → Option ε
  | .effect _ event | .stop _ event => some event
  | .invoke _ _ | .work _ | .answer _ _ => none

end Action

/-- What takes effect, in order. -/
def effects (actions : List (Action θ ο ρ ε)) : List ε := actions.filterMap Action.event

theorem effects_append (actions later : List (Action θ ο ρ ε)) :
    effects (actions ++ later) = effects actions ++ effects later :=
  List.filterMap_append

/-- How far a thread's call is. -/
inductive Phase (ο : Type v) (ρ : Type w)
  | idle
  | invoked (request : ο)
  | effective (response : ρ)

/-- What an action means to one thread, where an event is for a `request` and gives a `response`. -/
inductive Phase.Step (request : ε → ο) (response : ε → ρ) (thread : θ) :
    Phase ο ρ → Action θ ο ρ ε → Phase ο ρ → Prop
  | invoke (r : ο) : Step request response thread .idle (.invoke thread r) (.invoked r)
  | work (phase : Phase ο ρ) : Step request response thread phase (.work thread) phase
  | effect (event : ε) :
      Step request response thread (.invoked (request event)) (.effect thread event)
        (.effective (response event))
  | answer (x : ρ) : Step request response thread (.effective x) (.answer thread x) .idle
  | other (phase : Phase ο ρ) {action : Action θ ο ρ ε} {thread' : θ}
      (haction : action.thread = some thread')
      (hother : thread' ≠ thread) : Step request response thread phase action phase
  | stopped (phase : Phase ο ρ) {threads : Set θ} (event : ε) (hmem : thread ∈ threads) :
      Step request response thread phase (.stop threads event) .idle
  | spared (phase : Phase ο ρ) {threads : Set θ} (event : ε) (hmem : thread ∉ threads) :
      Step request response thread phase (.stop threads event) phase

/-! ### From the concurrent system to the sequential one -/

/-- Forward simulation with steps that the abstract system does not make. -/
theorem Trace.simulate_filterMap {κ : Type*} {step : τ → κ → τ → Prop} {step' : σ → ε → σ → Prop}
    {f : κ → Option ε}
    {R : τ → σ → Prop} {start s : τ} {start' : σ} {events : List κ} (h : Trace step start events s)
    (hstart : R start start')
    (hsim : ∀ s e s' t, R s t → step s e s' →
      match f e with
      | none => R s' t
      | some e' => ∃ t', step' t e' t' ∧ R s' t') :
    ∃ t, Trace step' start' (events.filterMap f) t ∧ R s t := by
  induction h with
  | nil => exact ⟨start', .nil, hstart⟩
  | @snoc events s s' e _ hlast ih =>
      obtain ⟨t, htrace, hR⟩ := ih
      have hnext := hsim s e s' t hR hlast
      rw [List.filterMap_append]
      cases hfe : f e with
      | none =>
          rw [hfe] at hnext
          refine ⟨t, ?_, hnext⟩
          simpa [List.filterMap_cons, hfe] using htrace
      | some e' =>
          rw [hfe] at hnext
          obtain ⟨t', hstep', hR'⟩ := hnext
          refine ⟨t', ?_, hR'⟩
          simpa [List.filterMap_cons, hfe] using htrace.snoc hstep'

/-- Where each step moves every thread as the action says, each thread follows the order of a call.
-/
theorem phases_of_trace {request : ε → ο} {response : ε → ρ} {step : τ → Action θ ο ρ ε → τ → Prop}
    {phase : τ → θ → Phase ο ρ} {start s : τ} {actions : List (Action θ ο ρ ε)}
    (h : Trace step start actions s)
    (thread : θ) (hstart : phase start thread = .idle)
    (hstep : ∀ s action s', step s action s' →
      Phase.Step request response thread (phase s thread) action (phase s' thread)) :
    Trace (Phase.Step request response thread) .idle actions (phase s thread) := by
  have hphases : ∃ p, Trace (Phase.Step request response thread) .idle actions p ∧
      p = phase s thread :=
    h.simulate (R := fun s p => p = phase s thread) hstart.symm fun s action s' p hp hs =>
      ⟨phase s' thread, hp ▸ hstep s action s' hs, rfl⟩
  obtain ⟨p, htrace, rfl⟩ := hphases
  exact htrace

/-! ### One call -/

/-- The segment is one call of the thread, from its invocation to its answer. -/
def IsCall (thread : θ) (r : ο) (x : ρ) (segment : List (Action θ ο ρ ε)) : Prop :=
  ∃ middle, segment = .invoke thread r :: (middle ++ [.answer thread x]) ∧
    ∀ r', .invoke thread r' ∉ middle

section Call

variable {request : ε → ο} {response : ε → ρ} {thread : θ} {r : ο} {x : ρ}

/-- From its invocation on, a call is waiting for its effect, has taken it, or is over. -/
def Underway (request : ε → ο) (response : ε → ρ) (r : ο) (actions : List (Action θ ο ρ ε))
    (p : Phase ο ρ) : Prop :=
  p = .invoked r ∨
    (∃ event ∈ effects actions, request event = r ∧ p = .effective (response event)) ∨ p = .idle

theorem Underway.step {actions : List (Action θ ο ρ ε)} {action : Action θ ο ρ ε} {p q : Phase ο ρ}
    (h : Underway request response r actions p)
    (hstep : Phase.Step request response thread p action q)
    (hnew : ∀ r', action ≠ .invoke thread r') :
    Underway request response r (actions ++ [action]) q := by
  have hkept : Underway request response r (actions ++ [action]) p := by
    rcases h with hinvoked | ⟨event, hevent, hrequest, hp⟩ | hidle
    · exact .inl hinvoked
    · refine .inr (.inl ⟨event, ?_, hrequest, hp⟩)
      rw [effects_append]
      exact List.mem_append_left _ hevent
    · exact .inr (.inr hidle)
  cases hstep with
  | invoke r' => exact absurd rfl (hnew r')
  | work | other | spared => exact hkept
  | effect event =>
      rcases h with hinvoked | ⟨_, -, -, hp⟩ | hidle
      · refine .inr (.inl ⟨event, ?_, Phase.invoked.inj hinvoked, rfl⟩)
        rw [effects_append]
        exact List.mem_append_right _ List.mem_cons_self
      · cases hp
      · cases hidle
  | answer | stopped => exact .inr (.inr rfl)

/-- **A call takes effect between its invocation and its answer.** -/
theorem exists_effect_of_isCall {segment : List (Action θ ο ρ ε)} {p q : Phase ο ρ}
    (h : Trace (Phase.Step request response thread) p segment q)
    (hcall : IsCall thread r x segment) :
    ∃ event ∈ effects segment, request event = r ∧ response event = x := by
  obtain ⟨middle, rfl, hmiddle⟩ := hcall
  obtain ⟨p₁, hinvoke, hrest⟩ := h.of_cons
  obtain ⟨p₂, hmid, hanswer⟩ := hrest.split
  have hunderway : (∀ r', .invoke thread r' ∉ middle) → Underway request response r middle p₂ := by
    refine hmid.invariant (I := fun actions p => (∀ r', .invoke thread r' ∉ actions) →
      Underway request response r actions p) (fun _ => .inl ?_) ?_
    · cases hinvoke with
      | invoke => rfl
      | other _ haction hother => exact absurd (Option.some.inj haction).symm hother
    · intro actions p action p' _ ih hstep hnone
      refine (ih fun r' hmem => hnone r' (List.mem_append_left _ hmem)).step hstep fun r' haction =>
        hnone r' ?_
      rw [haction]
      exact List.mem_append_right _ List.mem_cons_self
  have heffects :
      effects (.invoke thread r :: (middle ++ [.answer thread x])) = effects middle := by
    rw [effects, List.filterMap_cons_none rfl, List.filterMap_append, List.filterMap_cons_none rfl,
      List.filterMap_nil, List.append_nil]
    rfl
  rw [heffects]
  have hlast := hanswer.of_single
  rcases hunderway hmiddle with rfl | ⟨event, hevent, hrequest, rfl⟩ | rfl
  · cases hlast with
    | other _ haction hother => exact absurd (Option.some.inj haction).symm hother
  · cases hlast with
    | answer => exact ⟨event, hevent, hrequest, rfl⟩
    | other _ haction hother => exact absurd (Option.some.inj haction).symm hother
  · cases hlast with
    | other _ haction hother => exact absurd (Option.some.inj haction).symm hother

/-- What takes effect has been asked for. -/
theorem invoke_mem_of_effect {before after : List (Action θ ο ρ ε)} {event : ε} {p : Phase ο ρ}
    (h : Trace (Phase.Step request response thread) .idle
      (before ++ .effect thread event :: after) p) :
    .invoke thread (request event) ∈ before := by
  obtain ⟨p₁, hbefore, hafter⟩ := h.split
  obtain ⟨p₂, heffect, -⟩ := hafter.of_cons
  have hinvoked : ∀ r, p₁ = .invoked r → .invoke thread r ∈ before := by
    apply hbefore.invariant (I := fun actions p => ∀ r, p = .invoked r → .invoke thread r ∈ actions)
    · intro r hnone
      cases hnone
    · intro actions p action q _ ih hstep r hr
      subst hr
      cases hstep with
      | invoke => exact List.mem_append_right _ List.mem_cons_self
      | work | other | spared => exact List.mem_append_left _ (ih r rfl)
  cases heffect with
  | effect => exact hinvoked _ rfl
  | other _ haction hother => exact absurd (Option.some.inj haction).symm hother

/-- Of two calls one after the other, the effects come in this order. -/
theorem exists_effects_of_isCall {thread' : θ} {r' : ο} {x' : ρ}
    {before call between call' after : List (Action θ ο ρ ε)}
    (h : ∀ thread, ∃ p, Trace (Phase.Step request response thread) .idle
      (before ++ call ++ between ++ call' ++ after) p)
    (hcall : IsCall thread r x call) (hcall' : IsCall thread' r' x' call') :
    ∃ first event middle event' last, effects (before ++ call ++ between ++ call' ++ after) =
        first ++ event :: middle ++ event' :: last ∧
      request event = r ∧ response event = x ∧ request event' = r' ∧ response event' = x' := by
  obtain ⟨p, hp⟩ := h thread
  obtain ⟨_, hp, -⟩ := hp.split
  obtain ⟨_, hp, -⟩ := hp.split
  obtain ⟨_, hp, -⟩ := hp.split
  obtain ⟨_, -, hp⟩ := hp.split
  obtain ⟨p', hp'⟩ := h thread'
  obtain ⟨_, hp', -⟩ := hp'.split
  obtain ⟨_, -, hp'⟩ := hp'.split
  obtain ⟨event, hevent, hrequest, hresponse⟩ := exists_effect_of_isCall hp hcall
  obtain ⟨event', hevent', hrequest', hresponse'⟩ := exists_effect_of_isCall hp' hcall'
  obtain ⟨a, b, hab⟩ := List.append_of_mem hevent
  obtain ⟨c, d, hcd⟩ := List.append_of_mem hevent'
  refine ⟨effects before ++ a, event, b ++ effects between ++ c, event', d ++ effects after, ?_,
    hrequest, hresponse, hrequest', hresponse'⟩
  simp only [effects_append, hab, hcd, List.append_assoc, List.cons_append]

end Call

end Athena.Library
