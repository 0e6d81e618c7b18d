import Athena.Persistence.Concurrency

/-!
# The repository is linearizable

However the steps of the threads come, and wherever processes die, the calls have the responses they
would have one after another: each takes effect at once, at a moment between its invocation and its
response, and what is in the file at any time is what the calls up to then have made of it. The
refinement maps a state to the world of the sequential calls; a step with an effect is that call,
and any other step is none.
-/

namespace Athena.Persistence

open Library Library.Program SQLiteDatasetRepository

/-! ### The locks -/

def ThreadState.stage : ThreadState → Option Stage
  | .inside _ stage => some stage
  | .idle | .acquiring _ _ => none

/-- Who is inside the lock of an object owns it, and what he relies on holds. -/
structure Inv (s : State) : Prop where
  owned : ∀ {thread object stage}, s.thread thread = .inside object stage →
    s.owner object = some thread
  inside : ∀ {object thread}, s.owner object = some thread →
    ∃ stage, s.thread thread = .inside object stage
  valid : ∀ {thread object stage}, s.thread thread = .inside object stage →
    stage.Valid object (s.scope object)
  writing : ∀ {object}, s.writer = some object →
    ∃ thread stage, s.thread thread = .inside object stage ∧ stage.MayWrite

theorem inv_fresh : Inv State.fresh := by
  constructor
  · exact fun h => nomatch h
  · exact fun h => nomatch h
  · exact fun h => nomatch h
  · exact fun h => nomatch h

section Step

variable {s s' : State} {thread thread' object object' : Nat} {stage stage' : Stage}

theorem inside_update {x : ThreadState}
    (h : Function.update s.thread thread x thread' = .inside object stage) :
    thread' = thread ∧ x = .inside object stage ∨
      thread' ≠ thread ∧ s.thread thread' = .inside object stage := by
  by_cases hsame : thread' = thread
  · subst hsame
    rw [Function.update_self] at h
    exact .inl ⟨rfl, h⟩
  · rw [Function.update_of_ne hsame] at h
    exact .inr ⟨hsame, h⟩

/-- At most one thread is inside the lock of an object. -/
theorem Inv.exclusive (h : Inv s) (hthread : s.thread thread = .inside object stage)
    (hthread' : s.thread thread' = .inside object stage') : thread' = thread :=
  Option.some.inj ((h.owned hthread').symm.trans (h.owned hthread))

theorem Inv.ne_object (h : Inv s) (hthread : s.thread thread = .inside object stage)
    (hthread' : s.thread thread' = .inside object' stage') (hne : thread' ≠ thread) :
    object' ≠ object := by
  rintro rfl
  exact hne (h.exclusive hthread hthread')

theorem Inv.invoke (h : Inv s) (hthread : s.thread thread = .idle) (request : Request) :
    Inv { s with thread := Function.update s.thread thread (.acquiring object request) } := by
  have hkept :
      ∀ {t o st}, Function.update s.thread thread (.acquiring object request) t = .inside o st →
      s.thread t = .inside o st := by
    intro t o st ht
    rcases inside_update ht with ⟨-, hnone⟩ | ⟨-, hinside⟩
    · cases hnone
    · exact hinside
  have hother : ∀ {t o st}, s.thread t = .inside o st →
      Function.update s.thread thread (.acquiring object request) t = .inside o st := by
    intro t o st ht
    have hne : t ≠ thread := by
      rintro rfl
      rw [hthread] at ht
      cases ht
    rw [Function.update_of_ne hne, ht]
  refine ⟨fun ht => h.owned (hkept ht), fun ho => ?_, fun ht => h.valid (hkept ht), fun hw => ?_⟩
  · obtain ⟨stage, hstage⟩ := h.inside ho
    exact ⟨stage, hother hstage⟩
  · obtain ⟨t, stage, hstage, hmay⟩ := h.writing hw
    exact ⟨t, stage, hother hstage, hmay⟩

theorem Inv.acquire (h : Inv s) {request : Request}
    (hthread : s.thread thread = .acquiring object request) (hfree : s.owner object = none) :
    Inv { s with
      owner := Function.update s.owner object (some thread)
      thread := Function.update s.thread thread (.inside object (.entered request)) } := by
  have hother : ∀ {t o st}, s.thread t = .inside o st → t ≠ thread ∧ o ≠ object := by
    intro t o st ht
    constructor
    · rintro rfl
      rw [hthread] at ht
      cases ht
    · rintro rfl
      have howner := h.owned ht
      rw [hfree] at howner
      cases howner
  constructor
  · intro t o st ht
    rcases inside_update ht with ⟨rfl, hnew⟩ | ⟨-, hinside⟩
    · obtain ⟨rfl, -⟩ := ThreadState.inside.inj hnew
      exact Function.update_self ..
    · exact (Function.update_of_ne (hother hinside).2 _ _).trans (h.owned hinside)
  · intro o t ho
    by_cases hsame : o = object
    · subst hsame
      have hself : some thread = some t :=
        (Function.update_self o (some thread) s.owner).symm.trans ho
      obtain rfl := Option.some.inj hself
      exact ⟨_, Function.update_self ..⟩
    · obtain ⟨stage, hstage⟩ := h.inside ((Function.update_of_ne hsame _ _).symm.trans ho)
      exact ⟨stage, (Function.update_of_ne (hother hstage).1 _ _).trans hstage⟩
  · intro t o st ht
    rcases inside_update ht with ⟨rfl, hnew⟩ | ⟨-, hinside⟩
    · obtain ⟨rfl, rfl⟩ := ThreadState.inside.inj hnew
      exact trivial
    · exact h.valid hinside
  · intro o hw
    obtain ⟨t, stage, hstage, hmay⟩ := h.writing hw
    exact ⟨t, stage, (Function.update_of_ne (hother hstage).1 _ _).trans hstage, hmay⟩

theorem Inv.work (h : Inv s) {effect : Option Event} {c : Scope}
    (hthread : s.thread thread = .inside object stage)
    (hwork : Work object (s.scope object) stage effect stage' c) :
    Inv { s with
      database := c.database
      writer := c.writer
      connected := Function.update s.connected object c.connected
      thread := Function.update s.thread thread (.inside object stage') } := by
  obtain ⟨hwriter, hdatabase⟩ := hwork.locks (h.valid hthread)
  constructor
  · intro t o st ht
    rcases inside_update ht with ⟨rfl, hnew⟩ | ⟨-, hinside⟩
    · obtain ⟨rfl, -⟩ := ThreadState.inside.inj hnew
      exact h.owned hthread
    · exact h.owned hinside
  · intro o t ho
    obtain ⟨st, hst⟩ := h.inside ho
    by_cases hsame : t = thread
    · subst hsame
      obtain ⟨rfl, -⟩ := ThreadState.inside.inj (hthread.symm.trans hst)
      exact ⟨stage', Function.update_self ..⟩
    · exact ⟨st, (Function.update_of_ne hsame _ _).trans hst⟩
  · intro t o st ht
    rcases inside_update ht with ⟨rfl, hnew⟩ | ⟨hne, hinside⟩
    · obtain ⟨rfl, rfl⟩ := ThreadState.inside.inj hnew
      have hscope : c =
        ⟨c.database, Function.update s.connected object c.connected object, c.writer⟩ := by
        rw [Function.update_self]
      show stage'.Valid object ⟨c.database, Function.update s.connected object c.connected object,
        c.writer⟩
      rw [← hscope]
      exact hwork.valid (h.valid hthread)
    · -- Another object: neither its connection nor, while it is writing, the file has changed.
      have hobject := h.ne_object hthread hinside hne
      apply (h.valid hinside).frame
      · exact Function.update_of_ne hobject _ _
      · intro hw
        have hw' : s.writer = some o := hw
        have hnot : s.writer ≠ some object := by
          rw [hw']
          exact fun heq => hobject (Option.some.inj heq)
        constructor
        · rcases hwriter with hsame | ⟨hnone, -⟩ | ⟨hmine, -⟩
          · exact hsame.trans hw'
          · exact absurd (hnone.symm.trans hw') (Option.some_ne_none o).symm
          · exact absurd hmine hnot
        · exact hdatabase.resolve_right hnot
  · intro o hw
    have hw' : c.writer = some o := hw
    by_cases hsame : o = object
    · subst hsame
      refine ⟨thread, stage', Function.update_self .., hwork.writing (fun hmine => ?_) hw'⟩
      obtain ⟨t, st, hst, hmay⟩ := h.writing hmine
      obtain rfl := h.exclusive hthread hst
      obtain ⟨-, rfl⟩ := ThreadState.inside.inj (hthread.symm.trans hst)
      exact hmay
    · have hkept : s.writer = some o := by
        rcases hwriter with heq | ⟨-, hmine⟩ | ⟨-, hnone⟩
        · exact heq.symm.trans hw'
        · exact absurd (Option.some.inj (hw'.symm.trans hmine)) hsame
        · exact absurd (hw'.symm.trans hnone) (Option.some_ne_none o)
      obtain ⟨t, st, hst, hmay⟩ := h.writing hkept
      have hne : t ≠ thread := by
        rintro rfl
        exact hsame (ThreadState.inside.inj (hst.symm.trans hthread)).1
      exact ⟨t, st, (Function.update_of_ne hne _ _).trans hst, hmay⟩

theorem Inv.release (h : Inv s) {response : Response}
    (hthread : s.thread thread = .inside object (.leaving response)) :
    Inv { s with
      owner := Function.update s.owner object none
      thread := Function.update s.thread thread .idle } := by
  have hkept : ∀ {t o st}, Function.update s.thread thread .idle t = .inside o st →
      s.thread t = .inside o st ∧ o ≠ object := by
    intro t o st ht
    rcases inside_update ht with ⟨-, hnone⟩ | ⟨hne, hinside⟩
    · cases hnone
    · exact ⟨hinside, h.ne_object hthread hinside hne⟩
  constructor
  · intro t o st ht
    obtain ⟨hinside, hne⟩ := hkept ht
    exact (Function.update_of_ne hne _ _).trans (h.owned hinside)
  · intro o t ho
    have hne : o ≠ object := by
      rintro rfl
      have hnone : none = some t := (Function.update_self o none s.owner).symm.trans ho
      cases hnone
    obtain ⟨st, hst⟩ := h.inside ((Function.update_of_ne hne _ _).symm.trans ho)
    have hother : t ≠ thread := by
      rintro rfl
      exact hne (ThreadState.inside.inj (hst.symm.trans hthread)).1
    exact ⟨st, (Function.update_of_ne hother _ _).trans hst⟩
  · exact fun ht => h.valid (hkept ht).1
  · intro o hw
    obtain ⟨t, st, hst, hmay⟩ := h.writing hw
    have hother : t ≠ thread := by
      rintro rfl
      obtain ⟨-, rfl⟩ := ThreadState.inside.inj (hst.symm.trans hthread)
      exact hmay
    exact ⟨t, st, (Function.update_of_ne hother _ _).trans hst, hmay⟩

theorem Inv.crash (h : Inv s) (object : Nat) :
    Inv { s with
      writer := if s.writer = some object then none else s.writer
      connected := Function.update s.connected object false
      owner := Function.update s.owner object none
      thread := fun thread =>
        if (s.thread thread).object = some object then .idle else s.thread thread } := by
  have hkept :
      ∀ {t o st}, (if (s.thread t).object = some object then .idle else s.thread t) = .inside o st →
      s.thread t = .inside o st ∧ o ≠ object := by
    intro t o st ht
    split at ht
    · cases ht
    · rename_i hobject
      rw [ht] at hobject
      exact ⟨ht, fun heq => hobject (congrArg some heq)⟩
  have hother : ∀ {t o st}, s.thread t = .inside o st → o ≠ object →
      (if (s.thread t).object = some object then .idle else s.thread t) = .inside o st := by
    intro t o st ht hne
    have hobject : (s.thread t).object ≠ some object := by
      rw [ht]
      exact fun heq => hne (Option.some.inj heq)
    rw [if_neg hobject, ht]
  constructor
  · intro t o st ht
    obtain ⟨hinside, hne⟩ := hkept ht
    exact (Function.update_of_ne hne _ _).trans (h.owned hinside)
  · intro o t ho
    have hne : o ≠ object := by
      rintro rfl
      have hnone : none = some t := (Function.update_self o none s.owner).symm.trans ho
      cases hnone
    obtain ⟨st, hst⟩ := h.inside ((Function.update_of_ne hne _ _).symm.trans ho)
    exact ⟨st, hother hst hne⟩
  · intro t o st ht
    obtain ⟨hinside, hne⟩ := hkept ht
    apply (h.valid hinside).frame
    · exact Function.update_of_ne hne _ _
    · intro hw
      have hw' : s.writer = some o := hw
      refine ⟨(if_neg ?_).trans hw', rfl⟩
      rw [hw']
      exact fun heq => hne (Option.some.inj heq)
  · intro o hw
    have hw' : (if s.writer = some object then none else s.writer) = some o := hw
    split at hw'
    · cases hw'
    · rename_i hnot
      obtain ⟨t, st, hst, hmay⟩ := h.writing hw'
      have hne : o ≠ object := fun heq => hnot (heq ▸ hw')
      exact ⟨t, st, hother hst hne, hmay⟩

theorem Inv.step {a : State.Act} (h : Inv s) (hstep : State.Step s a s') : Inv s' := by
  cases hstep with
  | invoke hthread object request => exact h.invoke hthread request
  | acquire hthread hfree => exact h.acquire hthread hfree
  | work hthread hwork => exact h.work hthread hwork
  | release hthread => exact h.release hthread
  | crash object => exact h.crash object

end Step

theorem inv_of_trace {s : State} {actions : List State.Act}
    (h : Trace State.Step State.fresh actions s) : Inv s :=
  Trace.invariant (I := fun _ s => Inv s) h inv_fresh fun _ _ _ _ _ hinv hstep => hinv.step hstep

/-! ### The refinement -/

/-- Where the thread is that is inside the lock of the object. -/
def State.holder (s : State) (object : Nat) : Option Stage :=
  (s.owner object).bind fun thread => (s.thread thread).stage

/-- The world in which the calls happen one after another. -/
def State.world (s : State) : World where
  database := s.database
  connections object :=
    match s.holder object with
    | some stage => stage.connection (s.connected object)
    | none => if s.connected object then some none else none

def ThreadState.phase : ThreadState → Phase (Nat × Request) Response
  | .idle => .idle
  | .acquiring object request => .invoked (object, request)
  | .inside object stage => stage.phase object

section Refinement

variable {s s' : State} {thread object : Nat} {stage : Stage}

theorem Inv.holder (h : Inv s) (hthread : s.thread thread = .inside object stage) :
    s.holder object = some stage := by
  rw [State.holder, h.owned hthread, Option.bind_some, hthread, ThreadState.stage]

theorem connections_of_holder (hholder : s.holder object = some stage) :
    s.world.connections object = stage.connection (s.connected object) := by
  simp only [State.world, hholder]

theorem connections_of_no_holder (hholder : s.holder object = none) :
    s.world.connections object = if s.connected object then some none else none := by
  simp only [State.world, hholder]

/-- The object is as before for the sequential calls when nothing about it has changed. -/
theorem connections_congr (howner : s'.owner object = s.owner object)
    (hconnected : s'.connected object = s.connected object)
    (hthread : ∀ t, s.owner object = some t → s'.thread t = s.thread t) :
    s'.world.connections object = s.world.connections object := by
  have hholder : s'.holder object = s.holder object := by
    rw [State.holder, State.holder, howner]
    cases hsome : s.owner object with
    | none => rfl
    | some t => exact congrArg ThreadState.stage (hthread t hsome)
  simp only [State.world, hholder, hconnected]

theorem world_ext (hdatabase : s'.database = s.database)
    (hconnections : ∀ o, s'.world.connections o = s.world.connections o) : s'.world = s.world := by
  show World.mk s'.database s'.world.connections = World.mk s.database s.world.connections
  rw [hdatabase, funext hconnections]

/-- A thread that another object's lock is owned by is not this one. -/
theorem Inv.ne_of_owner (h : Inv s) {t o : Nat}
    (hthread : (s.thread thread).stage = none ∨ (s.thread thread).object ≠ some o)
    (howner : s.owner o = some t) : t ≠ thread := by
  rintro rfl
  obtain ⟨stage, hstage⟩ := h.inside howner
  rw [hstage] at hthread
  rcases hthread with hnone | hobject
  · cases hnone
  · exact hobject rfl

theorem Inv.world_invoke (h : Inv s) (hthread : s.thread thread = .idle) (request : Request) :
    ({ s with thread := Function.update s.thread thread (.acquiring object request) } :
      State).world = s.world := by
  apply world_ext
  · rfl
  · intro o
    apply connections_congr
    · rfl
    · rfl
    · intro t howner
      apply Function.update_of_ne
      exact h.ne_of_owner (.inl (congrArg ThreadState.stage hthread)) howner

theorem Inv.world_acquire (h : Inv s) {request : Request}
    (hthread : s.thread thread = .acquiring object request) (hfree : s.owner object = none) :
    ({ s with
      owner := Function.update s.owner object (some thread)
      thread := Function.update s.thread thread (.inside object (.entered request)) } :
        State).world = s.world := by
  apply world_ext
  · rfl
  · intro o
    by_cases hsame : o = object
    · subst hsame
      have hnone : s.holder o = none := by
        rw [State.holder, hfree, Option.bind_none]
      rw [connections_of_no_holder hnone]
      apply @connections_of_holder _ _ (.entered request)
      simp [State.holder, ThreadState.stage]
    · apply connections_congr
      · exact Function.update_of_ne hsame _ _
      · rfl
      · intro t howner
        apply Function.update_of_ne
        exact h.ne_of_owner (.inl (congrArg ThreadState.stage hthread)) howner

theorem Inv.world_release (h : Inv s) {response : Response}
    (hthread : s.thread thread = .inside object (.leaving response)) :
    ({ s with
      owner := Function.update s.owner object none
      thread := Function.update s.thread thread .idle } : State).world = s.world := by
  apply world_ext
  · rfl
  · intro o
    by_cases hsame : o = object
    · subst hsame
      rw [connections_of_holder (h.holder hthread)]
      apply connections_of_no_holder
      simp [State.holder]
    · apply connections_congr
      · exact Function.update_of_ne hsame _ _
      · rfl
      · intro t howner
        apply Function.update_of_ne
        refine h.ne_of_owner (.inr ?_) howner
        rw [hthread]
        exact fun heq => hsame (Option.some.inj heq).symm

theorem Inv.world_work (h : Inv s) {effect : Option Event} {stage' : Stage} {c : Scope}
    (hthread : s.thread thread = .inside object stage)
    (hwork : Work object (s.scope object) stage effect stage' c) :
    ({ s with
      database := c.database
      writer := c.writer
      connected := Function.update s.connected object c.connected
      thread := Function.update s.thread thread (.inside object stage') } : State).world =
      ⟨c.database, Function.update s.world.connections object (stage'.connection c.connected)⟩ := by
  show World.mk c.database _ = _
  congr 1
  funext o
  by_cases hsame : o = object
  · subst hsame
    rw [Function.update_self]
    refine (@connections_of_holder _ _ stage' ?_).trans ?_
    · simp [State.holder, h.owned hthread, ThreadState.stage]
    · exact congrArg stage'.connection (Function.update_self ..)
  · rw [Function.update_of_ne hsame]
    apply connections_congr
    · rfl
    · exact Function.update_of_ne hsame _ _
    · intro t howner
      apply Function.update_of_ne
      refine h.ne_of_owner (.inr ?_) howner
      rw [hthread]
      exact fun heq => hsame (Option.some.inj heq).symm

theorem Inv.world_crash (h : Inv s) (object : Nat) :
    ({ s with
      writer := if s.writer = some object then none else s.writer
      connected := Function.update s.connected object false
      owner := Function.update s.owner object none
      thread := fun thread =>
        if (s.thread thread).object = some object then .idle else s.thread thread } : State).world =
      ⟨s.database, Function.update s.world.connections object none⟩ := by
  show World.mk s.database _ = _
  congr 1
  funext o
  by_cases hsame : o = object
  · subst hsame
    rw [Function.update_self]
    refine (connections_of_no_holder ?_).trans ?_
    · simp [State.holder]
    · simp
  · rw [Function.update_of_ne hsame]
    apply connections_congr
    · exact Function.update_of_ne hsame _ _
    · exact Function.update_of_ne hsame _ _
    · intro t howner
      obtain ⟨stage, hstage⟩ := h.inside howner
      apply if_neg
      rw [hstage]
      exact fun heq => hsame (Option.some.inj heq)

/-- A step with an effect is that call, and any other step is none. -/
theorem Inv.refines {a : State.Act} (h : Inv s) (hstep : State.Step s a s') :
    match a.event with
    | none => s'.world = s.world
    | some event => World.Step s.world event s'.world := by
  cases hstep with
  | invoke hthread object request => exact h.world_invoke hthread request
  | acquire hthread hfree => exact h.world_acquire hthread hfree
  | release hthread => exact h.world_release hthread
  | crash object =>
      show s.world.call object .close = (.returned, _)
      rw [h.world_crash, World.call, World.run_eq rfl rfl]
      rfl
  | @work thread object stage stage' effect c hthread hwork =>
      have hconnection := connections_of_holder (h.holder hthread)
      have hworld := h.world_work hthread hwork
      cases effect with
      | none =>
          obtain ⟨hdatabase, hkept⟩ := hwork.silent
          refine hworld.trans ?_
          rw [hkept, hdatabase]
          show World.mk s.database
            (Function.update s.world.connections object (stage.connection (s.connected object))) = _
          rw [← hconnection, Function.update_eq_self]
          rfl
      | some event =>
          obtain ⟨hobject, hcall⟩ :=
            hwork.effective (h.valid hthread) (w := s.world) rfl hconnection
          show s.world.call event.object event.call = (event.response, _)
          rw [hobject, hcall, hworld]

theorem State.Step.phase {a : State.Act} (hstep : State.Step s a s') (thread : Nat) :
    Phase.Step (fun e : Event => (e.object, e.call.request)) Event.response thread
      (s.thread thread).phase a (s'.thread thread).phase := by
  have hother : ∀ {thread' : Nat} {x : ThreadState}, a.thread = some thread' →
      (thread' = thread →
        Phase.Step (fun e : Event => (e.object, e.call.request)) Event.response thread
        (s.thread thread).phase a x.phase) →
      Phase.Step (fun e : Event => (e.object, e.call.request)) Event.response thread
        (s.thread thread).phase a (Function.update s.thread thread' x thread).phase := by
    intro thread' x haction hown
    by_cases hsame : thread' = thread
    · subst hsame
      rw [Function.update_self]
      exact hown rfl
    · rw [Function.update_of_ne (Ne.symm hsame)]
      exact .other _ haction hsame
  cases hstep with
  | invoke hthread object request =>
      apply hother rfl
      rintro rfl
      rw [hthread]
      exact .invoke _
  | acquire hthread hfree =>
      apply hother rfl
      rintro rfl
      rw [hthread]
      exact .work _
  | release hthread =>
      apply hother rfl
      rintro rfl
      rw [hthread]
      exact .answer _
  | @work thread' object stage stage' effect c hthread hwork =>
      cases effect with
      | none =>
          apply hother rfl
          rintro rfl
          rw [hthread, ThreadState.phase, ThreadState.phase, hwork.phase_of_silent]
          exact .work _
      | some event =>
          apply hother rfl
          rintro rfl
          obtain ⟨hbefore, hafter⟩ := hwork.phase_of_event
          rw [hthread, ThreadState.phase, ThreadState.phase, hbefore, hafter]
          exact .effect event
  | crash object =>
      by_cases hmem : (s.thread thread).object = some object
      · show Phase.Step _ _ thread _ _
          (if (s.thread thread).object = some object then ThreadState.idle else _).phase
        rw [if_pos hmem]
        exact .stopped _ _ hmem
      · show Phase.Step _ _ thread _ _
          (if (s.thread thread).object = some object then ThreadState.idle else _).phase
        rw [if_neg hmem]
        exact .spared _ _ hmem

end Refinement

variable {s : State} {actions : List State.Act}

theorem world_of_trace (h : Trace State.Step State.fresh actions s) :
    Trace World.Step World.fresh (effects actions) s.world := by
  have hfresh : Inv State.fresh ∧ World.fresh = State.fresh.world := ⟨inv_fresh, rfl⟩
  have hsimulates : ∃ w, Trace World.Step World.fresh (effects actions) w ∧ Inv s ∧
      w = s.world := by
    apply @Trace.simulate_filterMap _ _ _ _ State.Step World.Step Action.event
      (fun s w => Inv s ∧ w = s.world) _ _ _ _ h hfresh
    intro s a s' w ⟨hinv, hworld⟩ hstep
    subst hworld
    have hrefines := hinv.refines hstep
    cases hevent : a.event with
    | none =>
        rw [hevent] at hrefines
        exact ⟨hinv.step hstep, hrefines.symm⟩
    | some event =>
        rw [hevent] at hrefines
        exact ⟨s'.world, hrefines, hinv.step hstep, rfl⟩
  obtain ⟨w, htrace, -, hworld⟩ := hsimulates
  exact hworld ▸ htrace

theorem phase_of_trace (h : Trace State.Step State.fresh actions s) (thread : Nat) :
    Trace (Phase.Step (fun e : Event => (e.object, e.call.request)) Event.response thread) .idle
      actions (s.thread thread).phase :=
  @phases_of_trace _ _ _ _ _ _ _ _ (fun s thread => (s.thread thread).phase) _ _ _ h thread rfl
    fun _ _ _ hstep => hstep.phase thread

/-- **The repository is linearizable.** However the steps of any threads on any objects come, and
wherever processes die: what has taken effect, in this order, is a run of the calls one after
another, from which the file is what it is, and so a run of the map; every thread makes its call,
has it take effect once, and is answered with the response it then had, unless its process dies
before; nobody takes an id that is taken; and at most one thread at a time is inside the lock of an
object. -/
theorem repository_linearizable (h : Trace State.Step State.fresh actions s) :
    Trace World.Step World.fresh (effects actions) s.world ∧
      (∃ m, Trace CatalogMap.Step CatalogMap.empty (effects actions) m ∧ Represents s.world m) ∧
      (∀ thread, Trace (Phase.Step (fun e : Event => (e.object, e.call.request)) Event.response
        thread) .idle actions (s.thread thread).phase) ∧
      ((addedBy (effects actions)).map Dataset.id).Nodup ∧
      ∀ thread thread' object stage stage', s.thread thread = .inside object stage →
        s.thread thread' = .inside object stage' → thread' = thread := by
  have htrace := world_of_trace h
  obtain ⟨m, hmap, hrep⟩ := World.refines htrace
  refine ⟨htrace, ⟨m, hmap, hrep⟩, phase_of_trace h, (CatalogMap.reflects hmap).added_nodup, ?_⟩
  intro thread thread' object stage stage' hthread hthread'
  exact (inv_of_trace h).exclusive hthread hthread'

def sampleRow : Row where
  id := "00000000-0000-0000-0000-000000000007"
  providerId := "local"
  reference := "unusual/../opaque reference.csv"
  name := "sales"
  sourceType := "csv"
  assetUri := "file:///descriptive/sales.csv"
  sizeBytes := 24
  createdAt := "2026-08-11T05:30:00+00:00"
  status := "registered"
  sha256 := none

/-- What `sampleDataset` is read back as. -/
def sampleStored : Dataset :=
  { sampleDataset with
    createdAt :=
      { sampleDataset.createdAt with
        hour := 5
        minute := 30
        utcoffset := some 0
        validTime := by decide
        validOffset := Datetime.validOffset_utc } }

/-- A thread opens the catalog. -/
def sampleOpening : List State.Act :=
  [.invoke 0 (0, .initializing), .work 0, .work 0, .work 0, .work 0,
    .effect 0 ⟨0, .initializing {}, .returned⟩, .work 0, .answer 0 .returned]

/-- It adds a dataset, while another waits to list. -/
def sampleAdding : List State.Act :=
  [.invoke 0 (0, .add sampleDataset), .work 0, .invoke 1 (0, .list), .work 0, .work 0,
    .effect 0 ⟨0, .add {} sampleDataset, .returned⟩, .answer 0 .returned]

/-- A third looks it up. -/
def sampleLookup : List State.Act :=
  [.invoke 2 (0, .get sampleDataset.id), .work 2,
    .effect 2 ⟨0, .get sampleDataset.id, .dataset (some sampleStored)⟩,
      .answer 2 (.dataset (some sampleStored))]

theorem exists_sampleAdding : ∃ s, Trace State.Step State.fresh (sampleOpening ++ sampleAdding) s ∧
    s.scope 0 = ⟨⟨some [sampleRow], some [1]⟩, true, none⟩ ∧ s.owner 0 = none ∧ s.thread 2 = .idle ∧
      s.thread 1 = .acquiring 0 .list := by
  have hupgrade : exec (upgrade MIGRATIONS {}) State.fresh.database =
      (.ok (), ⟨some [], some [1]⟩) := by decide +kernel
  have hrow : toRow sampleDataset = .ok sampleRow := by decide +kernel
  have hinsert : exec (insertRow none sampleRow) ⟨some [], some [1]⟩ =
      (.ok (), ⟨some [sampleRow], some [1]⟩) := by
    decide +kernel
  refine ⟨_,
    .cons (@State.Step.invoke _ 0 rfl 0 .initializing) <|
    .cons (@State.Step.acquire _ 0 0 _ rfl rfl) <|
    .cons (.work rfl (.setUp rfl)) <|
    .cons (.work rfl (.beginImmediate rfl)) <|
    .cons (.work rfl (.upgrade rfl rfl hupgrade)) <|
    .cons (.work rfl .commitUpgrade) <|
    .cons (.work rfl .assign) <|
    .cons (.release rfl) <|
    .cons (@State.Step.invoke _ 0 rfl 0 (.add sampleDataset)) <|
    .cons (@State.Step.acquire _ 0 0 _ rfl rfl) <|
    .cons (@State.Step.invoke _ 1 rfl 0 .list) <|
    .cons (.work rfl (.serialize rfl hrow)) <|
    .cons (.work rfl (.insert rfl hinsert)) <|
    .cons (.work rfl .commitAdd) <|
    .single (.release rfl), ?_⟩
  exact ⟨rfl, rfl, rfl, rfl⟩

/-- A thread comes in when nobody is inside. -/
theorem exists_entered {s : State} {thread object : Nat} (hidle : s.thread thread = .idle)
    (hfree : s.owner object = none) (request : Request) :
    ∃ s', Trace State.Step s [.invoke thread (object, request), .work thread] s' ∧
      s'.scope object = s.scope object ∧
      s'.thread thread = .inside object (.entered request) ∧ ∀ t, t ≠ thread →
      s'.thread t = s.thread t := by
  have hinvoke := State.Step.invoke hidle object request
  refine ⟨_, .cons hinvoke (.single (.acquire (Function.update_self thread _ _) ?_)), ?_, ?_, ?_⟩
  · exact hfree
  · rfl
  · exact Function.update_self ..
  · intro t hne
    simp [hne]

theorem exists_sampleRun :
    ∃ s,
      Trace State.Step State.fresh (sampleOpening ++ sampleAdding ++ [] ++ sampleLookup ++ []) s ∧
      s.thread 1 = .acquiring 0 .list := by
  obtain ⟨s₀, hrun, hscope, hfree, hidle, hwaiting⟩ := exists_sampleAdding
  obtain ⟨s, hentered, hsame, hinside, hothers⟩ :=
    exists_entered hidle hfree (.get sampleDataset.id)
  have hanswer : (s.scope 0).answer (SQLiteDatasetRepository.get sampleDataset.id) .dataset =
      .dataset (some sampleStored) := by
    rw [hsame, hscope]
    decide +kernel
  have hget : Work 0 (s.scope 0) (.entered (.get sampleDataset.id))
      (some ⟨0, .get sampleDataset.id, .dataset (some sampleStored)⟩)
        (.leaving (.dataset (some sampleStored)))
      (s.scope 0) := by
    rw [← hanswer]
    exact .get _ (congrArg Scope.connected (hsame.trans hscope))
  rw [List.append_nil, List.append_nil]
  have hread := State.Step.work hinside hget
  refine ⟨_, hrun.append (hentered.append (.cons hread (.single (.release rfl)))), ?_⟩
  simp [hothers, hwaiting]

theorem repository_linearizable_sample :
    ∃ m s,
      Trace State.Step State.fresh (sampleOpening ++ sampleAdding ++ [] ++ sampleLookup ++ []) s ∧
      Trace CatalogMap.Step CatalogMap.empty
        (effects (sampleOpening ++ sampleAdding ++ [] ++ sampleLookup ++ [])) m ∧
      Represents s.world m := by
  obtain ⟨s, hrun, -⟩ := exists_sampleRun
  obtain ⟨-, ⟨m, hmap, hrep⟩, -⟩ := repository_linearizable hrun
  exact ⟨m, s, hrun, hmap, hrep⟩

/-! ### What one call shows to the next -/

/-- What is stored is determined by what was added. -/
theorem SQLiteDatasetRepository.StoredAs.unique {dataset stored stored' : Dataset}
    (h : StoredAs dataset stored) (h' : StoredAs dataset stored') : stored = stored' := by
  have hcreatedAt : stored.createdAt = stored'.createdAt := by
    apply Datetime.eq_of_instant h.utc h'.utc
    rw [h.instant, h'.instant]
  rw [h.fields, h'.fields, hcreatedAt]

/-- A call with this response shows that the catalog has the dataset. -/
inductive Shows : Request → Response → Dataset → Prop
  | added {dataset stored : Dataset} (hstored : StoredAs dataset stored) :
      Shows (.add dataset) .returned stored
  | got (datasetId : UUID) (stored : Dataset) :
      Shows (.get datasetId) (.dataset (some stored)) stored
  | listed {listed : List Dataset} {stored : Dataset} (hmem : stored ∈ listed) :
      Shows .list (.datasets listed) stored

section Map

variable {m m' : CatalogMap} {e : Event} {events : List Event} {stored : Dataset}

theorem Reflects.id_eq (h : Reflects events m) {datasetId : UUID}
    (hlookup : m.entries.lookup datasetId = some stored) :
    stored.id = datasetId := by
  obtain ⟨all, -, hlists⟩ := h.entries
  exact ((hlists.lookup_iff _ _).mp hlookup).2

/-- What a call shows is an entry after it. -/
theorem CatalogMap.Step.lookup_of_shows (h : Reflects events m) (hstep : CatalogMap.Step m e m')
    (hshows : Shows e.call.request e.response stored) :
    m'.entries.lookup stored.id = some stored := by
  cases hstep with
  | initialized | initializeRaised | closed | refused => cases hshows
  | @unavailable object call _ _ =>
      change Shows call.request (.raised notInitialized) stored at hshows
      generalize call.request = request at hshows
      cases hshows
  | @added object faults dataset stored' _ _ hstored' =>
      cases hshows with
      | added hstored =>
          have hid : stored.id = dataset.id := by rw [hstored.fields]
          rw [hid, Finmap.lookup_insert, hstored.unique hstored']
  | got datasetId =>
      generalize hlookup : m.entries.lookup datasetId = found at hshows
      cases hshows with
      | got => rw [h.id_eq hlookup, hlookup]
  | listed _ hlists =>
      cases hshows with
      | listed hmem => exact (hlists.lookup_iff _ _).mpr ⟨hmem, rfl⟩

theorem CatalogMap.Step.lookup_kept {datasetId : UUID} (hstep : CatalogMap.Step m e m')
    (hlookup : m.entries.lookup datasetId = some stored) :
    m'.entries.lookup datasetId = some stored := by
  cases hstep with
  | @added object faults dataset _ _ hnew _ =>
      have hne : datasetId ≠ dataset.id := by
        rintro rfl
        rw [Finmap.lookup_eq_none.mpr hnew] at hlookup
        cases hlookup
      exact (Finmap.lookup_insert_of_ne _ hne).trans hlookup
  | _ => exact hlookup

theorem CatalogMap.lookup_kept {datasetId : UUID} (h : Trace CatalogMap.Step m events m')
    (hlookup : m.entries.lookup datasetId = some stored) :
    m'.entries.lookup datasetId = some stored :=
  h.invariant (I := fun _ m => m.entries.lookup datasetId = some stored) hlookup
    fun _ _ _ _ _ ih hstep => hstep.lookup_kept ih

/-- A response that an entry of the map leaves open: it is found and listed, unless the object is
not initialized, and its id cannot be taken again. -/
structure Current (request : Request) (response : Response) (stored : Dataset) : Prop where
  get : request = .get stored.id → response = .dataset (some stored) ∨
    response = .raised notInitialized
  list : request = .list → (∃ listed, response = .datasets listed) ∨
    response = .raised notInitialized
  listed : ∀ listed, response = .datasets listed → stored ∈ listed
  add : ∀ dataset, request = .add dataset → dataset.id = stored.id → response ≠ .returned

theorem CatalogMap.Step.current (hstep : CatalogMap.Step m e m')
    (hlookup : m.entries.lookup stored.id = some stored) :
    Current e.call.request e.response stored := by
  cases hstep with
  | initialized | closed | initializeRaised | refused =>
      constructor
      · exact fun hrequest => nomatch hrequest
      · exact fun hrequest => nomatch hrequest
      · exact fun _ hresponse => nomatch hresponse
      · exact fun _ hrequest _ hresponse => nomatch hrequest, hresponse
  | unavailable =>
      constructor
      · exact fun _ => .inr rfl
      · exact fun _ => .inr rfl
      · exact fun _ hresponse => nomatch hresponse
      · exact fun _ _ _ hresponse => nomatch hresponse
  | @added object faults dataset _ _ hnew _ =>
      constructor
      · exact fun hrequest => nomatch hrequest
      · exact fun hrequest => nomatch hrequest
      · exact fun _ hresponse => nomatch hresponse
      · rintro _ ⟨⟩ hid
        rw [← hid, Finmap.lookup_eq_none.mpr hnew] at hlookup
        cases hlookup
  | got datasetId =>
      constructor
      · rintro hrequest
        obtain rfl := Request.get.inj hrequest
        exact .inl (congrArg Response.dataset hlookup)
      · exact fun hrequest => nomatch hrequest
      · exact fun _ hresponse => nomatch hresponse
      · exact fun _ hrequest => nomatch hrequest
  | listed _ hlists =>
      constructor
      · exact fun hrequest => nomatch hrequest
      · exact fun _ => .inl ⟨_, rfl⟩
      · rintro listed hresponse
        obtain rfl := Response.datasets.inj hresponse
        exact ((hlists.lookup_iff _ _).mp hlookup).1
      · exact fun _ hrequest => nomatch hrequest

end Map

variable {before call between call' after : List State.Act} {thread thread' object object' : Nat}
  {request request' : Request} {x x' : Response} {stored : Dataset}

/-- **What one call has shown, every later call shows.** If a call is answered and its response
shows a dataset, as an `add` does that returns and a `get` or `list` that contains it, then every
call that is invoked after that answer, by any thread on any object, shows the same dataset: `get`
of its id finds exactly it and `list` contains it, or they raise because the object is not
initialized; and `add` of its id does not return. -/
theorem shown_stays
    (h : Trace State.Step State.fresh (before ++ call ++ between ++ call' ++ after) s)
    (hcall : IsCall thread (object, request) x call) (hshows : Shows request x stored)
    (hcall' : IsCall thread' (object', request') x' call') : Current request' x' stored := by
  obtain ⟨m, hmap, -⟩ := World.refines (world_of_trace h)
  obtain ⟨first, event, middle, event', last, heffects, hevent, hx, hevent', hx'⟩ :=
    exists_effects_of_isCall (fun thread => ⟨_, phase_of_trace h thread⟩) hcall hcall'
  rw [heffects, List.append_assoc] at hmap
  obtain ⟨m₁, hfirst, hmap⟩ := hmap.split
  obtain ⟨m₂, hstep, hmap⟩ := Trace.of_cons (List.cons_append .. ▸ hmap)
  obtain ⟨m₃, hmiddle, hmap⟩ := hmap.split
  obtain ⟨m₄, hstep', -⟩ := hmap.of_cons
  obtain ⟨-, rfl⟩ := Prod.mk.inj hevent
  obtain ⟨-, rfl⟩ := Prod.mk.inj hevent'
  subst hx
  subst hx'
  have hlookup := hstep.lookup_of_shows (CatalogMap.reflects hfirst) hshows
  exact hstep'.current (CatalogMap.lookup_kept hmiddle hlookup)

theorem sampleDataset_storedAs : StoredAs sampleDataset sampleStored :=
  ⟨rfl, rfl, by decide +kernel⟩

theorem isCall_sampleAdding : IsCall 0 (0, .add sampleDataset) .returned sampleAdding := by
  refine ⟨[.work 0, .invoke 1 (0, .list), .work 0, .work 0,
    .effect 0 ⟨0, .add {} sampleDataset, .returned⟩], rfl, ?_⟩
  simp

theorem isCall_sampleLookup :
    IsCall 2 (0, .get sampleDataset.id) (.dataset (some sampleStored)) sampleLookup := by
  refine ⟨[.work 2, .effect 2 ⟨0, .get sampleDataset.id, .dataset (some sampleStored)⟩], rfl, ?_⟩
  simp

theorem shown_stays_sample :
    Current (.get sampleDataset.id) (.dataset (some sampleStored)) sampleStored := by
  obtain ⟨s, hrun, -⟩ := exists_sampleRun
  exact shown_stays hrun isCall_sampleAdding (.added sampleDataset_storedAs) isCall_sampleLookup

/-- The end of a process takes effect as a `close`. -/
theorem stop_is_close (h : Trace State.Step State.fresh actions s) {threads : Set Nat}
    {event : Event} (hmem : .stop threads event ∈ actions) : event.call = .close := by
  revert hmem
  apply h.invariant (I := fun actions _ =>
    Action.stop threads event ∈ actions → event.call = .close)
  · exact fun hnone => nomatch hnone
  · intro actions s a s' _ ih hstep hmem
    rcases List.mem_append.mp hmem with hold | hlast
    · exact ih hold
    · obtain rfl := List.mem_singleton.mp hlast
      generalize hstop : Action.stop threads event = a at hstep
      cases hstep with
      | invoke | acquire | release => cases hstop
      | @work _ _ _ _ effect => cases effect <;> cases hstop
      | crash object =>
          obtain ⟨-, rfl⟩ := Action.stop.inj hstop
          rfl

theorem exists_invoke_of_added (h : Trace State.Step State.fresh actions s) {dataset : Dataset}
    (hadded : dataset ∈ addedBy (effects actions)) :
    ∃ thread object, .invoke thread (object, .add dataset) ∈ actions := by
  obtain ⟨⟨object, call, response⟩, hevent, hcall⟩ := List.mem_filterMap.mp hadded
  obtain ⟨action, haction, hsome⟩ := List.mem_filterMap.mp hevent
  have hadd : ∃ faults, call = .add faults dataset := by
    cases call with
    | add faults dataset' =>
        cases response with
        | returned =>
            obtain rfl := Option.some.inj hcall
            exact ⟨faults, rfl⟩
        | dataset | datasets | raised => cases hcall
    | initializing | close | get | list => cases hcall
  obtain ⟨faults, rfl⟩ := hadd
  cases action with
  | invoke | work | answer => cases hsome
  | stop threads event =>
      obtain rfl := Option.some.inj hsome
      exact nomatch stop_is_close h haction
  | effect thread event =>
      obtain rfl := Option.some.inj hsome
      obtain ⟨before, after, rfl⟩ := List.append_of_mem haction
      exact ⟨thread, object,
        List.mem_append_left _ (invoke_mem_of_effect (phase_of_trace h thread))⟩

/-- **What a call shows, somebody has asked to add.** The dataset of any answered `get` or `list`
is, up to the time zone of its timestamp, the argument of an `add` that was invoked before this
answer. -/
theorem shown_was_added (h : Trace State.Step State.fresh (before ++ call ++ after) s)
    (hcall : IsCall thread (object, request) x call) (hshows : Shows request x stored) :
    ∃ thread' object' dataset, .invoke thread' (object', .add dataset) ∈ before ++ call ∧
      StoredAs dataset stored := by
  obtain ⟨s', hprefix, -⟩ := h.split
  have hphase := phase_of_trace hprefix thread
  obtain ⟨p, -, hsegment⟩ := hphase.split
  obtain ⟨event, hevent, hrequest, hresponse⟩ := exists_effect_of_isCall hsegment hcall
  obtain ⟨first, last, heffects⟩ := List.append_of_mem hevent
  obtain ⟨m, hmap, -⟩ := World.refines (world_of_trace hprefix)
  rw [effects_append, heffects, ← List.append_assoc] at hmap
  obtain ⟨m₁, hfirst, hmap⟩ := hmap.split
  obtain ⟨m₂, hstep, -⟩ := hmap.of_cons
  obtain ⟨-, rfl⟩ := Prod.mk.inj hrequest
  subst hresponse
  have hlookup := hstep.lookup_of_shows (CatalogMap.reflects hfirst) hshows
  obtain ⟨dataset, hadded, -, hstored⟩ := (CatalogMap.reflects (hfirst.snoc hstep)).lookup hlookup
  have hmem : dataset ∈ addedBy (effects (before ++ call)) := by
    rw [effects_append, heffects, ← List.append_assoc, ← List.singleton_append, ← List.append_assoc,
      addedBy, List.filterMap_append]
    exact List.mem_append_left _ hadded
  obtain ⟨thread', object', hinvoke⟩ := exists_invoke_of_added hprefix hmem
  exact ⟨thread', object', dataset, hinvoke, hstored⟩

theorem shown_was_added_sample :
    ∃ thread object dataset,
      .invoke thread (object, .add dataset) ∈ sampleOpening ++ sampleAdding ++ [] ++ sampleLookup ∧
      StoredAs dataset sampleStored := by
  obtain ⟨s, hrun, -⟩ := exists_sampleRun
  exact shown_was_added hrun isCall_sampleLookup (.got _ _)

/-! ### Nobody waits for ever -/

theorem State.thread_performing (thread : Nat) (event : Option Event) :
    (State.performing thread event).thread = some thread := by
  cases event <;> rfl

/-- A thread inside a lock can answer by its own steps alone, and gives the lock back. -/
theorem exists_finish {stage : Stage} (hthread : s.thread thread = .inside object stage) :
    ∃ (steps : List (Option Event)) (response : Response) (s' : State),
      Trace State.Step s (steps.map (State.performing thread) ++ [.answer thread response]) s' ∧
      steps.length ≤ stage.remaining ∧ s'.owner object = none ∧ s'.thread thread = .idle ∧
      ∀ t, t ≠ thread → s'.thread t = s.thread t := by
  induction hn : stage.remaining using Nat.strong_induction_on generalizing s stage with
  | _ n ih =>
      rcases exists_work object (s.scope object) stage with
        ⟨response, rfl⟩ | ⟨effect, stage', c, hwork⟩
      · refine ⟨[], response, _, .single (.release hthread), Nat.zero_le _, ?_, ?_, ?_⟩
        · exact Function.update_self ..
        · exact Function.update_self ..
        · exact fun t hne => Function.update_of_ne hne _ _
      · obtain ⟨s₁, hstep, hnext, hkept⟩ : ∃ s₁, State.Step s (State.performing thread effect) s₁ ∧
            s₁.thread thread = .inside object stage' ∧ ∀ t, t ≠ thread → s₁.thread t = s.thread t :=
          ⟨_, .work hthread hwork, Function.update_self .., fun t hne =>
            Function.update_of_ne hne _ _⟩
        have hless := hwork.remaining_lt
        obtain ⟨steps, response, s', htrace, hlength, hfree, hidle, hothers⟩ :=
          ih stage'.remaining (by omega) hnext rfl
        refine ⟨effect :: steps, response, s', htrace.cons hstep, ?_, hfree, hidle, ?_⟩
        · rw [List.length_cons]
          omega
        · exact fun t hne => (hothers t hne).trans (hkept t hne)

theorem remaining_le (stage : Stage) : stage.remaining ≤ 5 := by
  cases stage <;> simp [Stage.remaining]

/-- Once the lock is free, a thread that waits for it takes it and goes on alone. -/
theorem exists_finish_of_free {request : Request}
    (hthread : s.thread thread = .acquiring object request) (hfree : s.owner object = none) :
    ∃ (steps : List (Option Event)) (response : Response) (s' : State),
      Trace State.Step s (steps.map (State.performing thread) ++ [.answer thread response]) s' ∧
      steps.length ≤ 6 ∧ s'.thread thread = .idle := by
  obtain ⟨steps, response, s', htrace, hlength, -, hidle, -⟩ :=
    @exists_finish { s with
      owner := Function.update s.owner object (some thread)
      thread := Function.update s.thread thread (.inside object (.entered request)) } _ _ _
        (Function.update_self ..)
  have hremaining : (Stage.entered request).remaining = 5 := rfl
  refine ⟨none :: steps, response, s', htrace.cons (.acquire hthread hfree), ?_, hidle⟩
  rw [List.length_cons]
  omega

theorem own_of_performing {steps : List (Option Event)} {a : State.Act}
    (ha : a ∈ steps.map (State.performing thread)) :
    a.thread = some thread := by
  obtain ⟨event, -, rfl⟩ := List.mem_map.mp ha
  exact State.thread_performing thread event

/-- What a thread does inside a lock, while it is not answered and its process lives. -/
theorem own_steps_le {stage : Stage} (hthread : s.thread thread = .inside object stage)
    {later : List State.Act} {s' : State} (hlater : Trace State.Step s later s')
    (hunanswered : ∀ response, .answer thread response ∉ later)
    (halive : ∀ threads event, .stop threads event ∈ later → thread ∉ threads) :
    ∃ stage', s'.thread thread = .inside object stage' ∧
      later.countP (fun a => a.thread = some thread) + stage'.remaining ≤ stage.remaining := by
  revert hunanswered halive
  apply hlater.invariant (I := fun later s' => (∀ response, .answer thread response ∉ later) →
    (∀ threads event, .stop threads event ∈ later → thread ∉ threads) →
    ∃ stage', s'.thread thread = .inside object stage' ∧
      later.countP (fun a => a.thread = some thread) + stage'.remaining ≤ stage.remaining)
  · exact fun _ _ => ⟨stage, hthread, by simp⟩
  intro later s₁ a s₂ _ ih hstep hunanswered halive
  obtain ⟨stage₁, hinside, hcount⟩ :=
    ih (fun response hmem => hunanswered response (List.mem_append_left _ hmem))
    fun threads event hmem => halive threads event (List.mem_append_left _ hmem)
  rw [List.countP_append, List.countP_singleton]
  have hlast : ∀ b, a = b → b ∈ later ++ [a] :=
    fun b hb => List.mem_append_right _ (List.mem_singleton.mpr hb.symm)
  -- Steps of other threads leave it where it is.
  have hother : ∀ {t : Nat} {y : ThreadState}, t ≠ thread →
      Function.update s₁.thread t y thread = .inside object stage₁ :=
    fun hne => (Function.update_of_ne (Ne.symm hne) _ _).trans hinside
  have hnone : ∀ {t : Nat}, t ≠ thread →
      (if decide (some t = some thread) = true then 1 else 0) = 0 := by
    intro t hne
    simp [hne]
  cases hstep with
  | @invoke t ht =>
      have hne : t ≠ thread := by
        rintro rfl
        rw [hinside] at ht
        cases ht
      refine ⟨stage₁, hother hne, ?_⟩
      rw [Action.thread, hnone hne]
      omega
  | @acquire t _ _ ht =>
      have hne : t ≠ thread := by
        rintro rfl
        rw [hinside] at ht
        cases ht
      refine ⟨stage₁, hother hne, ?_⟩
      rw [Action.thread, hnone hne]
      omega
  | @release t _ response ht =>
      have hne : t ≠ thread := by
        rintro rfl
        exact hunanswered response (hlast _ rfl)
      refine ⟨stage₁, hother hne, ?_⟩
      rw [Action.thread, hnone hne]
      omega
  | @work t o st st' effect c ht hwork =>
      rw [State.thread_performing]
      by_cases hsame : t = thread
      · subst hsame
        obtain ⟨rfl, rfl⟩ := ThreadState.inside.inj (hinside.symm.trans ht)
        refine ⟨st', Function.update_self .., ?_⟩
        have hless := hwork.remaining_lt
        simp only [decide_true, if_true]
        omega
      · refine ⟨stage₁, hother hsame, ?_⟩
        rw [hnone hsame]
        omega
  | crash object' =>
      have hnot := halive _ _ (hlast _ rfl)
      refine ⟨stage₁, (if_neg hnot).trans hinside, ?_⟩
      rw [Action.thread]
      simpa using hcount

/-- **No call waits for ever.** From every state that can be reached: a thread whose call is
underway can be brought to its answer in at most thirteen steps, all of them its own or those of the
one thread that is inside the lock it waits for; and in whatever order the threads go on, a thread
inside a lock has at most five steps to make until it answers. -/
theorem calls_are_answered (h : Trace State.Step State.fresh actions s) :
    (∀ thread, s.thread thread ≠ .idle → ∃ later response s' other,
      Trace State.Step s (later ++ [.answer thread response]) s' ∧ later.length ≤ 12 ∧
        (∀ a ∈ later, a.thread = some thread ∨ a.thread = some other) ∧ s'.thread thread = .idle ∧
        ∀ object request, s.thread thread = .acquiring object request →
          ∀ owner ∈ s.owner object, other = owner) ∧
      ∀ thread object stage later s', s.thread thread = .inside object stage →
      Trace State.Step s later s' →
        (∀ response, .answer thread response ∉ later) →
        (∀ threads event, .stop threads event ∈ later → thread ∉ threads) →
        later.countP (fun a => a.thread = some thread) ≤ 5 := by
  have hinv := inv_of_trace h
  constructor
  · intro thread hcall
    cases hthread : s.thread thread with
    | idle => exact absurd hthread hcall
    | inside object stage =>
        obtain ⟨steps, response, s', htrace, hlength, -, hidle, -⟩ := exists_finish hthread
        have hle := remaining_le stage
        refine ⟨_, response, s', thread, htrace, ?_, fun a ha => .inl (own_of_performing ha),
          hidle, ?_⟩
        · rw [List.length_map]
          omega
        · exact fun _ _ hacquiring => nomatch hacquiring
    | acquiring object request =>
        cases howner : s.owner object with
        | none =>
            obtain ⟨steps, response, s', htrace, hlength, hidle⟩ :=
              exists_finish_of_free hthread howner
            refine ⟨_, response, s', thread, htrace, ?_, fun a ha => .inl (own_of_performing ha),
              hidle, ?_⟩
            · rw [List.length_map]
              omega
            · intro object' request' hsame owner hmem
              obtain ⟨rfl, -⟩ := ThreadState.acquiring.inj hsame
              rw [howner] at hmem
              cases hmem
        | some other =>
            obtain ⟨stage, hstage⟩ := hinv.inside howner
            obtain ⟨first, response₁, s₁, hfirst, hlength₁, hfree, -, hothers⟩ :=
              exists_finish hstage
            have hne : thread ≠ other := by
              rintro rfl
              rw [hthread] at hstage
              cases hstage
            obtain ⟨steps, response, s', htrace, hlength, hidle⟩ :=
              exists_finish_of_free ((hothers thread hne).trans hthread) hfree
            have hle := remaining_le stage
            refine ⟨first.map (State.performing other) ++ [.answer other response₁] ++
              steps.map (State.performing thread), response, s', other, ?_, ?_, ?_, hidle, ?_⟩
            · rw [List.append_assoc _ (steps.map _)]
              exact hfirst.append htrace
            · simp only [List.length_append, List.length_map, List.length_singleton]
              omega
            · intro a ha
              rcases List.mem_append.mp ha with hthat | hthis
              · rcases List.mem_append.mp hthat with hmem | hanswer
                · exact .inr (own_of_performing hmem)
                · rw [List.mem_singleton.mp hanswer]
                  exact .inr rfl
              · exact .inl (own_of_performing hthis)
            · intro object' request' hsame owner hmem
              obtain ⟨rfl, -⟩ := ThreadState.acquiring.inj hsame
              exact Option.some.inj (howner.symm.trans hmem)
  · intro thread object stage later s' hthread hlater hunanswered halive
    obtain ⟨stage', -, hcount⟩ := own_steps_le hthread hlater hunanswered halive
    have hle := remaining_le stage
    omega

theorem calls_are_answered_sample :
    ∃ s later response s', s.thread 1 = .acquiring 0 .list ∧
      Trace State.Step s (later ++ [.answer 1 response]) s' := by
  obtain ⟨s, hrun, hwaiting⟩ := exists_sampleRun
  have hbusy : s.thread 1 ≠ .idle := by
    rw [hwaiting]
    exact fun h => nomatch h
  obtain ⟨later, response, s', -, hlater, -⟩ := (calls_are_answered hrun).1 1 hbusy
  exact ⟨s, later, response, s', hwaiting, hlater⟩

end Athena.Persistence
