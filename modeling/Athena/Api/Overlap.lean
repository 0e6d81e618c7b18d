import Athena.Api.Handlers
import Athena.Persistence.Linearizability

/-!
# Requests that overlap

While one handler is inside a method of its repository, those of other processes are in theirs, at
any step of any thread. Here the handlers of one process overlap as well. They are coroutines that
never await, so that they do not; what holds of every run here holds of the runs in which they come
one after another.

Between its invocation and its answer every request takes effect at one moment, as in a run in which
the exchanges come one after another: the calls of the repository do so, and what a handler does
around its call involves no other handler.
-/

namespace Athena

/-! ### What a step of the catalog is to the threads -/

namespace Persistence.State.Step

open Library

variable {s s' : State} {a : State.Act} {thread thread' : Nat}

theorem others (h : State.Step s a s') (haction : a.thread = some thread')
    (hne : thread ≠ thread') :
    s'.thread thread = s.thread thread := by
  cases h with
  | invoke | acquire | release =>
      obtain rfl := Option.some.inj haction
      exact Function.update_of_ne hne _ _
  | @work _ _ _ _ event =>
      cases event <;>
        · obtain rfl := Option.some.inj haction
          exact Function.update_of_ne hne _ _
  | crash => cases haction

/-- A call begins with its invocation, keeps to its object, and is over with its answer. -/
theorem own (h : State.Step s a s') (haction : a.thread = some thread) :
    match a with
    | .invoke _ call => s'.thread thread = .acquiring call.1 call.2
    | .work _ | .effect _ _ => (s'.thread thread).object = (s.thread thread).object
    | .answer _ _ => s'.thread thread = .idle
    | .stop _ _ => False := by
  cases h with
  | invoke | release =>
      obtain rfl := Option.some.inj haction
      exact Function.update_self ..
  | acquire hthread =>
      obtain rfl := Option.some.inj haction
      show (Function.update s.thread _ _ _).object = _
      rw [Function.update_self, hthread]
      rfl
  | @work _ _ _ _ event _ hthread =>
      cases event <;>
        · obtain rfl := Option.some.inj haction
          show (Function.update s.thread _ _ _).object = _
          rw [Function.update_self, hthread]
          rfl
  | crash => cases haction

theorem stopped {threads : Set Nat} {event : Event} (h : State.Step s (.stop threads event) s')
    (thread : Nat) :
    s'.thread thread = if (s.thread thread).object = some event.object then .idle
      else s.thread thread := by
  generalize hstop : Action.stop threads event = a at h
  cases h with
  | invoke | acquire | release => cases hstop
  | @work _ _ _ _ effect => cases effect <;> cases hstop
  | crash object =>
      obtain ⟨-, rfl⟩ := Action.stop.inj hstop
      rfl

end Persistence.State.Step

open Library Library.Program Persistence

variable {V : Type}

/-! ### Any number of handlers -/

inductive Handler (V : Type)
  | idle
  | received (application : Application V) (request : Application.Request)
  /-- Inside the call of the repository. -/
  | asking (application : Application V) (request : Application.Request)
      (asked : Persistence.Request)
  | replying (application : Application V) (result : Except RouteError (Payload V))

def Handler.repository : Handler V → Option Nat
  | .idle => none
  | .received application _ | .asking application _ _ | .replying application _ =>
      some application.repository

/-- The catalog with the threads that are inside its methods, and what each thread is handling. -/
structure Server (V : Type) where
  catalog : State
  handler : Nat → Handler V

namespace Server

def fresh : Server V := ⟨State.fresh, fun _ => .idle⟩

abbrev Act (V : Type) :=
  Action Nat (Application V × Application.Request) (Except RouteError (Payload V)) (Exchange V)

/-- The exchange that takes effect with an event of the catalog. -/
def exchange (tables : CaseTables) (readers : Readers V) (application : Application V)
    (request : Application.Request) (event : Event) : Exchange V where
  application := application
  operation := request.operation event.call
  result := Application.replies tables request
    (application.concludes readers request event.call.request event.response)

inductive Step (tables : CaseTables) (table : Text.UpperTable) (readers : Readers V)
    (s : Server V) :
    Act V → Server V → Prop
  | receive {thread : Nat} (hthread : s.handler thread = .idle) (application : Application V)
      (request : Application.Request) :
      Step tables table readers s (.invoke thread (application, request))
        ⟨s.catalog, Function.update s.handler thread (.received application request)⟩
  | refuse {thread : Nat} {application : Application V} {request : Application.Request}
      {e : ServiceError} (hthread : s.handler thread = .received application request)
      (hasks : application.asks table request = .error e) :
      Step tables table readers s
        (.effect thread ⟨application, request.operation .close,
          Application.replies tables request (.error e)⟩)
        ⟨s.catalog, Function.update s.handler thread
          (.replying application (Application.replies tables request (.error e)))⟩
  | ask {thread : Nat} {application : Application V} {request : Application.Request}
      {asked : Persistence.Request}
      {catalog : State} (hthread : s.handler thread = .received application request)
      (hasks : application.asks table request = .ok asked)
      (hstep : State.Step s.catalog (.invoke thread (application.repository, asked)) catalog) :
      Step tables table readers s (.work thread)
        ⟨catalog, Function.update s.handler thread (.asking application request asked)⟩
  | work {thread : Nat} {application : Application V} {request : Application.Request}
      {asked : Persistence.Request}
      {catalog : State} (hthread : s.handler thread = .asking application request asked)
      (hstep : State.Step s.catalog (.work thread) catalog) :
      Step tables table readers s (.work thread) ⟨catalog, s.handler⟩
  | effect {thread : Nat} {application : Application V} {request : Application.Request}
      {asked : Persistence.Request} {catalog : State} {event : Event}
      (hthread : s.handler thread = .asking application request asked)
      (hstep : State.Step s.catalog (.effect thread event) catalog) :
      Step tables table readers s
        (.effect thread (exchange tables readers application request event))
        ⟨catalog, s.handler⟩
  | conclude {thread : Nat} {application : Application V} {request : Application.Request}
      {asked : Persistence.Request} {catalog : State} {response : Response}
      (hthread : s.handler thread = .asking application request asked)
      (hstep : State.Step s.catalog (.answer thread response) catalog) :
      Step tables table readers s (.work thread)
        ⟨catalog, Function.update s.handler thread (.replying application
          (Application.replies tables request
            (application.concludes readers request asked response)))⟩
  | reply {thread : Nat} {application : Application V} {result : Except RouteError (Payload V)}
      (hthread : s.handler thread = .replying application result) :
      Step tables table readers s (.answer thread result)
        ⟨s.catalog, Function.update s.handler thread .idle⟩
  /-- A process dies, with all that it is handling. -/
  | crash (application : Application V) {threads : Set Nat} {catalog : State}
      (hstep :
        State.Step s.catalog (.stop threads ⟨application.repository, .close, .returned⟩) catalog) :
      Step tables table readers s
        (.stop {thread | (s.handler thread).repository = some application.repository}
          ⟨application, .shutdown, .ok .lifespan⟩)
        ⟨catalog, fun thread =>
          if (s.handler thread).repository = some application.repository then .idle
          else s.handler thread⟩

end Server

/-! ### Where a handler is -/

/-- A thread is inside a call exactly as long as its handler is waiting for it. -/
def Handler.Agrees (table : Text.UpperTable) : Handler V → ThreadState → Prop
  | .asking application request asked, thread =>
      application.asks table request = .ok asked ∧ thread.object = some application.repository ∧
        (thread.phase = .invoked (application.repository, asked) ∨
          ∃ response, thread.phase = .effective response)
  | _, thread => thread = .idle

/-- A request has taken effect when its call has. -/
def Handler.phase (tables : CaseTables) (readers : Readers V) :
    Handler V → ThreadState →
      Phase (Application V × Application.Request) (Except RouteError (Payload V))
  | .idle, _ => .idle
  | .received application request, _ => .invoked (application, request)
  | .asking application request asked, thread =>
      match thread.phase with
      | .effective response =>
          .effective (Application.replies tables request
            (application.concludes readers request asked response))
      | _ => .invoked (application, request)
  | .replying _ result, _ => .effective result

namespace Server

structure Inv (table : Text.UpperTable) (s : Server V) : Prop where
  catalog : Persistence.Inv s.catalog
  agrees : ∀ thread, (s.handler thread).Agrees table (s.catalog.thread thread)

def phase (tables : CaseTables) (readers : Readers V) (s : Server V) (thread : Nat) :
    Phase (Application V × Application.Request) (Except RouteError (Payload V)) :=
  (s.handler thread).phase tables readers (s.catalog.thread thread)

theorem inv_fresh (table : Text.UpperTable) : Inv table (fresh : Server V) :=
  ⟨Persistence.inv_fresh, fun _ => rfl⟩

section Step

variable {tables : CaseTables} {table : Text.UpperTable} {readers : Readers V} {s s' : Server V}
  {a : Act V} {thread : Nat} {application : Application V} {request : Application.Request}
  {asked : Persistence.Request} {catalog : State}

/-- A step of one thread's handler leaves the others where they are. -/
theorem agrees_update (h : Inv table s) (hothers : ∀ thread', thread' ≠ thread →
      catalog.thread thread' = s.catalog.thread thread') {handler : Handler V}
    (hown : handler.Agrees table (catalog.thread thread)) (thread' : Nat) :
    (Function.update s.handler thread handler thread').Agrees table (catalog.thread thread') := by
  by_cases hsame : thread' = thread
  · subst hsame
    rw [Function.update_self]
    exact hown
  · rw [Function.update_of_ne hsame, hothers thread' hsame]
    exact h.agrees thread'

theorem Inv.idle (h : Inv table s)
    (hthread : ∀ application request asked, s.handler thread ≠ .asking application request asked) :
    s.catalog.thread thread = .idle := by
  have hagrees := h.agrees thread
  cases hhandler : s.handler thread with
  | asking => exact absurd hhandler (hthread _ _ _)
  | idle | received | replying =>
      rw [hhandler] at hagrees
      exact hagrees

theorem Inv.asking (h : Inv table s)
    (hthread : s.handler thread = .asking application request asked) :
    application.asks table request = .ok asked ∧
      (s.catalog.thread thread).object = some application.repository ∧
      ((s.catalog.thread thread).phase = .invoked (application.repository, asked) ∨
        ∃ response, (s.catalog.thread thread).phase = .effective response) := by
  have hagrees := h.agrees thread
  rw [hthread] at hagrees
  exact hagrees

/-- What takes effect for a handler is the call that it made. -/
theorem Inv.effect (h : Inv table s)
    (hthread : s.handler thread = .asking application request asked) {event : Event}
    (hstep : State.Step s.catalog (.effect thread event) catalog) :
    event.object = application.repository ∧ event.call.request = asked ∧
      (s.catalog.thread thread).phase = .invoked (application.repository, asked) ∧
      (catalog.thread thread).phase = .effective event.response := by
  obtain ⟨-, -, hphase⟩ := h.asking hthread
  have hevent := hstep.phase thread
  generalize hbefore : (s.catalog.thread thread).phase = before at hphase hevent
  generalize hafter : (catalog.thread thread).phase = after at hevent
  cases hevent with
  | effect =>
      rcases hphase with hinvoked | ⟨response, heffective⟩
      · obtain ⟨hobject, hrequest⟩ := Prod.mk.inj (Phase.invoked.inj hinvoked)
        exact ⟨hobject, hrequest, hinvoked, rfl⟩
      · cases heffective
  | other _ haction hother => exact absurd (Option.some.inj haction).symm hother

theorem phase_of_answer {response : Response}
    (hstep : State.Step s.catalog (.answer thread response) catalog) :
    (s.catalog.thread thread).phase = .effective response := by
  have hanswer := hstep.phase thread
  generalize hbefore : (s.catalog.thread thread).phase = before at hanswer
  generalize hafter : (catalog.thread thread).phase = after at hanswer
  cases hanswer with
  | answer => rfl
  | other _ haction hother => exact absurd (Option.some.inj haction).symm hother

theorem phase_of_work (hstep : State.Step s.catalog (.work thread) catalog) :
    (catalog.thread thread).phase = (s.catalog.thread thread).phase := by
  have hwork := hstep.phase thread
  generalize hbefore : (s.catalog.thread thread).phase = before at hwork ⊢
  generalize hafter : (catalog.thread thread).phase = after at hwork ⊢
  cases hwork with
  | work | other => rfl

/-- The threads that die with a process are those of its handlers. -/
theorem Inv.crash (h : Inv table s) {threads : Set Nat}
    (hstep : State.Step s.catalog (.stop threads ⟨application.repository, .close, .returned⟩)
      catalog) (thread : Nat) :
    catalog.thread thread =
      if (s.handler thread).repository = some application.repository then .idle
        else s.catalog.thread thread := by
  rw [hstep.stopped]
  cases hhandler : s.handler thread with
  | asking application' request asked =>
      rw [(h.asking hhandler).2.1]
      rfl
  | idle | received | replying =>
      have hidle : s.catalog.thread thread = .idle := h.idle (by simp [hhandler])
      rw [hidle, ite_self, ite_self]

theorem Inv.step (h : Inv table s) (hstep : Step tables table readers s a s') : Inv table s' := by
  cases hstep with
  | @receive thread hthread application request =>
      have hidle : s.catalog.thread thread = .idle := h.idle (by simp [hthread])
      exact ⟨h.catalog, agrees_update h (fun _ _ => rfl) hidle⟩
  | @refuse thread application request e hthread hasks =>
      have hidle : s.catalog.thread thread = .idle := h.idle (by simp [hthread])
      exact ⟨h.catalog, agrees_update h (fun _ _ => rfl) hidle⟩
  | @reply thread application result hthread =>
      have hidle : s.catalog.thread thread = .idle := h.idle (by simp [hthread])
      exact ⟨h.catalog, agrees_update h (fun _ _ => rfl) hidle⟩
  | ask hthread hasks hcall =>
      refine ⟨h.catalog.step hcall, agrees_update h (fun _ hne => hcall.others rfl hne) ?_⟩
      rw [hcall.own rfl]
      exact ⟨hasks, rfl, .inl rfl⟩
  | @work thread application request asked catalog hthread hcall =>
      obtain ⟨hasks, hobject, hphase⟩ := h.asking hthread
      have hown :
          (Handler.asking application request asked).Agrees table (catalog.thread thread) := by
        refine ⟨hasks, (hcall.own rfl).trans hobject, ?_⟩
        rwa [phase_of_work hcall]
      refine ⟨h.catalog.step hcall, fun thread' => ?_⟩
      have hagrees := agrees_update h (fun _ hne => hcall.others rfl hne) hown thread'
      rwa [← hthread, Function.update_eq_self] at hagrees
  | @effect thread application request asked catalog event hthread hcall =>
      obtain ⟨hasks, hobject, -⟩ := h.asking hthread
      obtain ⟨-, -, -, heffective⟩ := h.effect hthread hcall
      have hown : (Handler.asking application request asked).Agrees table (catalog.thread thread) :=
        ⟨hasks, (hcall.own rfl).trans hobject, .inr ⟨_, heffective⟩⟩
      refine ⟨h.catalog.step hcall, fun thread' => ?_⟩
      have hagrees := agrees_update h (fun _ hne => hcall.others rfl hne) hown thread'
      rwa [← hthread, Function.update_eq_self] at hagrees
  | conclude hthread hcall =>
      exact ⟨h.catalog.step hcall,
        agrees_update h (fun _ hne => hcall.others rfl hne) (hcall.own rfl)⟩
  | @crash application threads catalog hcall =>
      refine ⟨h.catalog.step hcall, fun thread => ?_⟩
      show (if (s.handler thread).repository = some application.repository then Handler.idle
        else s.handler thread).Agrees table (catalog.thread thread)
      rw [h.crash hcall]
      by_cases hmem : (s.handler thread).repository = some application.repository
      · rw [if_pos hmem, if_pos hmem]
        rfl
      · rw [if_neg hmem, if_neg hmem]
        exact h.agrees thread

/-- A step with an effect is that exchange, and any other step is none. -/
theorem Inv.refines (h : Inv table s) (hstep : Step tables table readers s a s') :
    match a.event with
    | none => s'.catalog.world = s.catalog.world
    | some e => Exchange.Step tables table readers s.catalog.world e s'.catalog.world := by
  cases hstep with
  | receive | reply => rfl
  | refuse hthread hasks => exact exchangeStep_of_refused hasks .close
  | ask _ _ hcall | work _ hcall | conclude _ hcall => exact h.catalog.refines hcall
  | @effect thread application request asked catalog event hthread hcall =>
      obtain ⟨hobject, hrequest, -⟩ := h.effect hthread hcall
      have hasks := (h.asking hthread).1
      rw [← hrequest] at hasks
      have hworld : World.Step s.catalog.world event catalog.world := h.catalog.refines hcall
      rw [World.Step, hobject] at hworld
      exact exchangeStep_of_call hasks hworld
  | @crash application threads catalog hcall =>
      have hworld :
          World.Step s.catalog.world ⟨application.repository, .close, .returned⟩ catalog.world :=
        h.catalog.refines hcall
      have hasks : application.asks table .shutdown = .ok Call.close.request := rfl
      exact exchangeStep_of_call hasks hworld

theorem phase_eq {handler : Handler V} (hhandler : s.handler thread = handler) :
    s.phase tables readers thread = handler.phase tables readers (s.catalog.thread thread) := by
  rw [phase, hhandler]

/-- What one thread's step is to the others. -/
theorem phase_others {thread' : Nat} (haction : a.thread = some thread')
    (hhandler : ∀ t, t ≠ thread' → s'.handler t = s.handler t)
    (hcatalog : ∀ t, t ≠ thread' → s'.catalog.thread t = s.catalog.thread t)
    (hown : Phase.Step Exchange.request Exchange.result thread' (s.phase tables readers thread') a
      (s'.phase tables readers thread')) (thread : Nat) :
    Phase.Step Exchange.request Exchange.result thread (s.phase tables readers thread) a
      (s'.phase tables readers thread) := by
  by_cases hsame : thread = thread'
  · rw [hsame]
    exact hown
  · have hkept : s'.phase tables readers thread = s.phase tables readers thread := by
      rw [phase, phase, hhandler thread hsame, hcatalog thread hsame]
    rw [hkept]
    exact .other _ haction (Ne.symm hsame)

/-- Every step is to every thread what its action says. -/
theorem Inv.phase (h : Inv table s) (hstep : Step tables table readers s a s') (thread : Nat) :
    Phase.Step Exchange.request Exchange.result thread (s.phase tables readers thread) a
      (s'.phase tables readers thread) := by
  cases hstep with
  | receive hthread application request =>
      refine phase_others rfl ?_ ?_ ?_ thread
      · exact fun _ hne => Function.update_of_ne hne _ _
      · exact fun _ _ => rfl
      · rw [phase_eq hthread, phase_eq (Function.update_self ..)]
        exact .invoke _
  | @refuse thread' application request e hthread hasks =>
      have hrequest : (application, request) = Exchange.request
          ⟨application, request.operation .close,
            Application.replies tables request (.error e)⟩ := by
        rw [Exchange.request, Application.Request.request_operation]
      refine phase_others rfl ?_ ?_ ?_ thread
      · exact fun _ hne => Function.update_of_ne hne _ _
      · exact fun _ _ => rfl
      · rw [phase_eq hthread, phase_eq (Function.update_self ..), Handler.phase, hrequest]
        exact .effect _
  | ask hthread hasks hcall =>
      refine phase_others rfl ?_ ?_ ?_ thread
      · exact fun _ hne => Function.update_of_ne hne _ _
      · exact fun _ hne => hcall.others rfl hne
      · rw [phase_eq hthread, phase_eq (Function.update_self ..), hcall.own rfl]
        exact .work _
  | work hthread hcall =>
      refine phase_others rfl ?_ ?_ ?_ thread
      · exact fun _ _ => rfl
      · exact fun _ hne => hcall.others rfl hne
      · simp only [Server.phase, hthread, Handler.phase, phase_of_work hcall]
        exact .work _
  | @effect thread' application request asked catalog event hthread hcall =>
      obtain ⟨-, hasked, hinvoked, heffective⟩ := h.effect hthread hcall
      have hrequest :
          (application, request) = (exchange tables readers application request event).request := by
        rw [Exchange.request, exchange, Application.Request.request_operation]
      refine phase_others rfl ?_ ?_ ?_ thread
      · exact fun _ _ => rfl
      · exact fun _ hne => hcall.others rfl hne
      · simp only [Server.phase, hthread, Handler.phase, hinvoked, heffective]
        rw [hrequest, ← hasked]
        exact .effect _
  | conclude hthread hcall =>
      refine phase_others rfl ?_ ?_ ?_ thread
      · exact fun _ hne => Function.update_of_ne hne _ _
      · exact fun _ hne => hcall.others rfl hne
      · rw [phase_eq hthread, phase_eq (Function.update_self ..), Handler.phase,
          phase_of_answer hcall]
        exact .work _
  | reply hthread =>
      refine phase_others rfl ?_ ?_ ?_ thread
      · exact fun _ hne => Function.update_of_ne hne _ _
      · exact fun _ _ => rfl
      · rw [phase_eq hthread, phase_eq (Function.update_self ..)]
        exact .answer _
  | @crash application threads catalog hcall =>
      show Phase.Step _ _ thread _ _ (Handler.phase tables readers
        (if (s.handler thread).repository = some application.repository then .idle
          else s.handler thread)
        (catalog.thread thread))
      by_cases hmem : (s.handler thread).repository = some application.repository
      · rw [if_pos hmem]
        exact .stopped _ _ hmem
      · rw [if_neg hmem, h.crash hcall, if_neg hmem]
        exact .spared _ _ hmem

end Step

section Answering

variable (tables : CaseTables) {table : Text.UpperTable} (readers : Readers V) {s : Server V}
  {thread : Nat}
  {application : Application V} {request : Application.Request} {asked : Persistence.Request}
  {catalog : State}
  {response : Response} {steps : List (Option Event)}

/-- What a step of the call is to the handler that made it. -/
def performing (application : Application V) (request : Application.Request) (thread : Nat) :
    Option Event → Act V
  | none => .work thread
  | some event => .effect thread (exchange tables readers application request event)

/-- One request from its arrival to its answer, with the steps of its call. -/
def answering (application : Application V) (request : Application.Request)
    (asked : Persistence.Request) (thread : Nat)
    (steps : List (Option Event)) (response : Response) : List (Act V) :=
  .invoke thread (application, request) ::
    ((.work thread ::
      (steps.map (performing tables readers application request thread) ++ [.work thread])) ++
      [.answer thread (Application.replies tables request
        (application.concludes readers request asked response))])

theorem isCall_answering (steps : List (Option Event)) :
    IsCall thread (application, request)
      (Application.replies tables request (application.concludes readers request asked response))
      (answering tables readers application request asked thread steps response) := by
  refine ⟨_, rfl, fun request' hmem => ?_⟩
  rcases List.mem_cons.mp hmem with hwork | hmem
  · cases hwork
  · rcases List.mem_append.mp hmem with hstep | hwork
    · obtain ⟨step, -, hstep⟩ := List.mem_map.mp hstep
      cases step <;> cases hstep
    · cases List.mem_singleton.mp hwork

theorem trace_performing (hthread : s.handler thread = .asking application request asked)
    (h : Trace State.Step s.catalog (steps.map (State.performing thread)) catalog) :
    Trace (Step tables table readers) s
      (steps.map (performing tables readers application request thread))
      ⟨catalog, s.handler⟩ := by
  induction steps generalizing s with
  | nil =>
      rw [h.eq_of_nil]
      exact .nil
  | cons step later ih =>
      obtain ⟨c, hfirst, hlater⟩ := h.of_cons
      cases step with
      | none => exact .cons (.work hthread hfirst) (@ih ⟨c, s.handler⟩ hthread hlater)
      | some event => exact .cons (.effect hthread hfirst) (@ih ⟨c, s.handler⟩ hthread hlater)

/-- A call that is run to its end leaves its handler with the reply. -/
theorem trace_concluding (hthread : s.handler thread = .asking application request asked)
    (h : Trace State.Step s.catalog
      (steps.map (State.performing thread) ++ [.answer thread response]) catalog) :
    Trace (Step tables table readers) s
      (steps.map (performing tables readers application request thread) ++ [.work thread])
      ⟨catalog, Function.update s.handler thread (.replying application
        (Application.replies tables request
          (application.concludes readers request asked response)))⟩ := by
  obtain ⟨c, hsteps, hanswer⟩ := h.split
  have hperform := @trace_performing V tables table readers s thread application request asked c
      steps hthread hsteps
  have hconclude := @Step.conclude V tables table readers ⟨c, s.handler⟩ thread application request
    asked catalog response hthread hanswer.of_single
  exact hperform.snoc hconclude

/-- A handler whose call can be run can answer. -/
theorem trace_answering (hthread : s.handler thread = .idle)
    (hasks : application.asks table request = .ok asked)
    (h : Trace State.Step s.catalog (.invoke thread (application.repository, asked) ::
      (steps.map (State.performing thread) ++ [.answer thread response])) catalog) :
    Trace (Step tables table readers) s
      (answering tables readers application request asked thread steps response)
      ⟨catalog, s.handler⟩ := by
  obtain ⟨c, hinvoke, hlater⟩ := h.of_cons
  have hask := @Step.ask V tables table readers
    ⟨s.catalog, Function.update s.handler thread (.received application request)⟩ thread application
      request asked c
    (Function.update_self ..) hasks hinvoke
  have hconclude := @trace_concluding V tables table readers
    ⟨c, Function.update s.handler thread (.asking application request asked)⟩ thread application
      request asked catalog
    response steps (Function.update_self ..) hlater
  have hreply := @Step.reply V tables table readers
    ⟨catalog, Function.update s.handler thread (.replying application
      (Application.replies tables request (application.concludes readers request asked response)))⟩
        thread application _
    (Function.update_self ..)
  simp only [Function.update_idem] at hask hconclude hreply
  rw [← hthread, Function.update_eq_self] at hreply
  exact .cons (.receive hthread application request)
    (.append (.cons hask hconclude) (.single hreply))

end Answering

end Server

/-! ### Runs -/

section Run

variable {tables : CaseTables} {table : Text.UpperTable} {readers : Readers V} {s : Server V}
  {actions : List (Server.Act V)}

theorem exchanges_of_trace (h : Trace (Server.Step tables table readers) Server.fresh actions s) :
    Trace (Exchange.Step tables table readers) World.fresh (effects actions) s.catalog.world := by
  have hfresh : Server.Inv table (Server.fresh : Server V) ∧
      World.fresh = (Server.fresh : Server V).catalog.world :=
    ⟨Server.inv_fresh table, rfl⟩
  have hsimulates :
      ∃ w, Trace (Exchange.Step tables table readers) World.fresh (effects actions) w ∧
      Server.Inv table s ∧ w = s.catalog.world := by
    apply @Trace.simulate_filterMap _ _ _ _ (Server.Step tables table readers)
      (Exchange.Step tables table readers)
      Action.event (fun s w => Server.Inv table s ∧ w = s.catalog.world) _ _ _ _ h hfresh
    intro s a s' w ⟨hinv, hworld⟩ hstep
    subst hworld
    have hrefines := hinv.refines hstep
    cases hevent : a.event with
    | none =>
        rw [hevent] at hrefines
        exact ⟨hinv.step hstep, hrefines.symm⟩
    | some e =>
        rw [hevent] at hrefines
        exact ⟨s'.catalog.world, hrefines, hinv.step hstep, rfl⟩
  obtain ⟨w, htrace, -, hworld⟩ := hsimulates
  exact hworld ▸ htrace

theorem requests_of_trace (h : Trace (Server.Step tables table readers) Server.fresh actions s)
    (thread : Nat) :
    Trace (Phase.Step Exchange.request Exchange.result thread) .idle actions
      (s.phase tables readers thread) := by
  have hsimulates :
      ∃ p, Trace (Phase.Step Exchange.request Exchange.result thread) .idle actions p ∧
      Server.Inv table s ∧ p = s.phase tables readers thread := by
    apply h.simulate (R := fun s p => Server.Inv table s ∧ p = s.phase tables readers thread)
      ⟨Server.inv_fresh table, rfl⟩
    intro s a s' p ⟨hinv, hphase⟩ hstep
    subst hphase
    exact ⟨_, hinv.phase hstep thread, hinv.step hstep, rfl⟩
  obtain ⟨p, htrace, -, rfl⟩ := hsimulates
  exact htrace

/-- **Overlapping requests are as good as one after another.** However the steps of the handlers
come, and wherever processes die: the exchanges that have taken effect, in this order, are a run of
the exchanges one after another, from which the catalog is what it is; and every thread gets its
request, has it take effect once, and answers what the exchange came to, unless its process dies
before. -/
theorem overlapping_requests (h : Trace (Server.Step tables table readers) Server.fresh actions s) :
    Trace (Exchange.Step tables table readers) World.fresh (effects actions) s.catalog.world ∧
      ∀ thread, Trace (Phase.Step Exchange.request Exchange.result thread) .idle actions
        (s.phase tables readers thread) :=
  ⟨exchanges_of_trace h, requests_of_trace h⟩

/-- What `sampleApplication` makes of a file. -/
def sampleRegistered : Dataset :=
  (sampleApplication 0).datasetService.datasetOf ⟨7⟩ sampleNow ⟨"a/f.csv", "f", "csv",
    "file:///a/f.csv", 2, "8f434346648f6b96df89dda901c5176b10a6d83961dd3c1ac88b59b2dc327aa4"⟩

def sampleStartup : List (Server.Act Nat) :=
  Server.answering .ascii sampleReaders (sampleApplication 0) .startup .initializing 0
    [none, none, none, none, some ⟨0, .initializing {}, .returned⟩, none] .returned

def sampleArrival : List (Server.Act Nat) :=
  Server.answering .ascii sampleReaders (sampleApplication 0) (.register ⟨7⟩ sampleNow "a/f.csv")
    (.add sampleRegistered) 0 [none, none, none,
      some ⟨0, .add {} sampleRegistered, .returned⟩] .returned

def sampleRequest : List (Server.Act Nat) :=
  Server.answering .ascii sampleReaders (sampleApplication 0) (.get ⟨7⟩) (.get ⟨7⟩) 1
    [none, some ⟨0, .get ⟨7⟩, .dataset (some sampleRegistered)⟩] (.dataset (some sampleRegistered))

def sampleRegisteredRow : Row where
  id := "00000000-0000-0000-0000-000000000007"
  providerId := "local"
  reference := "a/f.csv"
  name := "f"
  sourceType := "csv"
  assetUri := "file:///a/f.csv"
  sizeBytes := 2
  createdAt := "2026-08-11T11:00:00+00:00"
  status := "registered"
  sha256 := some "8f434346648f6b96df89dda901c5176b10a6d83961dd3c1ac88b59b2dc327aa4"

theorem exists_sampleCatalog : ∃ c₁ c₂,
    Trace State.Step State.fresh (.invoke 0 (0, .initializing) ::
      ([none, none, none, none, some ⟨0, .initializing {}, .returned⟩, none].map
        (State.performing 0) ++
        [.answer 0 .returned])) c₁ ∧
    Trace State.Step c₁ (.invoke 0 (0, .add sampleRegistered) ::
      ([none, none, none, some ⟨0, .add {} sampleRegistered, .returned⟩].map (State.performing 0) ++
        [.answer 0 .returned])) c₂ ∧
    c₂.scope 0 = ⟨⟨some [sampleRegisteredRow], some [1]⟩, true, none⟩ ∧ c₂.owner 0 = none ∧
    c₂.thread 1 = .idle := by
  have hupgrade : exec (upgrade MIGRATIONS {}) State.fresh.database =
      (.ok (), ⟨some [], some [1]⟩) := by decide +kernel
  have hrow : toRow sampleRegistered = .ok sampleRegisteredRow := by decide +kernel
  have hinsert : exec (insertRow none sampleRegisteredRow) ⟨some [], some [1]⟩ =
      (.ok (), ⟨some [sampleRegisteredRow], some [1]⟩) := by decide +kernel
  exact ⟨_, _,
    .cons (@State.Step.invoke _ 0 rfl 0 .initializing) <|
    .cons (@State.Step.acquire _ 0 0 _ rfl rfl) <|
    .cons (.work rfl (.setUp rfl)) <|
    .cons (.work rfl (.beginImmediate rfl)) <|
    .cons (.work rfl (.upgrade rfl rfl hupgrade)) <|
    .cons (.work rfl .commitUpgrade) <|
    .cons (.work rfl .assign) <|
    .single (.release rfl),
    .cons (@State.Step.invoke _ 0 rfl 0 (.add sampleRegistered)) <|
    .cons (@State.Step.acquire _ 0 0 _ rfl rfl) <|
    .cons (.work rfl (.serialize rfl hrow)) <|
    .cons (.work rfl (.insert rfl hinsert)) <|
    .cons (.work rfl .commitAdd) <|
    .single (.release rfl), rfl, rfl, rfl⟩

/-- A process starts, registers a file, and is asked for it. -/
theorem exists_sampleServer :
    ∃ s, Trace (Server.Step .ascii DatasetQueryService.asciiUpper sampleReaders) Server.fresh
      (sampleStartup ++ sampleArrival ++ [] ++ sampleRequest ++ []) s := by
  obtain ⟨c₁, c₂, hstartup, hadd, hscope, hfree, hidle⟩ := exists_sampleCatalog
  obtain ⟨c, hentered, hsame, hinside, -⟩ := exists_entered hidle hfree (.get ⟨7⟩)
  have hanswer : (c.scope 0).answer (SQLiteDatasetRepository.get ⟨7⟩) .dataset =
      .dataset (some sampleRegistered) := by
    rw [hsame, hscope]
    decide +kernel
  have hget : Work 0 (c.scope 0) (.entered (.get ⟨7⟩))
      (some ⟨0, .get ⟨7⟩, .dataset (some sampleRegistered)⟩)
      (.leaving (.dataset (some sampleRegistered))) (c.scope 0) := by
    rw [← hanswer]
    exact .get _ (congrArg Scope.connected (hsame.trans hscope))
  have hread := hentered.append
      (.cons (State.Step.work hinside hget) (.single (.release (Function.update_self ..))))
  rw [List.append_nil, List.append_nil]
  refine ⟨_, .append (.append (Server.trace_answering .ascii sampleReaders rfl rfl hstartup)
    (Server.trace_answering .ascii sampleReaders rfl rfl hadd))
      (Server.trace_answering .ascii sampleReaders rfl rfl hread)⟩

theorem overlapping_requests_sample :
    ∃ s, Trace (Exchange.Step .ascii DatasetQueryService.asciiUpper sampleReaders) World.fresh
      (effects (sampleStartup ++ sampleArrival ++ [] ++ sampleRequest ++ [])) s := by
  obtain ⟨s, hrun⟩ := exists_sampleServer
  exact ⟨_, (overlapping_requests hrun).1⟩

end Run

/-! ### What the clients see -/

/-- The result of a request shows a body: a registration's own, the one that was asked for, or one
of all. -/
inductive Application.Request.Shows :
    Application.Request → Except RouteError (Payload V) → DatasetResponse → Prop
  | created (id : UUID) (now : Datetime) (reference : String) (response : DatasetResponse) :
      Shows (.register id now reference) (.ok (.dataset response)) response
  | got (datasetId : UUID) (response : DatasetResponse) :
      Shows (.get datasetId) (.ok (.dataset response)) response
  | listed {response : DatasetResponse} {responses : List DatasetResponse}
      (hmem : response ∈ responses) :
      Shows .list (.ok (.datasets responses)) response

/-- What a process says that does not serve. -/
def notServing : Except RouteError (Payload V) :=
  .error (.unhandled (.catalog SQLiteDatasetRepository.notInitialized))

section Clients

variable {tables : CaseTables} {table : Text.UpperTable} {readers : Readers V}
  {exchanges : List (Exchange V)} {w w' : World} {m : CatalogMap} {e : Exchange V}

theorem Serves.result_of_get (h : Serves tables exchanges w m)
    (hstep : Exchange.Step tables table readers w e w')
    {datasetId : UUID} (hoperation : e.operation = .get datasetId) :
    (∃ response ∈ created exchanges, response.id = datasetId ∧ e.result = .ok (.dataset response)) ∨
      ((∀ response ∈ created exchanges, response.id ≠ datasetId) ∧
        e.result = .error (.httpException 404 datasetId.str)) ∨
      e.result = notServing := by
  obtain ⟨calls, hexec⟩ := hstep
  rw [hoperation] at hexec
  by_cases hserving : e.application.repository ∈ serving exchanges
  · rcases @Serves.exec_get V tables table readers exchanges w m e.application h hserving
      datasetId with
      ⟨response, hmem, hid, hget⟩ | ⟨hnone, hget⟩
    · rw [hget] at hexec
      exact .inl ⟨response, hmem, hid, (congrArg Prod.fst hexec).symm⟩
    · rw [hget] at hexec
      exact .inr (.inl ⟨hnone, (congrArg Prod.fst hexec).symm⟩)
  · have hget := @Serves.exec_notServing V tables table readers exchanges w m e.application h
      hserving (.get datasetId) (.inr (.inl ⟨datasetId, rfl⟩))
    rw [hget] at hexec
    exact .inr (.inr (congrArg Prod.fst hexec).symm)

theorem Serves.result_of_list (h : Serves tables exchanges w m)
    (hstep : Exchange.Step tables table readers w e w') (hoperation : e.operation = .list) :
    (∃ responses, e.result = .ok (.datasets responses) ∧ responses.Perm (created exchanges)) ∨
      e.result = notServing := by
  obtain ⟨calls, hexec⟩ := hstep
  rw [hoperation] at hexec
  by_cases hserving : e.application.repository ∈ serving exchanges
  · obtain ⟨responses, hlist, hperm, -⟩ :=
      @Serves.exec_list V tables table readers exchanges w m e.application h hserving
    rw [hlist] at hexec
    exact .inl ⟨responses, (congrArg Prod.fst hexec).symm, hperm⟩
  · have hlist := @Serves.exec_notServing V tables table readers exchanges w m e.application h
        hserving .list (.inl rfl)
    rw [hlist] at hexec
    exact .inr (congrArg Prod.fst hexec).symm

theorem created_append (exchanges later : List (Exchange V)) :
    created (exchanges ++ later) = created exchanges ++ created later :=
  List.filterMap_append

/-- Who is shown a body is shown one of those that have been created. -/
theorem Serves.mem_created (h : Serves tables exchanges w m)
    (hstep : Exchange.Step tables table readers w e w')
    {response : DatasetResponse} (hshows : e.operation.request.Shows e.result response) :
    response ∈ Athena.created (exchanges ++ [e]) := by
  rw [created_append, List.mem_append]
  generalize hrequest : e.operation.request = request at hshows
  generalize hresult : e.result = result at hshows
  cases hshows with
  | created id now reference =>
      right
      obtain ⟨faults, hoperation⟩ := Operation.register_of_request hrequest
      have hcreated := Exchange.created_eq_some.mpr ⟨⟨_, _, _, _, hoperation⟩, hresult⟩
      rw [Athena.created, List.filterMap_cons_some hcreated]
      exact List.mem_cons_self
  | got datasetId =>
      left
      rcases h.result_of_get hstep (Operation.get_of_request hrequest) with
        ⟨found, hmem, -, hfound⟩ | ⟨-, hnone⟩ | hnone
      · obtain rfl := Payload.dataset.inj (Except.ok.inj (hfound.symm.trans hresult))
        exact hmem
      · cases hnone.symm.trans hresult
      · cases hnone.symm.trans hresult
  | listed hmem =>
      left
      rcases h.result_of_list hstep (Operation.list_of_request hrequest) with
        ⟨listed, hlisted, hperm⟩ | hnone
      · obtain rfl := Payload.datasets.inj (Except.ok.inj (hlisted.symm.trans hresult))
        exact hperm.subset hmem
      · cases hnone.symm.trans hresult

/-- What a run has shown, it has created. -/
theorem mem_created_of_shows
    (h : Trace (Exchange.Step tables table readers) World.fresh exchanges w)
    (hutc : ∀ e ∈ exchanges, e.operation.Utc) (he : e ∈ exchanges) {response : DatasetResponse}
    (hshows : e.operation.request.Shows e.result response) : response ∈ created exchanges := by
  obtain ⟨first, last, rfl⟩ := List.append_of_mem he
  obtain ⟨w₁, w₂, m, hserves, hstep, -⟩ := serves_before h hutc
  rw [← List.singleton_append, ← List.append_assoc, created_append]
  exact List.mem_append_left _ (hserves.mem_created hstep hshows)

/-- Each body comes from one exchange, and no other makes a body with its id. -/
theorem exists_created_once (h : Trace (Exchange.Step tables table readers) World.fresh exchanges w)
    (hutc : ∀ e ∈ exchanges, e.operation.Utc) {response : DatasetResponse}
    (hmem : response ∈ created exchanges) :
    ∃ first e last, exchanges = first ++ e :: last ∧ e.created = some response ∧
      ∀ other ∈ first ++ last, ∀ response', other.created = some response' →
      response'.id ≠ response.id := by
  obtain ⟨m, hserves⟩ := serves h hutc
  have hnodup := hserves.nodup
  obtain ⟨e, he, hcreated⟩ := List.mem_filterMap.mp hmem
  obtain ⟨first, last, rfl⟩ := List.append_of_mem he
  refine ⟨first, e, last, rfl, hcreated, fun other hother response' hresponse' => ?_⟩
  have hmem' : ∀ {part : List (Exchange V)}, other ∈ part →
      response'.id ∈ (created part).map DatasetResponse.id :=
    fun hpart => List.mem_map_of_mem (List.mem_filterMap.mpr ⟨other, hpart, hresponse'⟩)
  rw [created_append, created, created, List.filterMap_cons_some hcreated, List.map_append,
    List.map_cons, List.nodup_append, List.nodup_cons] at hnodup
  rcases List.mem_append.mp hother with hfirst | hlast
  · exact hnodup.2.2 _ (hmem' hfirst) _ List.mem_cons_self
  · intro hid
    exact hnodup.2.1.1 (hid ▸ hmem' hlast)

/-- Each body is that of a registration. -/
theorem exists_registration (h : Trace (Exchange.Step tables table readers) World.fresh exchanges w)
    (hutc : ∀ e ∈ exchanges, e.operation.Utc) {response : DatasetResponse}
    (hmem : response ∈ created exchanges) :
    ∃ e ∈ exchanges, ∃ now reference asset,
      e.operation.request = .register response.id now reference ∧
      e.application.storageProvider.describe reference = .ok asset ∧
      response =
        .modelValidate tables (e.application.datasetService.datasetOf response.id now asset) := by
  obtain ⟨e, he, hcreated⟩ := List.mem_filterMap.mp hmem
  obtain ⟨first, last, rfl⟩ := List.append_of_mem he
  obtain ⟨w₁, w₂, m, hserves, hstep, -⟩ := serves_before h hutc
  obtain ⟨now, reference, asset, -, -, hregister, hdescribe, hbody, -⟩ :=
    hstep.stores hserves.represents hcreated
  exact ⟨e, he, now, reference, asset, hregister, hdescribe, hbody⟩

section Runs

variable {s : Server V} {before call between call' after : List (Server.Act V)}
  {thread thread' : Nat}
  {application application' : Application V} {request request' : Application.Request}
  {result result' : Except RouteError (Payload V)} {response : DatasetResponse}

/-- **What a client has been shown, every client is shown.** Once an answer has shown the body of a
dataset, every request that arrives afterwards, at whatever process, agrees: `GET` of its id finds
exactly this body and the listing has it, or the process does not serve; and no registration returns
a body under its id. In the whole run, before and after, no registration but this one has made a
body with its id. -/
theorem shown_is_served
    (h : Trace (Server.Step tables table readers) Server.fresh
      (before ++ call ++ between ++ call' ++ after) s)
    (hutc : ∀ e ∈ effects (before ++ call ++ between ++ call' ++ after), e.operation.Utc)
    (hcall : IsCall thread (application, request) result call)
    (hshows : request.Shows result response)
    (hcall' : IsCall thread' (application', request') result' call') :
    (request' = .get response.id → result' = .ok (.dataset response) ∨ result' = notServing) ∧
      (request' = .list →
        (∃ responses, result' = .ok (.datasets responses) ∧ response ∈ responses) ∨
          result' = notServing) ∧
      (∀ id now reference response', request' = .register id now reference →
        result' = .ok (.dataset response') →
        response'.id ≠ response.id) ∧
      ∃ first e last, effects (before ++ call ++ between ++ call' ++ after) = first ++ e :: last ∧
        e.created = some response ∧
        ∀ other ∈ first ++ last, ∀ response', other.created = some response' →
        response'.id ≠ response.id := by
  obtain ⟨first, e, middle, e', last, heffects, hrequest, hresult, hrequest', hresult'⟩ :=
    exists_effects_of_isCall (fun thread => ⟨_, requests_of_trace h thread⟩) hcall hcall'
  obtain ⟨rfl, rfl⟩ := Prod.mk.inj hrequest
  obtain ⟨rfl, rfl⟩ := Prod.mk.inj hrequest'
  subst hresult
  subst hresult'
  have htrace := exchanges_of_trace h
  rw [heffects] at htrace hutc ⊢
  obtain ⟨w₂, hinitial, hlater⟩ := htrace.split
  obtain ⟨w₃, hstep', -⟩ := hlater.of_cons
  have hutc₂ : ∀ x ∈ first ++ e :: middle, x.operation.Utc :=
    fun x hx => hutc x (List.mem_append_left _ hx)
  obtain ⟨m₂, hserves₂⟩ := serves hinitial hutc₂
  -- The body is among those created when the second request takes effect.
  have hmem : response ∈ created (first ++ e :: middle) :=
    mem_created_of_shows hinitial hutc₂ (List.mem_append_right _ List.mem_cons_self) hshows
  have hmemAll : response ∈ created (first ++ e :: middle ++ e' :: last) := by
    rw [created_append]
    exact List.mem_append_left _ hmem
  refine ⟨fun hget => ?_, fun hlist => ?_, ?_, exists_created_once htrace hutc hmemAll⟩
  · rcases hserves₂.result_of_get hstep' (Operation.get_of_request hget) with
      ⟨found, hfound, hid, hresult⟩ | ⟨hnone, -⟩ | hnone
    · left
      rw [hresult, List.inj_on_of_nodup_map hserves₂.nodup hfound hmem hid]
    · exact absurd rfl (hnone response hmem)
    · exact .inr hnone
  · rcases hserves₂.result_of_list hstep' (Operation.list_of_request hlist) with
      ⟨responses, hresult, hperm⟩ | hnone
    · exact .inl ⟨responses, hresult, hperm.mem_iff.mpr hmem⟩
    · exact .inr hnone
  · intro id now reference response' hregister hresult hid
    obtain ⟨faults, hoperation⟩ := Operation.register_of_request hregister
    have hcreated := Exchange.created_eq_some.mpr ⟨⟨_, _, _, _, hoperation⟩, hresult⟩
    have hutc₃ : ∀ x ∈ first ++ e :: middle ++ [e'], x.operation.Utc := by
      intro x hx
      rcases List.mem_append.mp hx with hold | hlast
      · exact hutc₂ x hold
      · rw [List.mem_singleton.mp hlast]
        exact hutc _ (List.mem_append_right _ List.mem_cons_self)
    obtain ⟨m₃, hserves₃⟩ := serves (hinitial.snoc hstep') hutc₃
    have hnodup := hserves₃.nodup
    rw [created_append, List.map_append, List.nodup_append] at hnodup
    apply hnodup.2.2 response.id (List.mem_map_of_mem hmem) response'.id _ hid.symm
    rw [created, List.filterMap_cons_some hcreated]
    exact List.mem_map_of_mem List.mem_cons_self

theorem sampleServer_utc :
    ∀ e ∈ effects (sampleStartup ++ sampleArrival ++ [] ++ sampleRequest ++ []),
      e.operation.Utc := by
  have hoperations : (effects (sampleStartup ++ sampleArrival ++ [] ++ sampleRequest ++ [])).map
      Exchange.operation =
      [.startup {}, .register ⟨7⟩ sampleNow {} "a/f.csv", .get ⟨7⟩] := rfl
  intro e he
  have hmem := List.mem_map_of_mem (f := Exchange.operation) he
  rw [hoperations] at hmem
  simp only [List.mem_cons, List.not_mem_nil, or_false] at hmem
  rcases hmem with hstartup | hregister | hget
  · rw [hstartup]
    exact trivial
  · rw [hregister]
    rfl
  · rw [hget]
    exact trivial

theorem shown_is_served_sample :
    Application.replies .ascii (.get ⟨7⟩)
      ((sampleApplication 0).concludes sampleReaders (.get ⟨7⟩) (.get ⟨7⟩)
        (.dataset (some sampleRegistered))) =
          .ok (.dataset (.modelValidate .ascii sampleRegistered)) ∨
      Application.replies .ascii (.get ⟨7⟩)
        ((sampleApplication 0).concludes sampleReaders (.get ⟨7⟩) (.get ⟨7⟩)
        (.dataset (some sampleRegistered))) = notServing := by
  obtain ⟨s, hrun⟩ := exists_sampleServer
  exact (shown_is_served hrun sampleServer_utc (Server.isCall_answering ..) (.created ..)
    (Server.isCall_answering ..)).1 rfl

/-- The end of a process takes effect as a shutdown. -/
theorem stop_is_shutdown {actions : List (Server.Act V)}
    (h : Trace (Server.Step tables table readers) Server.fresh actions s)
    {threads : Set Nat} (hmem : .stop threads e ∈ actions) : e.operation = .shutdown := by
  revert hmem
  apply h.invariant (I := fun actions _ =>
    Action.stop threads e ∈ actions → e.operation = .shutdown)
  · intro hnone
    cases hnone
  · intro actions s a s' _ ih hstep hmem
    rcases List.mem_append.mp hmem with hold | hlast
    · exact ih hold
    · obtain rfl := List.mem_singleton.mp hlast
      generalize hstop : Action.stop threads e = a at hstep
      cases hstep with
      | crash application =>
          obtain ⟨-, rfl⟩ := Action.stop.inj hstop
          rfl
      | receive | refuse | ask | work | effect | conclude | reply => cases hstop

/-- **What a client is shown, somebody has registered.** Every body in an answer is that of a
registration that some process was asked for before: it has the id and the time that this one drew,
and is the asset that the process's storage described for its reference. -/
theorem shown_was_registered
    (h : Trace (Server.Step tables table readers) Server.fresh (before ++ call ++ after) s)
    (hutc : ∀ e ∈ effects (before ++ call ++ after), e.operation.Utc)
    (hcall : IsCall thread (application, request) result call)
    (hshows : request.Shows result response) :
    ∃ thread' application' now reference asset,
      .invoke thread' (application', .register response.id now reference) ∈ before ++ call ∧
        application'.storageProvider.describe reference = .ok asset ∧
        response =
          .modelValidate tables (application'.datasetService.datasetOf response.id now asset) := by
  obtain ⟨s', hinitial, -⟩ := h.split
  have htrace := exchanges_of_trace hinitial
  have hutc' : ∀ e ∈ effects (before ++ call), e.operation.Utc := by
    intro e he
    apply hutc e
    rw [effects_append]
    exact List.mem_append_left _ he
  obtain ⟨p, -, hsegment⟩ := (requests_of_trace hinitial thread).split
  obtain ⟨e, hevent, hrequest, hresult⟩ := exists_effect_of_isCall hsegment hcall
  obtain ⟨-, rfl⟩ := Prod.mk.inj hrequest
  subst hresult
  have hshown : e ∈ effects (before ++ call) := by
    rw [effects_append]
    exact List.mem_append_right _ hevent
  obtain ⟨e', he', now, reference, asset, hregister, hdescribe, hbody⟩ :=
    exists_registration htrace hutc' (mem_created_of_shows htrace hutc' hshown hshows)
  obtain ⟨action, haction, hsome⟩ := List.mem_filterMap.mp he'
  cases action with
  | invoke | work | answer => cases hsome
  | stop threads event =>
      obtain rfl := Option.some.inj hsome
      rw [stop_is_shutdown hinitial haction] at hregister
      cases hregister
  | effect thread' event =>
      obtain rfl := Option.some.inj hsome
      refine ⟨thread', event.application, now, reference, asset, ?_, hdescribe, hbody⟩
      obtain ⟨earlier, later, hactions⟩ := List.append_of_mem haction
      have hphases := requests_of_trace hinitial thread'
      rw [hactions] at hphases ⊢
      have hinvoke := invoke_mem_of_effect hphases
      rw [Exchange.request, hregister] at hinvoke
      exact List.mem_append_left _ hinvoke

theorem shown_was_registered_sample :
    ∃ thread application now reference asset,
      .invoke thread (application, .register ⟨7⟩ now reference) ∈
        sampleStartup ++ sampleArrival ++ [] ++ sampleRequest ∧
        application.storageProvider.describe reference = .ok asset ∧
        DatasetResponse.modelValidate .ascii sampleRegistered =
          .modelValidate .ascii (application.datasetService.datasetOf ⟨7⟩ now asset) := by
  obtain ⟨s, hrun⟩ := exists_sampleServer
  exact shown_was_registered hrun sampleServer_utc (Server.isCall_answering ..) (.got ⟨7⟩ _)

end Runs

end Clients

end Athena
