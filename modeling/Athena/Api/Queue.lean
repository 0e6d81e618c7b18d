import Athena.Api.Overlap

/-!
# Each process runs its handlers in order

The handlers are coroutines that never await, so the event loop of a process runs them to their ends
one after another, in the order in which they became ready. `Server.Step` lets them overlap and
overtake, which is more than they do, and so says too little about who waits for whom. Here every
process has its queue, and only the handler at the head of it goes on; every run is one of the
server.

The lock of a repository is then free for the handler whose turn it is, which waits for nobody.
Whoever stands further back waits for those before it in its own queue and for nothing else, and
each of them is over after at most eight steps.
-/

namespace Athena

open Library Persistence

variable {V : Type}

/-- The process that has the handler still to run. -/
def Handler.pending : Handler V → Option Nat
  | .received application _ | .asking application _ _ => some application.repository
  | .idle | .replying _ _ => none

/-- The server, and for every process the threads of the handlers that it has still to run. -/
structure EventLoops (V : Type) where
  server : Server V
  ready : Nat → List Nat

namespace EventLoops

def fresh : EventLoops V := ⟨Server.fresh, fun _ => []⟩

inductive Step (tables : CaseTables) (table : Text.UpperTable) (readers : Readers V)
    (q : EventLoops V) :
    Server.Act V → EventLoops V → Prop
  | receive {thread : Nat} {application : Application V} {request : Application.Request}
      {server : Server V} (hstep :
        Server.Step tables table readers q.server (.invoke thread (application, request)) server) :
      Step tables table readers q (.invoke thread (application, request))
        ⟨server, Function.update q.ready application.repository
          (q.ready application.repository ++ [thread])⟩
  | run {thread object : Nat} {later : List Nat} {a : Server.Act V} {server : Server V}
      (hturn : q.ready object = thread :: later) (hworking : a.working = some thread)
      (hstep : Server.Step tables table readers q.server a server)
      (hpending : (server.handler thread).pending = some object) :
      Step tables table readers q a ⟨server, q.ready⟩
  /-- The handler is over, and the next one has its turn. -/
  | finish {thread object : Nat} {later : List Nat} {a : Server.Act V} {server : Server V}
      (hturn : q.ready object = thread :: later) (hworking : a.working = some thread)
      (hstep : Server.Step tables table readers q.server a server)
      (hpending : (server.handler thread).pending = none) :
      Step tables table readers q a ⟨server, Function.update q.ready object later⟩
  /-- The response is sent, whoever has the turn by then. -/
  | reply {thread : Nat} {result : Except RouteError (Payload V)} {server : Server V}
      (hstep : Server.Step tables table readers q.server (.answer thread result) server) :
      Step tables table readers q (.answer thread result) ⟨server, q.ready⟩
  | crash {threads : Set Nat} {e : Exchange V} {server : Server V}
      (hstep : Server.Step tables table readers q.server (.stop threads e) server) :
      Step tables table readers q (.stop threads e)
        ⟨server, Function.update q.ready e.application.repository []⟩

end EventLoops

/-! ### What a step of the server is to the handlers -/

/-- How many steps a call takes at most until it is answered. -/
def Persistence.ThreadState.remaining : ThreadState → Nat
  | .idle => 0
  | .acquiring _ _ => 7
  | .inside _ stage => stage.remaining + 1

theorem Persistence.ThreadState.remaining_le (thread : ThreadState) : thread.remaining ≤ 7 := by
  cases thread with
  | idle | acquiring => simp [remaining]
  | inside object stage =>
      have hstage := Persistence.remaining_le stage
      rw [remaining]
      omega

theorem Persistence.State.Step.remaining_lt {s s' : State} {a : State.Act} {thread : Nat}
    (h : State.Step s a s')
    (haction : a.working = some thread ∨ ∃ response, a = .answer thread response) :
    (s'.thread thread).remaining < (s.thread thread).remaining := by
  cases h with
  | invoke | crash => simp [Action.working] at haction
  | acquire hthread =>
      obtain rfl : _ = thread := by simpa [Action.working] using haction
      simp [hthread, ThreadState.remaining, Stage.remaining]
  | @work thread' object stage stage' event c hthread hwork =>
      have hless := hwork.remaining_lt
      obtain rfl : thread' = thread := by
        cases event <;> simpa [State.performing, Action.working] using haction
      simp [hthread, ThreadState.remaining, hless]
  | @release thread' object response hthread =>
      obtain rfl : thread' = thread := by simpa [Action.working] using haction
      simp [hthread, ThreadState.remaining]

namespace Server

/-- How many steps the handler of a thread takes at most until it is over. -/
def remaining (s : Server V) (thread : Nat) : Nat :=
  match s.handler thread with
  | .received _ _ => 8
  | .asking _ _ _ => (s.catalog.thread thread).remaining
  | .idle | .replying _ _ => 0

theorem remaining_le (s : Server V) (thread : Nat) : s.remaining thread ≤ 8 := by
  rw [remaining]
  split
  · exact le_rfl
  · have hcall := (s.catalog.thread thread).remaining_le
    omega
  · exact Nat.zero_le _
  · exact Nat.zero_le _

theorem remaining_congr {s s' : Server V} {thread : Nat}
    (hhandler : s'.handler thread = s.handler thread)
    (hcatalog : s'.catalog.thread thread = s.catalog.thread thread) :
    s'.remaining thread = s.remaining thread := by
  rw [remaining, remaining, hhandler, hcatalog]

section Step

variable {tables : CaseTables} {table : Text.UpperTable} {readers : Readers V} {s s' : Server V}
  {a : Act V} {thread : Nat}

/-- A handler that goes on comes closer to its end, stays with its process, and touches no other. -/
theorem Step.of_working (h : Step tables table readers s a s')
    (hworking : a.working = some thread) :
    (∃ object, (s.handler thread).pending = some object ∧
      ((s'.handler thread).pending = some object ∨
        ∃ application result, s'.handler thread = .replying application result)) ∧
      s'.remaining thread < s.remaining thread ∧
      ∀ other, other ≠ thread → s'.handler other = s.handler other ∧
        s'.catalog.thread other = s.catalog.thread other := by
  cases h with
  | receive | reply | crash => cases hworking
  | @refuse thread' application request e hthread hasks =>
      obtain rfl := Option.some.inj hworking
      refine ⟨⟨application.repository, by simp [hthread, Handler.pending], .inr ?_⟩, ?_, ?_⟩
      · exact ⟨_, _, Function.update_self ..⟩
      · simp [remaining, hthread]
      · exact fun other hne => ⟨Function.update_of_ne hne _ _, rfl⟩
  | @ask thread' application request asked catalog hthread hasks hstep =>
      obtain rfl := Option.some.inj hworking
      refine ⟨⟨application.repository, by simp [hthread, Handler.pending], .inl ?_⟩, ?_, ?_⟩
      · simp [Handler.pending]
      · have hcalls := (catalog.thread thread').remaining_le
        simp only [remaining, hthread, Function.update_self]
        omega
      · exact fun other hne => ⟨Function.update_of_ne hne _ _, hstep.others rfl hne⟩
  | @work thread' application request asked catalog hthread hstep =>
      obtain rfl := Option.some.inj hworking
      refine ⟨⟨application.repository, by simp [hthread, Handler.pending], .inl ?_⟩, ?_, ?_⟩
      · simp [hthread, Handler.pending]
      · simp only [remaining, hthread]
        exact hstep.remaining_lt (.inl rfl)
      · exact fun other hne => ⟨rfl, hstep.others rfl hne⟩
  | @effect thread' application request asked catalog event hthread hstep =>
      obtain rfl := Option.some.inj hworking
      refine ⟨⟨application.repository, by simp [hthread, Handler.pending], .inl ?_⟩, ?_, ?_⟩
      · simp [hthread, Handler.pending]
      · simp only [remaining, hthread]
        exact hstep.remaining_lt (.inl rfl)
      · exact fun other hne => ⟨rfl, hstep.others rfl hne⟩
  | @conclude thread' application request asked catalog response hthread hstep =>
      obtain rfl := Option.some.inj hworking
      refine ⟨⟨application.repository, by simp [hthread, Handler.pending], .inr ?_⟩, ?_, ?_⟩
      · exact ⟨_, _, Function.update_self ..⟩
      · have hless := hstep.remaining_lt (.inr ⟨response, rfl⟩)
        simp only [remaining, hthread, Function.update_self]
        omega
      · exact fun other hne => ⟨Function.update_of_ne hne _ _, hstep.others rfl hne⟩

theorem Step.of_invoke {application : Application V} {request : Application.Request}
    (h : Step tables table readers s (.invoke thread (application, request)) s') :
    s.handler thread = .idle ∧
      s' = ⟨s.catalog, Function.update s.handler thread (.received application request)⟩ := by
  generalize haction : Action.invoke thread (application, request) = a at h
  cases h with
  | receive hthread =>
      obtain ⟨rfl, hrequest⟩ := Action.invoke.inj haction
      obtain ⟨rfl, rfl⟩ := Prod.mk.inj hrequest
      exact ⟨hthread, rfl⟩
  | refuse | ask | work | effect | conclude | reply | crash => cases haction

theorem Step.of_answer {result : Except RouteError (Payload V)}
    (h : Step tables table readers s (.answer thread result) s') :
    ∃ application, s.handler thread = .replying application result ∧
      s' = ⟨s.catalog, Function.update s.handler thread .idle⟩ := by
  generalize haction : Action.answer thread result = a at h
  cases h with
  | reply hthread =>
      obtain ⟨rfl, rfl⟩ := Action.answer.inj haction
      exact ⟨_, hthread, rfl⟩
  | receive | refuse | ask | work | effect | conclude | crash => cases haction

theorem Step.of_stop (hinv : Inv table s) {threads : Set Nat} {e : Exchange V}
    (h : Step tables table readers s (.stop threads e) s') (thread : Nat) :
    if (s.handler thread).repository = some e.application.repository then s'.handler thread = .idle
    else s'.handler thread = s.handler thread ∧
      s'.catalog.thread thread = s.catalog.thread thread := by
  generalize haction : Action.stop threads e = a at h
  cases h with
  | @crash application threads' catalog hstep =>
      obtain ⟨-, rfl⟩ := Action.stop.inj haction
      split
      · rename_i hmem
        exact if_pos hmem
      · rename_i hmem
        exact ⟨if_neg hmem, (hinv.crash hstep thread).trans (if_neg hmem)⟩
  | receive | refuse | ask | work | effect | conclude | reply => cases haction

end Step

end Server

theorem Handler.repository_of_pending {handler : Handler V} {object : Nat}
    (h : handler.pending = some object) :
    handler.repository = some object := by
  cases handler with
  | idle | replying => cases h
  | received | asking => exact h

/-! ### What holds of the queues -/

namespace EventLoops

/-- A process has exactly those handlers to run that are not over, and has begun with the first
only. -/
structure Inv (table : Text.UpperTable) (q : EventLoops V) : Prop where
  server : q.server.Inv table
  mem_ready : ∀ thread object, thread ∈ q.ready object ↔
    (q.server.handler thread).pending = some object
  nodup : ∀ object, (q.ready object).Nodup
  received : ∀ {object first later}, q.ready object = first :: later → ∀ thread ∈ later,
    ∃ application request, q.server.handler thread = .received application request

theorem inv_fresh (table : Text.UpperTable) : Inv table (fresh : EventLoops V) where
  server := Server.inv_fresh table
  mem_ready thread object := by simp [fresh, Server.fresh, Handler.pending]
  nodup object := List.nodup_nil
  received h := by cases h

variable {tables : CaseTables} {table : Text.UpperTable} {readers : Readers V} {q q' : EventLoops V}
  {a : Server.Act V} {thread object : Nat} {actions later : List (Server.Act V)}

/-- A run of the queues is one of the server. -/
theorem Step.server (h : Step tables table readers q a q') :
    Server.Step tables table readers q.server a q'.server := by
  cases h with
  | receive hstep | run _ _ hstep | finish _ _ hstep | reply hstep | crash hstep => exact hstep

theorem server_of_trace (h : Trace (Step tables table readers) fresh actions q) :
    Trace (Server.Step tables table readers) Server.fresh actions q.server := by
  have hsimulates : ∃ s, Trace (Server.Step tables table readers) Server.fresh actions s ∧
      q.server = s := by
    apply h.simulate (R := fun q s => q.server = s) rfl
    intro q a q' s hs hstep
    exact ⟨_, hs ▸ hstep.server, rfl⟩
  obtain ⟨s, htrace, rfl⟩ := hsimulates
  exact htrace

theorem Inv.not_mem (h : Inv table q) (hpending : (q.server.handler thread).pending = none)
    (object : Nat) :
    thread ∉ q.ready object := by
  rw [h.mem_ready, hpending]
  simp

/-- A handler is in one queue at most. -/
theorem Inv.object_unique (h : Inv table q) {object' : Nat} (hmem : thread ∈ q.ready object)
    (hmem' : thread ∈ q.ready object') : object = object' :=
  Option.some.inj
    (((h.mem_ready thread object).mp hmem).symm.trans ((h.mem_ready thread object').mp hmem'))

/-- A step of one handler changes one queue at most, and there it comes or goes. -/
theorem Inv.update (h : Inv table q) {server : Server V} {queue : List Nat}
    (hserver : server.Inv table)
    (hothers : ∀ other, other ≠ thread → server.handler other = q.server.handler other)
    (helsewhere : ∀ object', object' ≠ object → thread ∉ q.ready object')
    (hpending : (server.handler thread).pending = if thread ∈ queue then some object else none)
    (hkept : ∀ other, other ≠ thread → (other ∈ queue ↔ other ∈ q.ready object))
    (hnodup : queue.Nodup)
    (hreceived : ∀ {first later}, queue = first :: later → ∀ other ∈ later,
      ∃ application request, server.handler other = .received application request) :
    Inv table ⟨server, Function.update q.ready object queue⟩ := by
  refine ⟨hserver, fun other object' => ?_, fun object' => ?_, ?_⟩
  · show other ∈ Function.update q.ready object queue object' ↔ _
    by_cases hsame : other = thread
    · subst hsame
      by_cases hobject : object' = object
      · subst hobject
        simp [hpending]
      · rw [Function.update_of_ne hobject, hpending]
        refine iff_of_false (helsewhere object' hobject) ?_
        split
        · exact fun hsome => hobject (Option.some.inj hsome).symm
        · exact fun hsome => nomatch hsome
    · rw [hothers other hsame, ← h.mem_ready]
      by_cases hobject : object' = object
      · rw [hobject, Function.update_self]
        exact hkept other hsame
      · rw [Function.update_of_ne hobject]
  · show (Function.update q.ready object queue object').Nodup
    by_cases hobject : object' = object
    · rw [hobject, Function.update_self]
      exact hnodup
    · rw [Function.update_of_ne hobject]
      exact h.nodup object'
  · intro object' first later hready other hother
    change Function.update q.ready object queue object' = first :: later at hready
    by_cases hobject : object' = object
    · rw [hobject, Function.update_self] at hready
      exact hreceived hready other hother
    · rw [Function.update_of_ne hobject] at hready
      have hne : other ≠ thread := by
        rintro rfl
        apply helsewhere object' hobject
        rw [hready]
        exact List.mem_cons_of_mem _ hother
      obtain ⟨application, request, hhandler⟩ := h.received hready other hother
      exact ⟨application, request, (hothers other hne).trans hhandler⟩

theorem Inv.receive (h : Inv table q) {application : Application V} {request : Application.Request}
    {server : Server V}
    (hstep :
      Server.Step tables table readers q.server (.invoke thread (application, request)) server) :
    Inv table ⟨server, Function.update q.ready application.repository
      (q.ready application.repository ++ [thread])⟩ := by
  have hserver := h.server.step hstep
  obtain ⟨hidle, rfl⟩ := hstep.of_invoke
  have hnew : ∀ object, thread ∉ q.ready object := h.not_mem (by rw [hidle]; rfl)
  have hothers : ∀ other, other ≠ thread →
      Function.update q.server.handler thread (.received application request) other =
        q.server.handler other := fun _ hne => Function.update_of_ne hne _ _
  refine h.update hserver hothers (fun object' _ => hnew object') ?_ ?_ ?_ ?_
  · simp [Handler.pending]
  · simp +contextual
  · rw [← List.concat_eq_append]
    exact List.Nodup.concat (hnew _) (h.nodup _)
  · intro first later hqueue other hother
    show ∃ application' request', Function.update q.server.handler _ _ other = _
    by_cases hsame : other = thread
    · rw [hsame, Function.update_self]
      exact ⟨application, request, rfl⟩
    rw [hothers other hsame]
    cases hready : q.ready application.repository with
    | nil =>
        rw [hready] at hqueue
        obtain ⟨-, rfl⟩ := List.cons.inj hqueue
        cases hother
    | cons first' later' =>
        rw [hready] at hqueue
        obtain ⟨-, rfl⟩ := List.cons.inj hqueue
        rcases List.mem_append.mp hother with hmem | hmem
        · exact h.received hready other hmem
        · exact absurd (List.mem_singleton.mp hmem) hsame

/-- The handler whose turn it is goes on or is over. -/
theorem Inv.working (h : Inv table q) {server : Server V} {later : List Nat}
    (hturn : q.ready object = thread :: later) (hworking : a.working = some thread)
    (hstep : Server.Step tables table readers q.server a server) :
    ((server.handler thread).pending = some object → Inv table ⟨server, q.ready⟩) ∧
      ((server.handler thread).pending = none →
        Inv table ⟨server, Function.update q.ready object later⟩) := by
  have hserver := h.server.step hstep
  obtain ⟨-, -, hsame⟩ := hstep.of_working hworking
  have hothers : ∀ other, other ≠ thread → server.handler other = q.server.handler other :=
    fun other hne => (hsame other hne).1
  have hmem : thread ∈ q.ready object := by
    rw [hturn]
    exact List.mem_cons_self
  have helsewhere : ∀ object', object' ≠ object → thread ∉ q.ready object' :=
    fun object' hne hmem' => hne (h.object_unique hmem' hmem)
  have hnodup := h.nodup object
  rw [hturn, List.nodup_cons] at hnodup
  have hwaiting : ∀ other ∈ later, ∃ application request,
      server.handler other = .received application request := by
    intro other hother
    obtain ⟨application, request, hhandler⟩ := h.received hturn other hother
    refine ⟨application, request, (hothers other ?_).trans hhandler⟩
    rintro rfl
    exact hnodup.1 hother
  constructor
  · intro hpending
    have hrun : Inv table ⟨server, Function.update q.ready object (q.ready object)⟩ := by
      refine h.update hserver hothers helsewhere ?_ (fun _ _ => Iff.rfl) (h.nodup object) ?_
      · rw [if_pos hmem, hpending]
      · intro first later' hqueue other hother
        obtain ⟨-, rfl⟩ := List.cons.inj (hturn.symm.trans hqueue)
        exact hwaiting other hother
    rwa [Function.update_eq_self] at hrun
  · intro hpending
    refine h.update hserver hothers helsewhere ?_ ?_ hnodup.2 ?_
    · rw [if_neg hnodup.1, hpending]
    · intro other hne
      rw [hturn, List.mem_cons, or_iff_right hne]
    · rintro first later' rfl other hother
      exact hwaiting other (List.mem_cons_of_mem _ hother)

theorem Inv.reply (h : Inv table q) {result : Except RouteError (Payload V)} {server : Server V}
    (hstep : Server.Step tables table readers q.server (.answer thread result) server) :
    Inv table ⟨server, q.ready⟩ := by
  have hserver := h.server.step hstep
  obtain ⟨application, hreplying, rfl⟩ := hstep.of_answer
  have hnone : ∀ object, thread ∉ q.ready object := h.not_mem (by rw [hreplying]; rfl)
  have hreplied : Inv table ⟨⟨q.server.catalog, Function.update q.server.handler thread .idle⟩,
      Function.update q.ready application.repository (q.ready application.repository)⟩ := by
    refine h.update hserver (fun _ hne => Function.update_of_ne hne _ _)
      (fun object' _ => hnone object') ?_ (fun _ _ => Iff.rfl) (h.nodup _) ?_
    · simp [hnone, Handler.pending]
    · intro first later hqueue other hother
      have hne : other ≠ thread := by
        rintro rfl
        apply hnone application.repository
        rw [hqueue]
        exact List.mem_cons_of_mem _ hother
      obtain ⟨application', request, hhandler⟩ := h.received hqueue other hother
      exact ⟨application', request, (Function.update_of_ne hne _ _).trans hhandler⟩
  rwa [Function.update_eq_self] at hreplied

theorem Inv.crash (h : Inv table q) {threads : Set Nat} {e : Exchange V} {server : Server V}
    (hstep : Server.Step tables table readers q.server (.stop threads e) server) :
    Inv table ⟨server, Function.update q.ready e.application.repository []⟩ := by
  refine ⟨h.server.step hstep, fun other object => ?_, fun object => ?_, ?_⟩
  · have hother := hstep.of_stop h.server other
    show other ∈ Function.update q.ready _ [] object ↔ (server.handler other).pending = some object
    split at hother
    · rename_i hdies
      rw [hother]
      by_cases hobject : object = e.application.repository
      · simp [hobject, Handler.pending]
      · rw [Function.update_of_ne hobject]
        simp only [Handler.pending, reduceCtorEq, iff_false]
        intro hmem
        have hrepository := Handler.repository_of_pending ((h.mem_ready other object).mp hmem)
        exact hobject (Option.some.inj (hrepository.symm.trans hdies))
    · rename_i hlives
      rw [hother.1]
      by_cases hobject : object = e.application.repository
      · rw [hobject, Function.update_self]
        simp only [List.not_mem_nil, false_iff]
        exact fun hpending => hlives (Handler.repository_of_pending hpending)
      · rw [Function.update_of_ne hobject]
        exact h.mem_ready other object
  · show (Function.update q.ready _ [] object).Nodup
    by_cases hobject : object = e.application.repository
    · rw [hobject, Function.update_self]
      exact List.nodup_nil
    · rw [Function.update_of_ne hobject]
      exact h.nodup object
  · intro object first later hready other hother
    change Function.update q.ready _ [] object = first :: later at hready
    by_cases hobject : object = e.application.repository
    · rw [hobject, Function.update_self] at hready
      cases hready
    · rw [Function.update_of_ne hobject] at hready
      have hlives := hstep.of_stop h.server other
      have hpending :=
        (h.mem_ready other object).mp (by rw [hready]; exact List.mem_cons_of_mem _ hother)
      rw [Handler.repository_of_pending hpending, if_neg (by simpa using hobject)] at hlives
      rw [hlives.1]
      exact h.received hready other hother

theorem Inv.step (h : Inv table q) (hstep : Step tables table readers q a q') : Inv table q' := by
  cases hstep with
  | receive hstep => exact h.receive hstep
  | run hturn hworking hstep hpending => exact (h.working hturn hworking hstep).1 hpending
  | finish hturn hworking hstep hpending => exact (h.working hturn hworking hstep).2 hpending
  | reply hstep => exact h.reply hstep
  | crash hstep => exact h.crash hstep

theorem inv_of_trace (h : Trace (Step tables table readers) fresh actions q) : Inv table q :=
  Trace.invariant (I := fun _ q => Inv table q) h (inv_fresh table) fun _ _ _ _ _ hinv hstep =>
    hinv.step hstep

/-! ### Nobody waits for ever -/

/-- The lock is free for the handler whose turn it is. -/
theorem Inv.free (h : Inv table q) {first : Nat} {behind : List Nat}
    (hturn : q.ready object = first :: behind)
    {request : Request} (hthread : q.server.catalog.thread first = .acquiring object request) :
    q.server.catalog.owner object = none := by
  cases howner : q.server.catalog.owner object with
  | none => rfl
  | some other =>
      -- The owner would be inside a call of this process, so it would have the turn itself.
      obtain ⟨stage, hinside⟩ := h.server.catalog.inside howner
      have hne : other ≠ first := by
        rintro rfl
        rw [hthread] at hinside
        cases hinside
      obtain ⟨application, request', asked, hasking⟩ :
          ∃ application request' asked,
            q.server.handler other = .asking application request' asked := by
        by_contra hnone
        push Not at hnone
        rw [h.server.idle hnone] at hinside
        cases hinside
      have hobject := (h.server.asking hasking).2.1
      rw [hinside] at hobject
      have hmem : other ∈ q.ready object := by
        rw [h.mem_ready, hasking]
        exact hobject.symm
      rw [hturn, List.mem_cons, or_iff_right hne] at hmem
      obtain ⟨application', request'', hreceived⟩ := h.received hturn other hmem
      cases hasking.symm.trans hreceived

/-- The handler whose turn it is can go on. -/
theorem Inv.exists_turn (h : Inv table q) (tables : CaseTables) (readers : Readers V) {first : Nat}
    {behind : List Nat} (hturn : q.ready object = first :: behind) :
    ∃ a q', a.working = some first ∧ Step tables table readers q a q' := by
  have hmem : first ∈ q.ready object := by
    rw [hturn]
    exact List.mem_cons_self
  have hpending := (h.mem_ready first object).mp hmem
  suffices hserver : ∃ a server, a.working = some first ∧
      Server.Step tables table readers q.server a server by
    obtain ⟨a, server, hworking, hstep⟩ := hserver
    obtain ⟨⟨object', hobject', hafter⟩, -⟩ := hstep.of_working hworking
    obtain rfl : object = object' := Option.some.inj (hpending.symm.trans hobject')
    rcases hafter with hruns | ⟨application, result, hover⟩
    · exact ⟨a, _, hworking, .run hturn hworking hstep hruns⟩
    · exact ⟨a, _, hworking, .finish hturn hworking hstep (by rw [hover]; rfl)⟩
  cases hhandler : q.server.handler first with
  | idle | replying =>
      rw [hhandler] at hpending
      cases hpending
  | received application request =>
      cases hasks : application.asks table request with
      | error e => exact ⟨_, _, rfl, .refuse hhandler hasks⟩
      | ok asked =>
          have hidle : q.server.catalog.thread first = .idle := h.server.idle (by simp [hhandler])
          exact ⟨.work first, _, rfl,
            .ask hhandler hasks (.invoke hidle application.repository asked)⟩
  | asking application request asked =>
      obtain ⟨-, hobject, -⟩ := h.server.asking hhandler
      rw [hhandler] at hpending
      obtain rfl : application.repository = object := Option.some.inj hpending
      cases hcatalog : q.server.catalog.thread first with
      | idle =>
          rw [hcatalog] at hobject
          cases hobject
      | acquiring object' call =>
          obtain rfl : object' = application.repository := by
            rw [hcatalog] at hobject
            exact Option.some.inj hobject
          exact ⟨.work first, _, rfl, .work hhandler (.acquire hcatalog (h.free hturn hcatalog))⟩
      | inside object' stage =>
          rcases exists_work object' (q.server.catalog.scope object') stage with
            ⟨response, rfl⟩ | ⟨event, stage', c, hwork⟩
          · exact ⟨.work first, _, rfl, .conclude hhandler (.release hcatalog)⟩
          · cases event with
            | none => exact ⟨.work first, _, rfl, .work hhandler (.work hcatalog hwork)⟩
            | some event => exact ⟨.effect first _, _, rfl, .effect hhandler (.work hcatalog hwork)⟩

/-- How many steps these handlers take at most. -/
def load (q : EventLoops V) : List Nat → Nat
  | [] => 0
  | thread :: threads => q.server.remaining thread + q.load threads

theorem load_le (q : EventLoops V) (threads : List Nat) : q.load threads ≤ 8 * threads.length := by
  induction threads with
  | nil => exact Nat.le_refl 0
  | cons thread threads ih =>
      have hthread := q.server.remaining_le thread
      rw [load, List.length_cons]
      omega

theorem remaining_le_load (q : EventLoops V) {threads : List Nat} (h : thread ∈ threads) :
    q.server.remaining thread ≤ q.load threads := by
  induction threads with
  | nil => cases h
  | cons first threads ih =>
      rw [load]
      rcases List.mem_cons.mp h with rfl | hlater
      · exact Nat.le_add_right _ _
      · exact Nat.le_add_left_of_le (ih hlater)

theorem load_congr {threads : List Nat} (h : ∀ thread ∈ threads,
    q'.server.handler thread = q.server.handler thread ∧
      q'.server.catalog.thread thread = q.server.catalog.thread thread) :
        q'.load threads = q.load threads := by
  induction threads with
  | nil => rfl
  | cons first threads ih =>
      obtain ⟨hhandler, hcatalog⟩ := h first List.mem_cons_self
      rw [load, load, Server.remaining_congr hhandler hcatalog,
        ih fun thread hmem => h thread (List.mem_cons_of_mem _ hmem)]

section Place

variable {before behind : List Nat}

theorem head_mem {first : Nat} {later : List Nat}
    (hready : q.ready object = before ++ thread :: behind)
    (hturn : q.ready object = first :: later) : first ∈ before ++ [thread] := by
  rw [hready] at hturn
  cases before with
  | nil =>
      obtain ⟨rfl, -⟩ := List.cons.inj hturn
      exact List.mem_cons_self
  | cons first' before =>
      obtain ⟨rfl, -⟩ := List.cons.inj hturn
      exact List.mem_cons_self

/-- Only the heads of the queues are at work. -/
theorem Step.of_working (hstep : Step tables table readers q a q') {other : Nat}
    (hworking : a.working = some other) :
    ∃ object later, q.ready object = other :: later := by
  cases hstep with
  | receive | reply | crash => cases hworking
  | run hturn hworking' | finish hturn hworking' =>
      obtain rfl := Option.some.inj (hworking.symm.trans hworking')
      exact ⟨_, _, hturn⟩

/-- A step of the process brings the handler closer to its turn or to its end, or is the last one of
it. -/
theorem Inv.of_turn (h : Inv table q) (hready : q.ready object = before ++ thread :: behind)
    (hstep : Step tables table readers q a q') {other : Nat} (hother : other ∈ before ++ [thread])
    (hworking : a.working = some other) :
    (∃ before', before' <:+ before ∧ q'.ready object = before' ++ thread :: behind ∧
        q'.load (before' ++ [thread]) < q.load (before ++ [thread])) ∨
      q'.ready object = behind ∧
      ∃ application result, q'.server.handler thread = .replying application result := by
  have hmem : other ∈ q.ready object := by
    rw [hready, List.append_cons]
    exact List.mem_append_left _ hother
  have hnodup := h.nodup object
  rw [hready] at hnodup
  have hserver := hstep.server
  obtain ⟨⟨object', hobject', hafter⟩, hless, hothers⟩ := hserver.of_working hworking
  obtain rfl : object = object' :=
    Option.some.inj (((h.mem_ready other object).mp hmem).symm.trans hobject')
  have hrest : ∀ rest, before = other :: rest →
      q'.load (rest ++ [thread]) = q.load (rest ++ [thread]) := by
    rintro rest rfl
    refine load_congr fun t ht => hothers t ?_
    rintro rfl
    rw [List.cons_append, List.nodup_cons, List.append_cons] at hnodup
    exact hnodup.1 (List.mem_append_left _ ht)
  cases hstep with
  | receive | reply | crash => cases hworking
  | @run first object' later _ server hturn hworking' _ hpending =>
      obtain rfl : first = other := Option.some.inj (hworking'.symm.trans hworking)
      obtain rfl := h.object_unique hmem (by rw [hturn]; exact List.mem_cons_self)
      left
      refine ⟨before, List.suffix_refl before, hready, ?_⟩
      cases before with
      | nil =>
          obtain ⟨rfl, -⟩ := List.cons.inj (hready.symm.trans hturn)
          simpa [load] using hless
      | cons first' before =>
          obtain ⟨rfl, -⟩ := List.cons.inj (hready.symm.trans hturn)
          rw [List.cons_append, load, load, hrest before rfl]
          exact Nat.add_lt_add_right hless _
  | @finish first object' later _ server hturn hworking' _ hpending =>
      obtain rfl : first = other := Option.some.inj (hworking'.symm.trans hworking)
      obtain rfl := h.object_unique hmem (by rw [hturn]; exact List.mem_cons_self)
      have hlater : Function.update q.ready object later object = later := Function.update_self ..
      rw [hready] at hturn
      cases before with
      | nil =>
          obtain ⟨rfl, rfl⟩ := List.cons.inj hturn
          right
          refine ⟨hlater, ?_⟩
          rcases hafter with hruns | hover
          · cases hpending.symm.trans hruns
          · exact hover
      | cons first' before =>
          rw [List.cons_append] at hturn
          obtain ⟨rfl, rfl⟩ := List.cons.inj hturn
          left
          refine ⟨before, List.suffix_cons _ before, hlater, ?_⟩
          rw [List.cons_append, load, hrest before rfl]
          omega

/-- Any other step after which the handler still waits leaves it its place. -/
theorem Inv.of_elsewhere (h : Inv table q) (hready : q.ready object = before ++ thread :: behind)
    (hstep : Step tables table readers q a q')
    (hothers : ∀ other ∈ before ++ [thread], a.working ≠ some other)
    (hwaits : thread ∈ q'.ready object) :
    ∃ behind', q'.ready object = before ++ thread :: behind' ∧
      q'.load (before ++ [thread]) = q.load (before ++ [thread]) := by
  have hmem : ∀ t ∈ before ++ [thread], t ∈ q.ready object := by
    intro t ht
    rw [hready, List.append_cons]
    exact List.mem_append_left _ ht
  have hkept : ∀ {t}, t ∈ before ++ [thread] → ∀ {other}, (q.server.handler other).pending = none →
      t ≠ other := by
    rintro t ht other hpending rfl
    exact h.not_mem hpending object (hmem t ht)
  cases hstep with
  | @receive other application request server hstep =>
      obtain ⟨hidle, rfl⟩ := hstep.of_invoke
      have hload : load ⟨⟨q.server.catalog,
          Function.update q.server.handler other (.received application request)⟩,
          Function.update q.ready application.repository
            (q.ready application.repository ++ [other])⟩
          (before ++ [thread]) = q.load (before ++ [thread]) := by
        refine load_congr fun t ht => ⟨Function.update_of_ne ?_ _ _, rfl⟩
        exact hkept ht (by rw [hidle]; rfl)
      by_cases hobject : object = application.repository
      · refine ⟨behind ++ [other], ?_, hload⟩
        show Function.update q.ready _ _ object = _
        rw [← hobject, Function.update_self, hready, List.append_assoc, List.cons_append]
      · refine ⟨behind, ?_, hload⟩
        show Function.update q.ready _ _ object = _
        rw [Function.update_of_ne hobject, hready]
  | @run first object' later _ server hturn hworking hstep hpending =>
      obtain ⟨-, -, hsame⟩ := hstep.of_working hworking
      refine ⟨behind, hready, load_congr fun t ht => hsame t ?_⟩
      rintro rfl
      exact hothers t ht hworking
  | @finish first object' later _ server hturn hworking hstep hpending =>
      obtain ⟨-, -, hsame⟩ := hstep.of_working hworking
      refine ⟨behind, ?_, load_congr fun t ht => hsame t ?_⟩
      · show Function.update q.ready object' later object = _
        rw [Function.update_of_ne, hready]
        rintro rfl
        exact hothers first (head_mem hready hturn) hworking
      · rintro rfl
        exact hothers t ht hworking
  | @reply other result server hstep =>
      obtain ⟨application, hreplying, rfl⟩ := hstep.of_answer
      refine ⟨behind, hready, load_congr fun t ht => ⟨Function.update_of_ne ?_ _ _, rfl⟩⟩
      exact hkept ht (by rw [hreplying]; rfl)
  | @crash threads e server hstep =>
      have hobject : object ≠ e.application.repository := by
        rintro rfl
        change thread ∈ Function.update q.ready _ [] _ at hwaits
        rw [Function.update_self] at hwaits
        cases hwaits
      refine ⟨behind, ?_, load_congr fun t ht => ?_⟩
      · show Function.update q.ready _ [] object = _
        rw [Function.update_of_ne hobject, hready]
      · have ht := Handler.repository_of_pending ((h.mem_ready t object).mp (hmem t ht))
        have hstopped := hstep.of_stop h.server t
        rwa [ht, if_neg (by simpa using hobject)] at hstopped

theorem Inv.exists_turn_before (h : Inv table q) (tables : CaseTables) (readers : Readers V)
    (hready : q.ready object = before ++ thread :: behind) :
    ∃ a q' first, first ∈ before ++ [thread] ∧ a.working = some first ∧
      Step tables table readers q a q' := by
  cases hturn : q.ready object with
  | nil =>
      rw [hturn] at hready
      exact absurd hready.symm (by simp)
  | cons first later =>
      obtain ⟨a, q', hworking, hstep⟩ := h.exists_turn tables readers hturn
      exact ⟨a, q', first, head_mem hready hturn, hworking, hstep⟩

theorem Inv.load_pos (h : Inv table q) (tables : CaseTables) (readers : Readers V)
    (hready : q.ready object = before ++ thread :: behind) : 0 < q.load (before ++ [thread]) := by
  obtain ⟨a, q', first, hfirst, hworking, hstep⟩ := h.exists_turn_before tables readers hready
  have hload := q.remaining_le_load hfirst
  obtain ⟨-, hless, -⟩ := hstep.server.of_working hworking
  omega

/-- The handler is run and answered, once those before it are over. -/
theorem Inv.exists_answer (h : Inv table q) (tables : CaseTables) (readers : Readers V)
    (hready : q.ready object = before ++ thread :: behind) :
    ∃ later result q', Trace (Step tables table readers) q (later ++ [.answer thread result]) q' ∧
      later.length ≤ q.load (before ++ [thread]) ∧
      (∀ a ∈ later, ∃ other ∈ before ++ [thread], a.working = some other) ∧
      q'.ready object = behind := by
  induction hn : q.load (before ++ [thread]) using Nat.strong_induction_on generalizing q
    before with
  | _ n ih =>
      obtain ⟨a, q₁, first, hfirst, hworking, hstep⟩ := h.exists_turn_before tables readers hready
      rcases h.of_turn hready hstep hfirst hworking with
        ⟨before', hsuffix, hready', hless⟩ | ⟨hready', application, result, hover⟩
      · obtain ⟨later, result, q', htrace, hlength, hothers, hbehind⟩ :=
          ih _ (hn ▸ hless) (h.step hstep) hready' rfl
        refine ⟨a :: later, result, q', htrace.cons hstep, ?_, ?_, hbehind⟩
        · rw [List.length_cons]
          omega
        · intro b hb
          rcases List.mem_cons.mp hb with rfl | hlater
          · exact ⟨first, hfirst, hworking⟩
          · obtain ⟨other, hother, hb⟩ := hothers b hlater
            refine ⟨other, ?_, hb⟩
            rcases List.mem_append.mp hother with hbefore | hthread
            · exact List.mem_append_left _ (hsuffix.subset hbefore)
            · exact List.mem_append_right _ hthread
      · have hload := h.load_pos tables readers hready
        refine ⟨[a], result, _, .cons hstep (.single (.reply (.reply hover))), ?_, ?_, hready'⟩
        · rw [List.length_singleton]
          omega
        · intro b hb
          rw [List.mem_singleton.mp hb]
          exact ⟨first, hfirst, hworking⟩

/-- A run in which the handler of the thread has still to be run, with how many steps its process
takes. -/
inductive Waiting (tables : CaseTables) (table : Text.UpperTable) (readers : Readers V)
    (object thread : Nat) (q : EventLoops V) : List (Server.Act V) → Nat → EventLoops V → Prop
  | start : Waiting tables table readers object thread q [] 0 q
  | turn {later : List (Server.Act V)} {n other : Nat} {q' q'' : EventLoops V} {a : Server.Act V} :
      Waiting tables table readers object thread q later n q' → Step tables table readers q' a q'' →
      a.working = some other → other ∈ q'.ready object → thread ∈ q''.ready object →
      Waiting tables table readers object thread q (later ++ [a]) (n + 1) q''
  | elsewhere {later : List (Server.Act V)} {n : Nat} {q' q'' : EventLoops V} {a : Server.Act V} :
      Waiting tables table readers object thread q later n q' → Step tables table readers q' a q'' →
      (∀ other ∈ q'.ready object, a.working ≠ some other) → thread ∈ q''.ready object →
      Waiting tables table readers object thread q (later ++ [a]) n q''

/-- While a handler waits, every step of its process is one of the steps that those before it and
itself have. -/
theorem Inv.of_waiting (h : Inv table q) (hready : q.ready object = before ++ thread :: behind)
    {n : Nat} (hwaiting : Waiting tables table readers object thread q later n q') :
    Inv table q' ∧ ∃ before' behind', before' <:+ before ∧
      q'.ready object = before' ++ thread :: behind' ∧
      n + q'.load (before' ++ [thread]) ≤ q.load (before ++ [thread]) := by
  induction hwaiting with
  | start => exact ⟨h, before, behind, List.suffix_refl before, hready, by omega⟩
  | @turn later n other q' q'' a _ hstep hworking hother hwaits ih =>
      obtain ⟨hinv, before', behind', hsuffix, hready', hsteps⟩ := ih
      obtain ⟨object', waiting, hturn⟩ := hstep.of_working hworking
      obtain rfl := hinv.object_unique hother (by rw [hturn]; exact List.mem_cons_self)
      have hbefore := head_mem hready' hturn
      refine ⟨hinv.step hstep, ?_⟩
      rcases hinv.of_turn hready' hstep hbefore hworking with
        ⟨before'', hsuffix', hready'', hless⟩ | ⟨hbehind, -⟩
      · exact ⟨before'', behind', hsuffix'.trans hsuffix, hready'', by omega⟩
      · have hnodup := hinv.nodup object
        rw [hready', List.nodup_append, List.nodup_cons] at hnodup
        rw [hbehind] at hwaits
        exact absurd hwaits hnodup.2.1.1
  | @elsewhere later n q' q'' a _ hstep hothers hwaits ih =>
      obtain ⟨hinv, before', behind', hsuffix, hready', hsteps⟩ := ih
      have hothers' : ∀ other ∈ before' ++ [thread], a.working ≠ some other := by
        intro other hother
        apply hothers other
        rw [hready', List.append_cons]
        exact List.mem_append_left _ hother
      obtain ⟨behind'', hready'', hload⟩ := hinv.of_elsewhere hready' hstep hothers' hwaits
      exact ⟨hinv.step hstep, before', behind'', hsuffix, hready'', by omega⟩

end Place

/-- **No request waits for ever.** From every state that can be reached, a request that has arrived,
and whose process lives, either has its response ready or is in the queue of one process. With `n`
others before it there, it can be answered after at most `8 (n + 1)` steps, all of them of these
handlers or its own, and those behind it are then left. And however the steps of all processes come:
for as long as it waits, its process takes fewer steps than that, and nobody gets before it. -/
theorem requests_are_answered (h : Trace (Step tables table readers) fresh actions q) :
    (∀ thread, q.server.handler thread ≠ .idle →
      (∃ application result, q.server.handler thread = .replying application result) ∨
        ∃ object, thread ∈ q.ready object) ∧
    ∀ object before thread behind, q.ready object = before ++ thread :: behind →
      (∃ later result q',
        Trace (Step tables table readers) q (later ++ [.answer thread result]) q' ∧
        later.length ≤ 8 * (before.length + 1) ∧
        (∀ a ∈ later, ∃ other ∈ before ++ [thread], a.working = some other) ∧
          q'.ready object = behind) ∧
      ∀ later n q', Waiting tables table readers object thread q later n q' →
        n < 8 * (before.length + 1) ∧
          ∃ before' behind', before' <:+ before ∧
          q'.ready object = before' ++ thread :: behind' := by
  have hinv := inv_of_trace h
  refine ⟨fun thread hthread => ?_, fun object before thread behind hready => ?_⟩
  · cases hhandler : q.server.handler thread with
    | idle => exact absurd hhandler hthread
    | replying application result => exact .inl ⟨application, result, rfl⟩
    | received application | asking application =>
        exact .inr ⟨application.repository, (hinv.mem_ready _ _).mpr (by rw [hhandler]; rfl)⟩
  have hload := q.load_le (before ++ [thread])
  rw [List.length_append, List.length_singleton] at hload
  refine ⟨?_, fun later n q' hwaiting => ?_⟩
  · obtain ⟨later, result, q', htrace, hlength, hothers, hbehind⟩ :=
      hinv.exists_answer tables readers hready
    exact ⟨later, result, q', htrace, hlength.trans hload, hothers, hbehind⟩
  · obtain ⟨hinv', before', behind', hsuffix, hready', hsteps⟩ := hinv.of_waiting hready hwaiting
    have hpos := hinv'.load_pos tables readers hready'
    exact ⟨by omega, before', behind', hsuffix, hready'⟩

/-- Two requests arrive while the process starts. -/
theorem requests_are_answered_sample :
    ∃ q later result q', Trace (Step .ascii DatasetQueryService.asciiUpper sampleReaders) fresh
        [.invoke 0 (sampleApplication 0, .startup), .work 0, .work 0,
          .invoke 1 (sampleApplication 0, .list),
          .invoke 2 (sampleApplication 0, .shutdown)] q ∧
      Trace (Step .ascii DatasetQueryService.asciiUpper sampleReaders) q
        (later ++ [.answer 2 result]) q' ∧
      later.length ≤ 24 ∧ q'.ready 0 = [] := by
  obtain ⟨q, hrun, hready⟩ :
    ∃ q, Trace (Step .ascii DatasetQueryService.asciiUpper sampleReaders) fresh
      [.invoke 0 (sampleApplication 0, .startup), .work 0, .work 0,
        .invoke 1 (sampleApplication 0, .list),
        .invoke 2 (sampleApplication 0, .shutdown)] q ∧ q.ready 0 = [0, 1] ++ 2 :: [] :=
    ⟨_, .cons (.receive (.receive rfl (sampleApplication 0) .startup)) <|
      .cons (.run rfl rfl (.ask rfl rfl (.invoke rfl 0 .initializing)) rfl) <|
      .cons (.run rfl rfl (.work rfl (.acquire rfl rfl)) rfl) <|
      .cons (.receive (.receive rfl (sampleApplication 0) .list)) <|
      .single (.receive (.receive rfl (sampleApplication 0) .shutdown)), rfl⟩
  obtain ⟨later, result, q', hlater, hlength, -, hbehind⟩ :=
    ((requests_are_answered hrun).2 0 [0, 1] 2 [] hready).1
  exact ⟨q, later, result, q', hrun, hlater, hlength, hbehind⟩

end EventLoops

end Athena
