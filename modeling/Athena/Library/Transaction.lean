import Mathlib.Data.Option.Basic

/-!
# Programs that raise, and transactions

A `Program` reads and writes a state and may raise; what it wrote before raising stays written, as
in an imperative language. A `Session` is one connection to a store: the durable contents, and
inside a transaction the uncommitted copy the statements work on. A program over the contents alone,
run as a `statement`, cannot reach the durable side; only `commit` can. The results of this module
are the all-or-nothing law of `committing` and the facts that let a caller never look below it.
-/

namespace Athena.Library

universe u

/-- A computation over the state `σ` that returns or raises. -/
abbrev Program (ε σ : Type u) := ExceptT ε (StateM σ)

namespace Program

variable {ε σ α β : Type u}

def exec (p : Program ε σ α) (s : σ) : Except ε α × σ := p.run.run s

@[simp] theorem exec_pure (a : α) (s : σ) : exec (pure a : Program ε σ α) s = (.ok a, s) := rfl

@[simp] theorem exec_throw (e : ε) (s : σ) :
    exec (throw e : Program ε σ α) s = (.error e, s) := rfl

@[simp] theorem exec_get (s : σ) : exec (get : Program ε σ σ) s = (.ok s, s) := rfl

@[simp] theorem exec_set (s t : σ) : exec (set t : Program ε σ PUnit) s = (.ok ⟨⟩, t) := rfl

@[simp] theorem exec_modify (f : σ → σ) (s : σ) :
    exec (modify f : Program ε σ PUnit) s = (.ok ⟨⟩, f s) := rfl

theorem exec_bind (p : Program ε σ α) (f : α → Program ε σ β) (s : σ) :
    exec (p >>= f) s =
      match exec p s with
      | (.ok a, s') => exec (f a) s'
      | (.error e, s') => (.error e, s') := by
  simp only [exec, ExceptT.run_bind, StateT.run_bind]
  rcases p.run.run s with ⟨_ | _, _⟩ <;> rfl

theorem exec_tryCatch (p : Program ε σ α) (handler : ε → Program ε σ α) (s : σ) :
    exec (tryCatch p handler) s =
      match exec p s with
      | (.ok a, s') => (.ok a, s')
      | (.error e, s') => exec (handler e) s' := by
  simp only [exec, ExceptT.run_tryCatch, StateT.run_bind]
  rcases p.run.run s with ⟨_ | _, _⟩ <;> rfl

theorem exec_bind_eq_ok {p : Program ε σ α} {f : α → Program ε σ β} {s t : σ} {b : β}
    (h : exec (p >>= f) s = (.ok b, t)) :
    ∃ a s', exec p s = (.ok a, s') ∧ exec (f a) s' = (.ok b, t) := by
  rw [exec_bind] at h
  rcases hp : exec p s with ⟨e | a, s'⟩ <;> rw [hp] at h
  · simp at h
  · exact ⟨a, s', rfl, h⟩

@[simp] theorem exec_ofExcept (r : Except ε α) (s : σ) :
    exec (MonadExcept.ofExcept r : Program ε σ α) s = (r, s) := by
  cases r <;> rfl

/-- A point where the environment may raise: nothing happens, or `e` is raised. -/
def mayRaise : Option ε → Program ε σ PUnit
  | none => pure ⟨⟩
  | some e => throw e

@[simp] theorem exec_mayRaise_none (s : σ) :
    exec (mayRaise none : Program ε σ PUnit) s = (.ok ⟨⟩, s) := rfl

@[simp] theorem exec_mayRaise_some (e : ε) (s : σ) :
    exec (mayRaise (some e)) s = (.error e, s) := rfl

/-! ### What a program leaves alone -/

variable {τ : Type*} {view : σ → τ} {t : τ}

/-- Wherever the part `view` of the state is `t`, the program leaves it so, returning or raising. -/
def Fixes (view : σ → τ) (t : τ) (p : Program ε σ α) : Prop :=
  ∀ s, view s = t → view (exec p s).2 = t

theorem fixes_pure (a : α) : Fixes view t (pure a : Program ε σ α) := fun _ h => h

theorem fixes_ofExcept (r : Except ε α) :
    Fixes view t (MonadExcept.ofExcept r : Program ε σ α) := by
  intro s h
  rw [exec_ofExcept]
  exact h

theorem Fixes.bind {p : Program ε σ α} {f : α → Program ε σ β} (hp : Fixes view t p)
    (hf : ∀ a, Fixes view t (f a)) : Fixes view t (p >>= f) := by
  intro s h
  have hkept := hp s h
  rw [exec_bind]
  rcases hfirst : exec p s with ⟨e | a, s'⟩
  · rw [hfirst] at hkept
    exact hkept
  · rw [hfirst] at hkept
    exact hf a s' hkept

/-- A result that is only renamed comes with the same state. -/
theorem snd_exec_bind_pure (p : Program ε σ α) (f : α → β) (s : σ) :
    (exec (p >>= fun a => pure (f a)) s).2 = (exec p s).2 := by
  rw [exec_bind]
  rcases exec p s with ⟨e | a, s'⟩
  · rfl
  · rfl

end Program

/-- One connection to a store: the durable contents and, inside a transaction, the working copy. -/
structure Session (δ : Type u) where
  durable : δ
  pending : Option δ := none

namespace Session

open Program

variable {ε δ α : Type u}

def begin (fault : Option ε) : Program ε (Session δ) PUnit := do
  mayRaise fault
  modify fun s => { s with pending := some s.durable }

/-- Run `p` on what the connection sees. Outside a transaction a statement that returns is durable
at once and one that raises has no effect. -/
def statement (p : Program ε δ α) : Program ε (Session δ) α := fun s =>
  match s.pending with
  | some d => ((exec p d).1, { s with pending := some (exec p d).2 })
  | none =>
    match exec p s.durable with
    | (.ok a, d) => (.ok a, { s with durable := d })
    | (.error e, _) => (.error e, s)

def commit (fault : Option ε) : Program ε (Session δ) PUnit := do
  mayRaise fault
  modify fun s => { durable := s.pending.getD s.durable, pending := none }

def rollback : Program ε (Session δ) PUnit :=
  modify fun s => { s with pending := none }

/-- `body` and then a commit; whatever is raised on the way is raised again after a rollback. -/
def committing (body : Program ε (Session δ) α) (fault : Option ε) : Program ε (Session δ) α :=
  tryCatch (do let a ← body; commit fault; pure a) fun e => do rollback; throw e

@[simp] theorem exec_begin_none (s : Session δ) :
    exec (begin none : Program ε (Session δ) PUnit) s =
      (.ok ⟨⟩, { s with pending := some s.durable }) := rfl

@[simp] theorem exec_begin_some (e : ε) (s : Session δ) :
    exec (begin (some e)) s = (.error e, s) := rfl

@[simp] theorem exec_statement (p : Program ε δ α) (durable d : δ) :
    exec (statement p) ⟨durable, some d⟩ = ((exec p d).1, ⟨durable, some (exec p d).2⟩) := rfl

theorem exec_statement_none (p : Program ε δ α) (durable : δ) :
    exec (statement p) ⟨durable, none⟩ =
      match exec p durable with
      | (.ok a, d) => (.ok a, ⟨d, none⟩)
      | (.error e, _) => (.error e, ⟨durable, none⟩) := by
  change statement p ⟨durable, none⟩ = _
  rw [statement]
  rcases exec p durable with ⟨e | a, d⟩ <;> rfl

theorem exec_committing (body : Program ε (Session δ) α) (fault : Option ε) (s : Session δ) :
    exec (committing body fault) s =
      match exec body s, fault with
      | (.ok a, s'), none => (.ok a, ⟨s'.pending.getD s'.durable, none⟩)
      | (.ok _, s'), some e => (.error e, { s' with pending := none })
      | (.error e, s'), _ => (.error e, { s' with pending := none }) := by
  rw [committing, exec_tryCatch, exec_bind]
  rcases exec body s with ⟨e | a, s'⟩
  · rfl
  · cases fault <;> rfl

/-- **All or nothing.** A transaction over the working copy `d` either returns and makes exactly the
copy its body left durable, or raises and leaves the durable contents alone. Either way the
connection is outside a transaction afterwards. -/
theorem committing_statement (p : Program ε δ α) (fault : Option ε) (durable d : δ) :
    (∃ a d', exec p d = (.ok a, d') ∧ fault = none ∧
        exec (committing (statement p) fault) ⟨durable, some d⟩ = (.ok a, ⟨d', none⟩)) ∨
      ∃ e, exec (committing (statement p) fault) ⟨durable, some d⟩ =
        (.error e, ⟨durable, none⟩) := by
  rw [exec_committing, exec_statement]
  rcases exec p d with ⟨e | a, d'⟩
  · exact .inr ⟨e, rfl⟩
  · cases fault with
    | none => exact .inl ⟨a, d', rfl, rfl, rfl⟩
    | some e => exact .inr ⟨e, rfl⟩

end Session

end Athena.Library
