import Mathlib.Data.Nat.Notation

/-!
# Computations that tell the time

A computation calls a system that others change all the while, and each call finds the system of its
own moment. Where what the calls find does not depend on the moment, neither does what the
computation comes to.
-/

namespace Athena.Library

/-- A computation that counts its calls, and is told at each how many there were. -/
abbrev Timed (ε α : Type) := StateT ℕ (Except ε) α

namespace Timed

variable {ε α β γ : Type}

/-- Whenever it is run, it comes to the same. -/
def Timeless (x : Timed ε α) (y : Except ε α) : Prop := ∀ now, (x now).map Prod.fst = y

theorem Timeless.bind {x : Timed ε α} {y : Except ε α} {f : α → Timed ε β} {g : α → Except ε β}
    (hx : Timeless x y) (hf : ∀ a, Timeless (f a) (g a)) : Timeless (x >>= f) (y.bind g) := by
  intro now
  rw [← hx now]
  show ((x now).bind fun (a, later) => f a later).map Prod.fst = _
  cases x now with
  | error e => rfl
  | ok answer => exact hf answer.1 answer.2

/-- What a call finds. -/
def look (find : ℕ → α) : Timed ε α := fun now => .ok (find now, now + 1)

theorem bind_of_ok {x : Timed ε α} (f : α → Timed ε β) {now between : ℕ} {a : α}
    (hx : x now = .ok (a, between)) :
    (x >>= f) now = f a between := by
  show ((x now).bind fun (a, between) => f a between) = _
  rw [hx]
  rfl

theorem look_bind (find : ℕ → α) (f : α → Timed ε β) (now : ℕ) :
    (look find >>= f) now = f (find now) (now + 1) := rfl

end Timed

end Athena.Library
