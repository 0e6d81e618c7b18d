import Mathlib.Data.List.Infix
import Mathlib.Data.List.Perm.Basic

/-!
# The first match in a list of rules

Where at most one rule of a list can match, the first match is the one that matches, and the order
of the list does not matter. Endings of a text are such rules if none of them is an ending of
another.
-/

namespace Athena.Library

universe u

variable {α : Type u} {p : α → Bool} {l l' : List α}

/-- At most one element of the list passes the test. -/
def Exclusive (p : α → Bool) (l : List α) : Prop :=
  ∀ a ∈ l, ∀ b ∈ l, p a = true → p b = true → a = b

theorem find?_eq_some_iff_of_exclusive (h : Exclusive p l) {a : α} :
    l.find? p = some a ↔ a ∈ l ∧ p a = true := by
  constructor
  · intro hfound
    exact ⟨List.mem_of_find?_eq_some hfound, List.find?_some hfound⟩
  · rintro ⟨hmem, hpasses⟩
    cases hfound : l.find? p with
    | none => exact absurd hpasses (List.find?_eq_none.mp hfound a hmem)
    | some b =>
        rw [h b (List.mem_of_find?_eq_some hfound) a hmem (List.find?_some hfound) hpasses]

theorem find?_perm (h : Exclusive p l) (hperm : l'.Perm l) : l'.find? p = l.find? p := by
  have h' : Exclusive p l' := fun a ha b hb => h a (hperm.subset ha) b (hperm.subset hb)
  apply Option.ext
  intro a
  rw [find?_eq_some_iff_of_exclusive h, find?_eq_some_iff_of_exclusive h', hperm.mem_iff]

/-- Two endings of one text are comparable. -/
theorem eq_of_isSuffix {endings : List (List α)} (h : ∀ s ∈ endings, ∀ t ∈ endings, s <:+ t → s = t)
    {s t text : List α} (hs : s ∈ endings) (ht : t ∈ endings) (hends : s <:+ text)
    (hends' : t <:+ text) : s = t := by
  rcases List.suffix_or_suffix_of_suffix hends hends' with hshorter | hshorter
  · exact h s hs t ht hshorter
  · exact (h t ht s hs hshorter).symm

end Athena.Library
