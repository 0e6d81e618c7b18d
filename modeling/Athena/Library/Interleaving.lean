import Mathlib.Logic.Function.Basic

/-!
# Interleavings of any number of sequences

`Interleaving f l`: the list `l` is made by merging the lists `f i`, each in its own order. Where a
predicate tells the elements of one list from all others, filtering finds that list again.
-/

namespace Athena.Library

universe u v

variable {ι : Type u} {α : Type v} [DecidableEq ι]

inductive Interleaving : (ι → List α) → List α → Prop
  | nil : Interleaving (fun _ => []) []
  | cons {f : ι → List α} {l : List α} (i : ι) (a : α) :
      Interleaving f l → Interleaving (Function.update f i (a :: f i)) (a :: l)

namespace Interleaving

variable {f : ι → List α} {l : List α}

/-- Every list is an interleaving of the lists that a classification cuts it into. -/
theorem of_classification (kind : α → ι) (l : List α) :
    Interleaving (fun i => l.filter (kind · = i)) l := by
  induction l with
  | nil => exact .nil
  | cons a l ih =>
      have hparts : (fun i => (a :: l).filter (kind · = i)) =
          Function.update (fun i => l.filter (kind · = i)) (kind a)
            (a :: l.filter (kind · = kind a)) := by
        funext i
        by_cases hi : i = kind a
        · subst hi
          simp
        · rw [Function.update_of_ne hi, List.filter_cons_of_neg (by simpa using Ne.symm hi)]
      rw [hparts]
      exact .cons (kind a) a ih

/-- The elements that satisfy `p` are those of the list `f i`. -/
theorem filter_eq {p : α → Bool} {i : ι} (h : Interleaving f l)
    (hp : ∀ j, ∀ a ∈ f j, p a = true ↔ j = i) :
    l.filter p = f i := by
  induction h with
  | nil => rfl
  | @cons f l j a _ ih =>
      have hhead : p a = true ↔ j = i :=
        hp j a (by rw [Function.update_self]; exact List.mem_cons_self)
      have htail : ∀ j', ∀ b ∈ f j', p b = true ↔ j' = i := by
        intro j' b hb
        apply hp j' b
        by_cases hsame : j' = j
        · rw [hsame, Function.update_self]
          exact List.mem_cons_of_mem _ (hsame ▸ hb)
        · rwa [Function.update_of_ne hsame]
      by_cases hi : j = i
      · rw [List.filter_cons_of_pos (hhead.mpr hi), ih htail, hi, Function.update_self]
      · rw [List.filter_cons_of_neg (mt hhead.mp hi), ih htail, Function.update_of_ne (Ne.symm hi)]

end Interleaving

end Athena.Library
