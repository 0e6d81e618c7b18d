import Mathlib.Data.List.Forall2

/-!
# Running a fallible function over a list

`mapM` in `Except` succeeds exactly when the function succeeds on every element, and then the
results stand in the places of the elements. A fold keeps what every step of it keeps, in its result
and in its errors.
-/

namespace Athena.Library

universe u v w

variable {ε : Type u} {α : Type v} {β γ : Type w} {f : α → Except ε β}

theorem mapM_eq_ok_iff {as : List α} {bs : List β} :
    as.mapM f = .ok bs ↔ List.Forall₂ (fun a b => f a = .ok b) as bs := by
  induction as generalizing bs with
  | nil => cases bs <;> simp [pure, Except.pure]
  | cons a as ih =>
      rw [List.mapM_cons]
      cases ha : f a with
      | error e =>
          constructor
          · intro h
            simp [bind, Except.bind] at h
          · intro h
            cases h with
            | cons hhead _ => simp [ha] at hhead
      | ok b =>
          constructor
          · intro h
            cases htail : as.mapM f with
            | error e => simp [htail, bind, Except.bind] at h
            | ok bs' =>
                obtain rfl : b :: bs' = bs := by
                  simpa [htail, bind, Except.bind, pure, Except.pure] using h
                exact .cons ha (ih.mp htail)
          · intro h
            cases h with
            | cons hhead htail =>
                rw [ih.mpr htail]
                rw [ha] at hhead
                obtain rfl := Except.ok.inj hhead
                rfl

theorem mapM_eq_ok_map {as : List α} {g : α → β} (h : ∀ a ∈ as, f a = .ok (g a)) :
    as.mapM f = .ok (as.map g) := by
  rw [mapM_eq_ok_iff, List.forall₂_map_right_iff, List.forall₂_same]
  exact h

theorem exists_ok_of_mapM {as : List α} {bs : List β} (h : as.mapM f = .ok bs) {a : α}
    (ha : a ∈ as) :
    ∃ b, f a = .ok b := by
  rw [mapM_eq_ok_iff] at h
  induction h with
  | nil => exact absurd ha List.not_mem_nil
  | cons hhead _ ih =>
      rcases List.mem_cons.mp ha with rfl | hmem
      · exact ⟨_, hhead⟩
      · exact ih hmem

/-- What holds of the elements two by two holds of the results. -/
theorem pairwise_of_forall₂ {α : Type u} {β : Type v} {R : α → β → Prop} {S : α → α → Prop}
    {T : β → β → Prop}
    {as : List α} {bs : List β} (h : List.Forall₂ R as bs) (hpairs : as.Pairwise S)
    (hST : ∀ a a' b b', R a b → R a' b' → S a a' → T b b') : bs.Pairwise T := by
  induction h with
  | nil => exact .nil
  | @cons a b as bs hhead htail ih =>
      obtain ⟨hfirst, hrest⟩ := List.pairwise_cons.mp hpairs
      refine List.pairwise_cons.mpr ⟨fun b' hb' => ?_, ih hrest⟩
      obtain ⟨i, hi, rfl⟩ := List.mem_iff_getElem.mp hb'
      obtain ⟨hlength, hat⟩ := List.forall₂_iff_get.mp htail
      exact hST _ _ _ _ hhead (hat i (hlength ▸ hi) hi) (hfirst _ (List.getElem_mem _))

/-! ### Folds that may fail -/

/-- The result satisfies `P`, or the error satisfies `E`. -/
def Outcome (P : α → Prop) (E : ε → Prop) : Except ε α → Prop
  | .ok a => P a
  | .error e => E e

/-- What every step of a fold keeps, the fold keeps. -/
theorem foldlM_outcome {δ : Type v} {step : δ → α → Except ε δ} {P : δ → Prop} {E : ε → Prop}
    {as : List α} (hstep : ∀ d, ∀ a ∈ as, P d → Outcome P E (step d a)) {d : δ} (hd : P d) :
    Outcome P E (as.foldlM step d) := by
  induction as generalizing d with
  | nil => exact hd
  | cons a as ih =>
      have hfirst := hstep d a List.mem_cons_self hd
      rw [List.foldlM_cons]
      cases hresult : step d a with
      | error e =>
          rw [hresult] at hfirst
          exact hfirst
      | ok d' =>
          rw [hresult] at hfirst
          exact ih (fun d a ha => hstep d a (List.mem_cons_of_mem _ ha)) hfirst

end Athena.Library
