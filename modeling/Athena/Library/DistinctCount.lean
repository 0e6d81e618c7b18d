import Mathlib.Data.Finset.Card
import Mathlib.Data.Fintype.BigOperators
import Mathlib.Data.List.ReduceOption

/-!
# Counting distinct elements

Facts about `l.dedup.length`, the number of distinct elements of a list: how it behaves under a map,
under dropping the missing values of a column, and how the rows of a table relate to its columns.
-/

namespace Athena.Library

universe u v

variable {α : Type u} {β : Type v} [DecidableEq α] [DecidableEq β]

theorem dedup_length_le (l : List α) : l.dedup.length ≤ l.length := (List.dedup_sublist l).length_le

theorem dedup_length_map_le (f : α → β) (l : List α) : (l.map f).dedup.length ≤ l.dedup.length := by
  rw [← List.card_toFinset, ← List.card_toFinset]
  have himage : (l.map f).toFinset = l.toFinset.image f := by
    ext b
    simp
  rw [himage]
  exact Finset.card_image_le

theorem dedup_length_mono {l l' : List α} (h : l ⊆ l') : l.dedup.length ≤ l'.dedup.length := by
  rw [← List.card_toFinset, ← List.card_toFinset]
  apply Finset.card_le_card
  intro a ha
  rw [List.mem_toFinset] at ha ⊢
  exact h ha

theorem dedup_length_append_le (l l' : List α) :
    (l ++ l').dedup.length ≤ l.dedup.length + l'.dedup.length := by
  rw [← List.card_toFinset, ← List.card_toFinset, ← List.card_toFinset, List.toFinset_append]
  exact Finset.card_union_le _ _

/-- Nothing occurs twice where there are as many distinct elements as elements. -/
theorem dedup_length_eq_iff (l : List α) : l.dedup.length = l.length ↔ l.Nodup := by
  constructor
  · intro h
    rw [← List.dedup_eq_self]
    exact (List.dedup_sublist l).eq_of_length h
  · intro h
    rw [h.dedup]

/-! ### Missing values -/

/-- A missing value counts as one more element, however often it occurs. -/
theorem dedup_length_option (l : List (Option α)) :
    l.dedup.length = l.reduceOption.dedup.length + if none ∈ l then 1 else 0 := by
  induction l with
  | nil => rfl
  | cons o l ih =>
      cases o with
      | none =>
          rw [List.reduceOption_cons_of_none, if_pos List.mem_cons_self]
          by_cases hmem : none ∈ l
          · rw [List.dedup_cons_of_mem hmem, ih, if_pos hmem]
          · rw [List.dedup_cons_of_notMem hmem, List.length_cons, ih, if_neg hmem]
      | some a =>
          have hnone : none ∈ some a :: l ↔ none ∈ l := by simp
          rw [List.reduceOption_cons_of_some, if_congr hnone rfl rfl]
          by_cases hmem : some a ∈ l
          · rw [List.dedup_cons_of_mem hmem,
              List.dedup_cons_of_mem (List.reduceOption_mem_iff.mpr hmem), ih]
          · have hreduced := mt List.reduceOption_mem_iff.mp hmem
            rw [List.dedup_cons_of_notMem hmem, List.dedup_cons_of_notMem hreduced,
              List.length_cons, List.length_cons, ih, Nat.add_right_comm]

theorem length_reduceOption_add_count_none (l : List (Option α)) :
    l.reduceOption.length + l.count none = l.length := by
  induction l with
  | nil => rfl
  | cons o l ih => cases o <;> simp <;> omega

theorem dedup_length_reduceOption_add_count_none_le (l : List (Option α)) :
    l.reduceOption.dedup.length + l.count none ≤ l.length := by
  rw [← length_reduceOption_add_count_none l]
  exact Nat.add_le_add_right (dedup_length_le _) _

/-- There is no value exactly where every element is missing. -/
theorem dedup_length_reduceOption_eq_zero_iff (l : List (Option α)) :
    l.reduceOption.dedup.length = 0 ↔ l.count none = l.length := by
  have hlength := length_reduceOption_add_count_none l
  rw [List.length_eq_zero_iff, List.dedup_eq_nil, ← List.length_eq_zero_iff]
  omega

theorem dedup_length_pos {l : List α} (h : l ≠ []) : 0 < l.dedup.length := by
  rw [List.length_pos_iff, Ne, List.dedup_eq_nil]
  exact h

/-! ### Rows and columns -/

/-- A table has no more distinct rows than its columns have combinations of values. -/
theorem dedup_length_rows_le_prod {ι : Type u} [Fintype ι] [DecidableEq ι] (rows : List (ι → β)) :
    rows.dedup.length ≤ ∏ i, (rows.map (· i)).dedup.length := by
  have hsubset : rows.toFinset ⊆ Fintype.piFinset fun i => (rows.map (· i)).toFinset := by
    intro row hrow
    rw [Fintype.mem_piFinset]
    intro i
    rw [List.mem_toFinset]
    exact List.mem_map_of_mem (List.mem_toFinset.mp hrow)
  calc rows.dedup.length = rows.toFinset.card := (List.card_toFinset rows).symm
    _ ≤ (Fintype.piFinset fun i => (rows.map (· i)).toFinset).card := Finset.card_le_card hsubset
    _ = ∏ i, (rows.map (· i)).dedup.length := by
      simp only [Fintype.card_piFinset, List.card_toFinset]

end Athena.Library
