import Mathlib.Data.List.Basic

/-!
# Reading in chunks

A reader returns some elements at a time, read number `k` at most `size k` of them, and nothing only
at the end. However the sizes fall, the chunks put together are what was to be read, so that
whatever consumes two texts one after the other like both at once does not depend on where they are
cut.
-/

namespace Athena.Library

universe u v

variable {α : Type u}

theorem length_drop_take_lt {n : Nat} {unread : List α} (h : ¬unread.take n = []) :
    (unread.drop (unread.take n).length).length < unread.length := by
  have hlength := List.length_pos_iff.mpr h
  rw [List.length_take] at hlength
  rw [List.length_drop, List.length_take]
  omega

/-- The chunks of the reads from number `k` on, until one is empty. -/
def chunksFrom (size : Nat → Nat) (k : Nat) (unread : List α) : List (List α) :=
  let chunk := unread.take (size k)
  if chunk = [] then [] else chunk :: chunksFrom size (k + 1) (unread.drop chunk.length)
termination_by unread.length
decreasing_by
  rename_i hchunk
  exact length_drop_take_lt hchunk

variable {size : Nat → Nat} {k : Nat} {unread : List α}

theorem chunksFrom_of_end (h : unread.take (size k) = []) : chunksFrom size k unread = [] := by
  rw [chunksFrom, if_pos h]

theorem chunksFrom_of_more (h : unread.take (size k) ≠ []) :
    chunksFrom size k unread =
      unread.take (size k) ::
        chunksFrom size (k + 1) (unread.drop (unread.take (size k)).length) := by
  rw [chunksFrom, if_neg h]

theorem flatten_chunksFrom (hsize : ∀ k, 0 < size k) (k : Nat) (unread : List α) :
    (chunksFrom size k unread).flatten = unread := by
  fun_induction chunksFrom size k unread with
  | case1 k unread chunk hchunk =>
      have hzero : size k ≠ 0 := Nat.ne_of_gt (hsize k)
      have hend : unread = [] := (List.take_eq_nil_iff.mp hchunk).resolve_left hzero
      rw [hend, List.flatten_nil]
  | case2 k unread chunk _ ih =>
      rw [List.flatten_cons, ih]
      exact List.prefix_iff_eq_append.mp (List.take_prefix _ _)

theorem chunk_spec {chunk : List α} (h : chunk ∈ chunksFrom size k unread) :
    chunk ≠ [] ∧ ∃ j, chunk.length ≤ size j := by
  fun_induction chunksFrom size k unread with
  | case1 => exact absurd h List.not_mem_nil
  | case2 k unread first hfirst ih =>
      rcases List.mem_cons.mp h with rfl | hlater
      · exact ⟨hfirst, k, List.length_take_le _ _⟩
      · exact ih hlater

/-- A list has at least as many elements as it has nonempty chunks. -/
theorem length_le_length_flatten {chunks : List (List α)} (h : ∀ chunk ∈ chunks, chunk ≠ []) :
    chunks.length ≤ chunks.flatten.length := by
  induction chunks with
  | nil => exact Nat.le_refl 0
  | cons chunk chunks ih =>
      have hchunk := List.length_pos_iff.mpr (h chunk List.mem_cons_self)
      have hrest := ih fun later hlater => h later (List.mem_cons_of_mem chunk hlater)
      rw [List.length_cons, List.flatten_cons, List.length_append]
      omega

/-- Consuming the chunks one after the other is consuming them put together. -/
theorem foldl_eq_flatten {σ : Type v} {update : σ → List α → σ}
    (hnil : ∀ state, update state [] = state) (happend :
      ∀ state first second, update (update state first) second = update state (first ++ second))
    (state : σ) (chunks : List (List α)) :
    chunks.foldl update state = update state chunks.flatten := by
  induction chunks generalizing state with
  | nil => exact (hnil state).symm
  | cons chunk chunks ih => rw [List.foldl_cons, ih, happend, List.flatten_cons]

end Athena.Library
