import Mathlib.Data.List.SplitBy

/-!
# Cutting a list into blocks again

Blocks that begin with an element marked by `p`, and hold no other marked element, are found again
in the flat list: a new block begins at every marked element. What a filter leaves of a flat list is
what it leaves of the blocks.
-/

namespace Athena.Library

universe u v

variable {α : Type u} {p : α → Bool}

/-- The first element is marked and no later one is. -/
def IsBlock (p : α → Bool) : List α → Prop
  | [] => False
  | a :: rest => p a = true ∧ ∀ b ∈ rest, p b = false

theorem IsBlock.ne_nil {block : List α} (h : IsBlock p block) : block ≠ [] := by
  rintro rfl
  exact h

theorem IsBlock.head {block : List α} (h : IsBlock p block) : p (block.head h.ne_nil) = true := by
  cases block with
  | nil => exact h.elim
  | cons a rest => exact h.1

theorem IsBlock.isChain {block : List α} (h : IsBlock p block) : block.IsChain fun _ b => !p b := by
  cases block with
  | nil => exact h.elim
  | cons a rest =>
      obtain ⟨-, hrest⟩ := h
      induction rest generalizing a with
      | nil => exact .singleton a
      | cons b rest ih =>
          refine .cons_cons (by simp [hrest b List.mem_cons_self]) (ih b ?_)
          exact fun c hc => hrest c (List.mem_cons_of_mem b hc)

theorem splitBy_blocks {blocks : List (List α)} (h : ∀ block ∈ blocks, IsBlock p block) :
    blocks.flatten.splitBy (fun _ b => !p b) = blocks := by
  apply List.splitBy_flatten
  · exact fun hnil => h [] hnil
  · exact fun block hblock => (h block hblock).isChain
  · induction blocks with
    | nil => exact .nil
    | cons first blocks ih =>
        cases blocks with
        | nil => exact .singleton first
        | cons second blocks =>
            have hfirst := h first List.mem_cons_self
            have hsecond := h second (List.mem_cons_of_mem _ List.mem_cons_self)
            refine .cons_cons ⟨hfirst.ne_nil, hsecond.ne_nil, by simp [hsecond.head]⟩ (ih ?_)
            exact fun block hblock => h block (List.mem_cons_of_mem _ hblock)

/-! ### Blocks that are kept or dropped -/

variable {β : Type v} {q : α → Prop} [DecidablePred q]

theorem flatten_map_ite (block : α → List β) (as : List α) :
    (as.map fun a => if q a then block a else []).flatten = (as.filter q).flatMap block := by
  induction as with
  | nil => rfl
  | cons a as ih =>
      rw [List.map_cons, List.flatten_cons, ih]
      by_cases hkept : q a
      · simp [hkept]
      · simp [hkept]

theorem filter_flatten_blocks {keep : β → Bool} {block kept : α → List β}
    (h : ∀ a, (block a).filter keep = if q a then kept a else []) (as : List α) :
    (as.map block).flatten.filter keep = (as.filter q).flatMap kept := by
  rw [List.filter_flatten, List.map_map, ← flatten_map_ite]
  exact congrArg List.flatten (List.map_congr_left fun a _ => h a)

end Athena.Library
