import Mathlib.Data.List.Lex
import Mathlib.Data.String.Basic
import Mathlib.Order.Lex
import Mathlib.Tactic.Common

/-!
# Lexicographic order of texts

Lists of equal length that come first decide, and the rest decides among equals. An encoding of each
element that decides by itself is monotone on lists: so the bytes of UTF-8 order texts as their code
points do.
-/

namespace Athena.Library

universe u v

theorem append_lt_append_iff {α : Type u} [LT α] {a b : List α} (h : a.length = b.length)
    (s t : List α) :
    a ++ s < b ++ t ↔ a < b ∨ a = b ∧ s < t := by
  induction a generalizing b with
  | nil =>
      obtain rfl : b = [] := List.length_eq_zero_iff.mp h.symm
      simp
  | cons x a ih =>
      cases b with
      | nil => simp at h
      | cons y b =>
          rw [List.cons_append, List.cons_append, List.cons_lt_cons_iff, List.cons_lt_cons_iff,
            ih (Nat.succ_inj.mp h), List.cons.injEq]
          tauto

theorem lt_iff_take_drop {α : Type u} [LT α] {a b : List α} (h : a.length = b.length) (n : Nat) :
    a < b ↔ a.take n < b.take n ∨ a.take n = b.take n ∧ a.drop n < b.drop n := by
  have hlength : (a.take n).length = (b.take n).length := by
    rw [List.length_take, List.length_take, h]
  have hcut := append_lt_append_iff hlength (a.drop n) (b.drop n)
  rwa [List.take_append_drop, List.take_append_drop] at hcut

/-! ### Encodings -/

section FlatMap

variable {α : Type u} {β : Type v} [LT β] {code : α → List β}

/-- What decides on single elements decides on lists. -/
theorem flatMap_lt_flatMap [LT α] (hcode : ∀ a b, a < b → ∀ s t, code a ++ s < code b ++ t)
    (hne : ∀ a, code a ≠ []) {s t : List α} (h : s < t) : s.flatMap code < t.flatMap code := by
  induction h with
  | @nil b t =>
      obtain ⟨byte, bytes, hbytes⟩ := List.exists_cons_of_ne_nil (hne b)
      rw [List.flatMap_nil, List.flatMap_cons, hbytes]
      exact List.nil_lt_cons _ _
  | cons _ ih =>
      rw [List.flatMap_cons, List.flatMap_cons]
      exact List.append_left_lt ih
  | rel hlt =>
      rw [List.flatMap_cons, List.flatMap_cons]
      exact hcode _ _ hlt _ _

theorem flatMap_lt_flatMap_iff [LinearOrder α] [Std.Asymm (α := β) (· < ·)]
    (hcode : ∀ a b, a < b → ∀ s t, code a ++ s < code b ++ t) (hne : ∀ a, code a ≠ [])
    {s t : List α} :
    s.flatMap code < t.flatMap code ↔ s < t := by
  constructor
  · intro h
    rcases lt_trichotomy s t with hlt | heq | hgt
    · exact hlt
    · rw [heq] at h
      exact absurd h (List.lt_irrefl _)
    · exact absurd h (List.lt_asymm (flatMap_lt_flatMap hcode hne hgt))
  · exact flatMap_lt_flatMap hcode hne

end FlatMap

/-! ### UTF-8 -/

/-- The bytes of a code point. -/
def utf8Bytes (v : Nat) : List UInt8 :=
  if v ≤ 0x7f then [.ofNat v]
  else if v ≤ 0x7ff then [.ofNat (v / 64 % 0x20 + 0xc0), .ofNat (v % 0x40 + 0x80)]
  else if v ≤ 0xffff then
    [.ofNat (v / 4096 % 0x10 + 0xe0), .ofNat (v / 64 % 0x40 + 0x80), .ofNat (v % 0x40 + 0x80)]
  else
    [.ofNat (v / 262144 % 0x08 + 0xf0), .ofNat (v / 4096 % 0x40 + 0x80),
      .ofNat (v / 64 % 0x40 + 0x80), .ofNat (v % 0x40 + 0x80)]

theorem utf8EncodeChar_eq (c : Char) : String.utf8EncodeChar c = utf8Bytes c.val.toNat := rfl

theorem ofNat_cons_lt_ofNat_cons {a b : Nat} (ha : a < 256) (hb : b < 256) (s t : List UInt8) :
    UInt8.ofNat a :: s < UInt8.ofNat b :: t ↔ a < b ∨ a = b ∧ s < t := by
  rw [List.cons_lt_cons_iff, UInt8.lt_iff_toNat_lt, ← UInt8.toNat_inj, UInt8.toNat_ofNat_of_lt' ha,
    UInt8.toNat_ofNat_of_lt' hb]

/-- The first byte in which two code points differ is greater for the greater one. -/
theorem utf8Bytes_append_lt {v w : Nat} (h : v < w) (hw : w < 0x110000) (s t : List UInt8) :
    utf8Bytes v ++ s < utf8Bytes w ++ t := by
  -- Where the digits to base 64 first differ, from the last to the first.
  have hlast : v / 64 < w / 64 ∨ v / 64 = w / 64 ∧ v % 64 < w % 64 := by omega
  have hthird : v / 64 ≤ w / 64 →
      v / 4096 < w / 4096 ∨ v / 4096 = w / 4096 ∧ v / 64 % 64 < w / 64 % 64 ∨ v / 64 = w / 64 := by
        omega
  have hsecond : v / 4096 ≤ w / 4096 →
      v / 262144 < w / 262144 ∨ v / 262144 = w / 262144 ∧ v / 4096 % 64 < w / 4096 % 64 ∨
      v / 4096 = w / 4096 := by
    omega
  have hfirst : v / 262144 % 8 = v / 262144 ∧ w / 262144 % 8 = w / 262144 := by omega
  unfold utf8Bytes
  split_ifs <;>
    simp (disch := omega) only [List.cons_append, List.nil_append, ofNat_cons_lt_ofNat_cons] <;>
    omega

def utf8 (text : String) : List UInt8 := text.toList.flatMap String.utf8EncodeChar

theorem toNat_lt_of_valid (c : Char) : c.val.toNat < 0x110000 := by
  rcases c.valid with h | ⟨-, h⟩
  · exact Nat.lt_trans h (by decide)
  · exact h

/-- **Bytes order texts as code points do.** -/
theorem utf8_lt_utf8_iff {text text' : String} : utf8 text < utf8 text' ↔ text < text' := by
  rw [String.lt_iff_toList_lt]
  apply flatMap_lt_flatMap_iff
  · intro c d h s t
    exact utf8Bytes_append_lt h (toNat_lt_of_valid d) s t
  · exact fun c => String.utf8EncodeChar_ne_nil

theorem utf8_injective {text text' : String} (h : utf8 text = utf8 text') : text = text' := by
  rcases lt_trichotomy text text' with hlt | heq | hgt
  · rw [← utf8_lt_utf8_iff, h] at hlt
    exact absurd hlt (List.lt_irrefl _)
  · exact heq
  · rw [← utf8_lt_utf8_iff, h] at hgt
    exact absurd hgt (List.lt_irrefl _)

end Athena.Library
