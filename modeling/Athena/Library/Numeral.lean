import Mathlib.Algebra.Group.Nat.Defs
import Mathlib.Data.Nat.Basic
import Mathlib.Tactic.Common
import Athena.Library.Lexicographic

/-!
# Zero-padded numerals

`numeral base width n` writes `n` with exactly `width` digits, most significant first, the way
`%04d` and `%032x` do; `readNumeral` reads digits back. Bases up to sixteen use the lower-case
hexadecimal digits, and reading accepts either case.
-/

namespace Athena.Library

def numeral (base : Nat) : Nat → Nat → List Char
  | 0, _ => []
  | width + 1, n => numeral base width (n / base) ++ [Nat.digitChar (n % base)]

def digitValue (base : Nat) (c : Char) : Option Nat :=
  let value :=
    if '0' ≤ c ∧ c ≤ '9' then some (c.toNat - '0'.toNat)
    else if 'a' ≤ c ∧ c ≤ 'f' then some (c.toNat - 'a'.toNat + 10)
    else if 'A' ≤ c ∧ c ≤ 'F' then some (c.toNat - 'A'.toNat + 10)
    else none
  value.filter (· < base)

def readNumeral (base : Nat) (text : List Char) : Option Nat :=
  text.foldlM (fun acc c => (digitValue base c).map (acc * base + ·)) 0

variable {base width n : Nat}

theorem digitValue_digitChar {d : Nat} (hbase : base ≤ 16) (hd : d < base) :
    digitValue base (Nat.digitChar d) = some d := by
  have hall : ∀ d : Fin 16, digitValue 16 (Nat.digitChar d) = some d.val := by decide
  have hd16 : d < 16 := by omega
  have hvalue := hall ⟨d, hd16⟩
  simp only [digitValue, Option.filter_eq_some_iff] at hvalue ⊢
  exact ⟨hvalue.1, by simpa using hd⟩

theorem numeral_length (base width n : Nat) : (numeral base width n).length = width := by
  induction width generalizing n with
  | zero => rfl
  | succ width ih => simp [numeral, ih]

/-- Every character of a numeral is a digit of its base. -/
theorem exists_digit_of_mem_numeral (hbase : 0 < base) {c : Char} (hc : c ∈ numeral base width n) :
    ∃ d, d < base ∧ c = Nat.digitChar d := by
  induction width generalizing n with
  | zero => simp [numeral] at hc
  | succ width ih =>
      rw [numeral, List.mem_append, List.mem_singleton] at hc
      rcases hc with hc | rfl
      · exact ih hc
      · exact ⟨n % base, Nat.mod_lt n hbase, rfl⟩

theorem base_pos_of_lt (hn : n < base ^ (width + 1)) : 0 < base := by
  by_contra hzero
  obtain rfl : base = 0 := by omega
  simp at hn

theorem div_base_lt (hn : n < base ^ (width + 1)) : n / base < base ^ width :=
  Nat.div_lt_of_lt_mul (by rwa [Nat.pow_succ'] at hn)

/-- A numeral wide enough for its number reads back as that number. -/
theorem readNumeral_numeral (hbase : base ≤ 16) (hn : n < base ^ width) :
    readNumeral base (numeral base width n) = some n := by
  induction width generalizing n with
  | zero =>
      obtain rfl : n = 0 := by simpa using hn
      rfl
  | succ width ih =>
      have hhigh := ih (div_base_lt hn)
      rw [readNumeral] at hhigh ⊢
      rw [numeral, List.foldlM_append, hhigh]
      simp [digitValue_digitChar hbase (Nat.mod_lt n (base_pos_of_lt hn)), Nat.div_add_mod']

theorem numeral_injective (hbase : base ≤ 16) {m : Nat} (hm : m < base ^ width)
    (hn : n < base ^ width) (h : numeral base width m = numeral base width n) : m = n := by
  have hread := readNumeral_numeral hbase hm
  rw [h, readNumeral_numeral hbase hn] at hread
  exact (Option.some.inj hread).symm

theorem digitChar_lt_iff {d e : Nat} (hd : d < 16) (he : e < 16) :
    Nat.digitChar d < Nat.digitChar e ↔ d < e := by
  have hall : ∀ d e : Fin 16, Nat.digitChar d < Nat.digitChar e ↔ d.val < e.val := by decide
  exact hall ⟨d, hd⟩ ⟨e, he⟩

/-- Numerals of one width are ordered as texts as their numbers are. -/
theorem numeral_lt_numeral_iff (hbase : base ≤ 16) {m : Nat} (hm : m < base ^ width)
    (hn : n < base ^ width) :
    numeral base width m < numeral base width n ↔ m < n := by
  induction width generalizing m n with
  | zero =>
      obtain rfl : m = 0 := by simpa using hm
      obtain rfl : n = 0 := by simpa using hn
      simp [numeral]
  | succ width ih =>
      have hmhigh := div_base_lt hm
      have hnhigh := div_base_lt hn
      have hmlow := Nat.mod_lt m (base_pos_of_lt hm)
      have hnlow := Nat.mod_lt n (base_pos_of_lt hn)
      have hlength :
          (numeral base width (m / base)).length = (numeral base width (n / base)).length := by
        rw [numeral_length, numeral_length]
      rw [numeral, numeral, append_lt_append_iff hlength, ih hmhigh hnhigh, List.cons_lt_cons_iff,
        digitChar_lt_iff (by omega) (by omega)]
      simp only [List.lt_irrefl, and_false, or_false]
      constructor
      · rintro (hlt | ⟨hsame, hlt⟩)
        · exact lt_of_not_ge fun hle => absurd (Nat.div_le_div_right hle) (Nat.not_le_of_lt hlt)
        · have hquot := numeral_injective hbase hmhigh hnhigh hsame
          rw [← Nat.div_add_mod m base, ← Nat.div_add_mod n base, hquot]
          exact Nat.add_lt_add_left hlt _
      · intro hlt
        rcases Nat.lt_or_eq_of_le (Nat.div_le_div_right hlt.le) with hhigh | hhigh
        · exact .inl hhigh
        · refine .inr ⟨congrArg _ hhigh, ?_⟩
          rw [← Nat.div_add_mod m base, ← Nat.div_add_mod n base, hhigh] at hlt
          exact Nat.lt_of_add_lt_add_left hlt

/-- A numeral field decides unless its numbers are equal. -/
theorem numeral_append_lt_iff (hbase : base ≤ 16) {m : Nat} (hm : m < base ^ width)
    (hn : n < base ^ width) (s t : List Char) :
    numeral base width m ++ s < numeral base width n ++ t ↔ m < n ∨ m = n ∧ s < t := by
  have hlength : (numeral base width m).length = (numeral base width n).length := by
    rw [numeral_length, numeral_length]
  rw [append_lt_append_iff hlength, numeral_lt_numeral_iff hbase hm hn]
  apply or_congr_right
  apply and_congr_left'
  exact ⟨numeral_injective hbase hm hn, fun h => congrArg _ h⟩

end Athena.Library
