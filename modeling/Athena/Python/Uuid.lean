import Athena.Library.Numeral
import Athena.Python.Exception

/-!
# `uuid.UUID`

A UUID is a 128-bit integer. Its text is the 32 hexadecimal digits in groups of 8, 4, 4, 4 and 12,
and `UUID(text)` drops the hyphens and reads the digits back. The `urn:`, `uuid:` and brace prefixes
that `UUID(text)` also strips are never written by `str` and are left out.
-/

namespace Athena

open Library

structure UUID where
  int : BitVec 128
  deriving DecidableEq, Repr

namespace UUID

def hex (u : UUID) : List Char := numeral 16 32 u.int.toNat

def hyphenate (hex : List Char) : List Char :=
  hex.take 8 ++ '-' :: ((hex.drop 8).take 4 ++ '-' :: ((hex.drop 12).take 4 ++ '-' ::
    ((hex.drop 16).take 4 ++ '-' :: hex.drop 20)))

/-- `str(uuid)`. -/
def str (u : UUID) : String := String.ofList (hyphenate u.hex)

/-- `UUID(text)`. -/
def ofText (text : String) : Except PyException UUID :=
  let digits := text.toList.filter (· != '-')
  match digits.length == 32, readNumeral 16 digits with
  | true, some n => .ok ⟨BitVec.ofNat 128 n⟩
  | _, _ => .error (.valueError "badly formed hexadecimal UUID string")

theorem filter_hyphenate {hex : List Char} (hhex : ∀ c ∈ hex, (c != '-') = true) :
    (hyphenate hex).filter (· != '-') = hex := by
  have hslice : ∀ i n, ((hex.drop i).take n).filter (· != '-') = (hex.drop i).take n := fun i n =>
    List.filter_eq_self.mpr fun c hc => hhex c (List.mem_of_mem_drop (List.mem_of_mem_take hc))
  have hlast : (hex.drop 20).filter (· != '-') = hex.drop 20 :=
    List.filter_eq_self.mpr fun c hc => hhex c (List.mem_of_mem_drop hc)
  have hcut : ∀ i n, (hex.drop i).take n ++ hex.drop (i + n) = hex.drop i := fun i n => by
    rw [← List.drop_drop, List.take_append_drop]
  have hhyphen : ('-' != '-') = false := by decide
  simp only [hyphenate, List.filter_append, List.filter_cons, hhyphen, hslice, hlast,
    Bool.false_eq_true, if_false]
  have hfirst := hslice 0 8
  rw [List.drop_zero] at hfirst
  rw [hfirst, hcut 16 4, hcut 12 4, hcut 8 4, List.take_append_drop]

theorem hex_ne_hyphen (u : UUID) : ∀ c ∈ u.hex, (c != '-') = true := by
  intro c hc
  obtain ⟨d, hd, rfl⟩ := exists_digit_of_mem_numeral (by decide) hc
  have hall : ∀ d : Fin 16, (Nat.digitChar d != '-') = true := by decide
  exact hall ⟨d, hd⟩

/-- The text of a UUID identifies it. -/
@[simp] theorem ofText_str (u : UUID) : ofText u.str = .ok u := by
  have hdigits : u.str.toList.filter (· != '-') = u.hex := by
    rw [str, String.toList_ofList, filter_hyphenate u.hex_ne_hyphen]
  have hlength : u.hex.length = 32 := numeral_length 16 32 _
  have hread : readNumeral 16 u.hex = some u.int.toNat := readNumeral_numeral (by decide) u.int.isLt
  simp only [ofText, hdigits, hlength, hread, beq_self_eq_true, BitVec.ofNat_toNat,
    BitVec.setWidth_eq]

theorem str_injective {u v : UUID} (h : u.str = v.str) : u = v := by
  have hu := ofText_str u
  rw [h, ofText_str] at hu
  exact (Except.ok.inj hu).symm

/-- Hyphens at fixed places do not change the order. -/
theorem hyphenate_lt_iff {hex hex' : List Char} (h : hex.length = hex'.length) :
    hyphenate hex < hyphenate hex' ↔ hex < hex' := by
  have hdrop : ∀ n, (hex.drop n).length = (hex'.drop n).length := fun n => by
    rw [List.length_drop, List.length_drop, h]
  have htake : ∀ m n, ((hex.drop m).take n).length = ((hex'.drop m).take n).length := fun m n => by
    rw [List.length_take, List.length_take, hdrop]
  have hfirst : (hex.take 8).length = (hex'.take 8).length := htake 0 8
  rw [hyphenate, hyphenate, append_lt_append_iff hfirst, List.cons_lt_cons_self,
    append_lt_append_iff (htake 8 4), List.cons_lt_cons_self, append_lt_append_iff (htake 12 4),
    List.cons_lt_cons_self, append_lt_append_iff (htake 16 4), List.cons_lt_cons_self]
  rw [lt_iff_take_drop h 8, lt_iff_take_drop (hdrop 8) 4, List.drop_drop, List.drop_drop,
    lt_iff_take_drop (hdrop (8 + 4)) 4, List.drop_drop, List.drop_drop,
    lt_iff_take_drop (hdrop (8 + 4 + 4)) 4, List.drop_drop, List.drop_drop]

/-- The texts of UUIDs are ordered as their numbers are. -/
theorem str_lt_str_iff (u v : UUID) : u.str < v.str ↔ u.int.toNat < v.int.toNat := by
  have hlength : u.hex.length = v.hex.length :=
    (numeral_length 16 32 _).trans (numeral_length 16 32 _).symm
  rw [String.lt_iff_toList_lt, str, str, String.toList_ofList, String.toList_ofList,
    hyphenate_lt_iff hlength]
  exact numeral_lt_numeral_iff (by decide) u.int.isLt v.int.isLt

end UUID

end Athena
