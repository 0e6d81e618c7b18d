import Mathlib.Data.Bool.AllAny
import Athena.Library.Lexicographic

/-!
# Percent-encoding

A text is encoded byte by byte in UTF-8: a byte that is a kept ASCII character stands for itself,
and every other byte becomes `%` and its two hexadecimal digits. So a kept character costs one
character, any other at least three, and the encoding of a text holds no character but kept ones,
`%` and digits.
-/

namespace Athena.Library

def hexDigit (n : Nat) : Char := Char.ofNat (if n < 10 then 0x30 + n else 0x37 + n)

def percentByte (keep : Char → Bool) (byte : UInt8) : List Char :=
  if byte.toNat < 128 ∧ keep (Char.ofNat byte.toNat) then [Char.ofNat byte.toNat]
  else ['%', hexDigit (byte.toNat / 16), hexDigit (byte.toNat % 16)]

def percentChar (keep : Char → Bool) (c : Char) : List Char :=
  (String.utf8EncodeChar c).flatMap (percentByte keep)

/-- The encoding of a text. -/
def percentEncode (keep : Char → Bool) (text : String) : String :=
  String.ofList (text.toList.flatMap (percentChar keep))

variable {keep : Char → Bool}

/-! ### The bytes of a character -/

theorem utf8EncodeChar_of_ascii {c : Char} (h : c.toNat < 128) :
    String.utf8EncodeChar c = [.ofNat c.toNat] := by
  rw [utf8EncodeChar_eq, utf8Bytes, if_pos]
  · rfl
  · exact Nat.le_of_lt_succ h

/-- The bytes of a character that is not ASCII are no ASCII characters, and there are two of them at
least. -/
theorem utf8EncodeChar_of_not_ascii {c : Char} (h : 128 ≤ c.toNat) :
    2 ≤ (String.utf8EncodeChar c).length ∧ ∀ byte ∈ String.utf8EncodeChar c, 128 ≤ byte.toNat := by
  have hvalue : 128 ≤ c.val.toNat := h
  have hbound := toNat_lt_of_valid c
  rw [utf8EncodeChar_eq, utf8Bytes, if_neg (by omega)]
  split_ifs <;> simp <;> omega

/-! ### The encoding of a character -/

theorem percentByte_of_high {byte : UInt8} (h : 128 ≤ byte.toNat) :
    percentByte keep byte = ['%', hexDigit (byte.toNat / 16), hexDigit (byte.toNat % 16)] := by
  rw [percentByte, if_neg]
  exact fun hlow => absurd hlow.1 (Nat.not_lt.mpr h)

theorem percentChar_of_ascii {c : Char} (h : c.toNat < 128) :
    percentChar keep c = if keep c then [c]
      else ['%', hexDigit (c.toNat / 16), hexDigit (c.toNat % 16)] := by
  have hbyte : (UInt8.ofNat c.toNat).toNat = c.toNat := by
    rw [UInt8.toNat_ofNat']
    exact Nat.mod_eq_of_lt (by omega)
  rw [percentChar, utf8EncodeChar_of_ascii h, List.flatMap_cons, List.flatMap_nil, List.append_nil,
    percentByte, hbyte, Char.ofNat_toNat]
  simp only [h, true_and]

theorem length_flatMap_percentByte {bytes : List UInt8} (h : ∀ byte ∈ bytes, 128 ≤ byte.toNat) :
    (bytes.flatMap (percentByte keep)).length = 3 * bytes.length := by
  induction bytes with
  | nil => rfl
  | cons byte bytes ih =>
      have hlater := ih fun b hb => h b (List.mem_cons_of_mem _ hb)
      rw [List.flatMap_cons, List.length_append, hlater,
        percentByte_of_high (h byte List.mem_cons_self)]
      simp only [List.length_cons, List.length_nil]
      omega

/-- An ASCII character that is kept. -/
def Kept (keep : Char → Bool) (c : Char) : Prop := c.toNat < 128 ∧ keep c = true

theorem percentChar_of_kept {c : Char} (h : Kept keep c) : percentChar keep c = [c] := by
  rw [percentChar_of_ascii h.1, if_pos h.2]

theorem length_percentChar_of_not_kept {c : Char} (h : ¬Kept keep c) :
    3 ≤ (percentChar keep c).length ∧ (128 ≤ c.toNat → 6 ≤ (percentChar keep c).length) := by
  by_cases hascii : c.toNat < 128
  · have hkeep : ¬keep c = true := fun hkeep => h ⟨hascii, hkeep⟩
    rw [percentChar_of_ascii hascii, if_neg hkeep]
    exact ⟨Nat.le_refl _, fun hhigh => absurd hascii (Nat.not_lt.mpr hhigh)⟩
  · obtain ⟨hlength, hbytes⟩ := utf8EncodeChar_of_not_ascii (Nat.not_lt.mp hascii)
    rw [percentChar, length_flatMap_percentByte hbytes]
    omega

theorem hexDigit_mem {n : Nat} (h : n < 16) : hexDigit n ∈ "0123456789ABCDEF".toList := by
  have hall : ∀ m : Fin 16, hexDigit m ∈ "0123456789ABCDEF".toList := by decide
  exact hall ⟨n, h⟩

theorem mem_escape {n : Nat} (h : n < 256) {d : Char}
    (hd : d ∈ ['%', hexDigit (n / 16), hexDigit (n % 16)]) :
    d = '%' ∨ d ∈ "0123456789ABCDEF".toList := by
  rcases List.mem_cons.mp hd with hpercent | hdigit
  · exact .inl hpercent
  · right
    rcases List.mem_cons.mp hdigit with rfl | hlast
    · exact hexDigit_mem (by omega)
    · rw [List.mem_singleton.mp hlast]
      exact hexDigit_mem (by omega)

/-- The characters an encoding is made of. -/
theorem mem_percentChar {c d : Char} (h : d ∈ percentChar keep c) :
    Kept keep c ∧ d = c ∨ d = '%' ∨ d ∈ "0123456789ABCDEF".toList := by
  by_cases hascii : c.toNat < 128
  · rw [percentChar_of_ascii hascii] at h
    split at h
    · rename_i hkeep
      exact .inl ⟨⟨hascii, hkeep⟩, List.mem_singleton.mp h⟩
    · exact .inr (mem_escape (by omega) h)
  · obtain ⟨byte, hbyte, hd⟩ := List.mem_flatMap.mp h
    rw [percentByte_of_high ((utf8EncodeChar_of_not_ascii (Nat.not_lt.mp hascii)).2 byte hbyte)]
      at hd
    exact .inr (mem_escape byte.toNat_lt hd)

/-- An encoding is ASCII. -/
theorem toNat_lt_of_mem_percentChar {c d : Char} (h : d ∈ percentChar keep c) : d.toNat < 128 := by
  have hdigits : ∀ digit ∈ "0123456789ABCDEF".toList, digit.toNat < 128 :=
    List.all_iff_forall_prop.mp (by decide)
  rcases mem_percentChar h with ⟨hkept, rfl⟩ | rfl | hdigit
  · exact hkept.1
  · decide
  · exact hdigits d hdigit

/-- A character that is neither `%` nor a digit stands in an encoding only for itself. -/
theorem mem_of_mem_flatMap_percentChar {text : List Char} {d : Char} (hpercent : d ≠ '%')
    (hdigit : d ∉ "0123456789ABCDEF".toList) (h : d ∈ text.flatMap (percentChar keep)) :
    d ∈ text := by
  obtain ⟨c, hc, hd⟩ := List.mem_flatMap.mp h
  rcases mem_percentChar hd with ⟨-, rfl⟩ | hother
  · exact hc
  · rcases hother with heq | hmem
    · exact absurd heq hpercent
    · exact absurd hmem hdigit

theorem percentChar_ne_nil (c : Char) : percentChar keep c ≠ [] := by
  intro hnil
  by_cases hkept : Kept keep c
  · rw [percentChar_of_kept hkept] at hnil
    simp at hnil
  · have hlength := (length_percentChar_of_not_kept hkept).1
    rw [hnil, List.length_nil] at hlength
    omega

theorem length_le_flatMap_percentChar (text : List Char) :
    text.length ≤ (text.flatMap (percentChar keep)).length := by
  induction text with
  | nil => exact Nat.zero_le _
  | cons c text ih =>
      have hpositive := List.length_pos_iff.mpr (@percentChar_ne_nil keep c)
      rw [List.flatMap_cons, List.length_append, List.length_cons]
      omega

theorem flatMap_percentChar_of_kept {text : List Char} (h : ∀ c ∈ text, Kept keep c) :
    text.flatMap (percentChar keep) = text := by
  induction text with
  | nil => rfl
  | cons c text ih =>
      rw [List.flatMap_cons, percentChar_of_kept (h c List.mem_cons_self), List.singleton_append,
        ih fun d hd => h d (List.mem_cons_of_mem _ hd)]

/-! ### Decoding -/

def hexValue (digit : Char) : Nat :=
  if digit.toNat < 0x41 then digit.toNat - 0x30 else digit.toNat - 0x37

/-- The bytes that an encoding stands for. -/
def percentDecode : List Char → List UInt8
  | '%' :: high :: low :: rest => .ofNat (16 * hexValue high + hexValue low) :: percentDecode rest
  | c :: rest => .ofNat c.toNat :: percentDecode rest
  | [] => []

theorem percentDecode_cons {c : Char} (hc : c ≠ '%') (rest : List Char) :
    percentDecode (c :: rest) = .ofNat c.toNat :: percentDecode rest := by
  rw [percentDecode]
  intro _ _ _ hpercent
  exact absurd hpercent hc

theorem hexValue_hexDigit {n : Nat} (h : n < 16) : hexValue (hexDigit n) = n := by
  have hall : ∀ m : Fin 16, hexValue (hexDigit m) = m := by decide
  exact hall ⟨n, h⟩

theorem percentDecode_percentByte (hpercent : keep '%' = false) (byte : UInt8) (rest : List Char) :
    percentDecode (percentByte keep byte ++ rest) = byte :: percentDecode rest := by
  have hbyte := byte.toNat_lt
  rw [percentByte]
  split
  · rename_i hkept
    have hne : Char.ofNat byte.toNat ≠ '%' := by
      intro heq
      rw [heq, hpercent] at hkept
      exact absurd hkept.2 (by decide)
    have htoNat : (Char.ofNat byte.toNat).toNat = byte.toNat := by
      have hvalid : Nat.isValidChar byte.toNat := .inl (by omega)
      rw [Char.ofNat, dif_pos hvalid]
      rfl
    rw [List.singleton_append, percentDecode_cons hne, htoNat, UInt8.ofNat_toNat]
  · have hvalue : 16 * hexValue (hexDigit (byte.toNat / 16)) +
        hexValue (hexDigit (byte.toNat % 16)) = byte.toNat := by
      rw [hexValue_hexDigit (by omega), hexValue_hexDigit (by omega)]
      omega
    rw [List.cons_append, List.cons_append, List.cons_append, List.nil_append, percentDecode,
      hvalue, UInt8.ofNat_toNat]

/-- Decoding gives the bytes of the text back. -/
theorem percentDecode_flatMap (hpercent : keep '%' = false) (text : List Char) :
    percentDecode (text.flatMap (percentChar keep)) = text.flatMap String.utf8EncodeChar := by
  have hbytes : ∀ bytes : List UInt8, percentDecode (bytes.flatMap (percentByte keep)) = bytes := by
    intro bytes
    induction bytes with
    | nil => rfl
    | cons byte bytes ih => rw [List.flatMap_cons, percentDecode_percentByte hpercent, ih]
  have hchars : text.flatMap (percentChar keep) =
      (text.flatMap String.utf8EncodeChar).flatMap (percentByte keep) := by
    rw [List.flatMap_assoc]
    rfl
  rw [hchars, hbytes]

theorem percentEncode_injective (hpercent : keep '%' = false) {text text' : String}
    (h : percentEncode keep text = percentEncode keep text') : text = text' := by
  have hchars : text.toList.flatMap (percentChar keep) = text'.toList.flatMap (percentChar keep) :=
    String.ofList_injective h
  apply utf8_injective
  rw [utf8, utf8, ← percentDecode_flatMap hpercent, ← percentDecode_flatMap hpercent, hchars]

end Athena.Library
