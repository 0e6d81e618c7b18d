import Mathlib.Data.List.DropRight
import Mathlib.Data.String.Basic

/-!
# Text as Python has it

A string is a sequence of code points. `strip` drops the white space of `str.isspace`. `lower` maps
each character by itself, except the capital sigma, whose image depends on whether it ends a word;
the Unicode tables it reads are a parameter.
-/

namespace Athena

/-- The part of the Unicode character database that `str.lower` reads. -/
structure CaseTables where
  toLower : Char → List Char
  cased : Char → Bool
  caseIgnorable : Char → Bool

/-- The tables of a text that is ASCII. -/
def CaseTables.ascii : CaseTables :=
  ⟨fun c => [c.toLower], Char.isAlpha, fun c => c ∈ ['\'', '.', ':', '^', '`']⟩

/-- ASCII is mapped within itself, and no character becomes more than three. -/
structure CaseTables.Lawful (tables : CaseTables) : Prop where
  ascii : ∀ c : Char, c.toNat < 128 → tables.toLower c = [c.toLower]
  length_le : ∀ c, (tables.toLower c).length ≤ 3

theorem CaseTables.lawful_ascii : CaseTables.ascii.Lawful :=
  ⟨fun _ _ => rfl, fun _ => by simp [CaseTables.ascii]⟩

namespace Text

def isSpace (c : Char) : Bool :=
  (9 ≤ c.toNat && c.toNat ≤ 13) || (28 ≤ c.toNat && c.toNat ≤ 32) ||
    (0x2000 ≤ c.toNat && c.toNat ≤ 0x200A) ||
    c.toNat ∈ [0x85, 0xA0, 0x1680, 0x2028, 0x2029, 0x202F, 0x205F, 0x3000]

/-- The part of the Unicode character database that `str.upper` reads: it looks at no context. -/
structure UpperTable where
  toUpper : Char → List Char
  ascii : ∀ c : Char, c.toNat < 128 → toUpper c = [c.toUpper]
  space : ∀ c, isSpace c = true → toUpper c = [c]

/-- `text.upper()`. -/
def upper (table : UpperTable) (text : String) : String :=
  String.ofList (text.toList.flatMap table.toUpper)

/-- `text.strip()`. -/
def strip (text : String) : String :=
  String.ofList ((text.toList.dropWhile isSpace).rdropWhile isSpace)

/-- A cased letter comes before and none after, case-ignorable characters aside. -/
def isFinalSigma (tables : CaseTables) (before after : List Char) : Bool :=
  (before.dropWhile tables.caseIgnorable).head?.any tables.cased &&
    !(after.dropWhile tables.caseIgnorable).head?.any tables.cased

/-- The lower case of `text`, which follows `before` read backwards. -/
def lowerAfter (tables : CaseTables) (before : List Char) : List Char → List Char
  | [] => []
  | 'Σ' :: rest =>
      (if isFinalSigma tables before rest then 'ς' else 'σ') ::
        lowerAfter tables ('Σ' :: before) rest
  | c :: rest => tables.toLower c ++ lowerAfter tables (c :: before) rest

/-- `text.lower()`. -/
def lower (tables : CaseTables) (text : String) : String :=
  String.ofList (lowerAfter tables [] text.toList)

/-- `text.startswith(start)`. -/
def startsWith (text start : String) : Bool := start.toList.isPrefixOf text.toList

/-- `text.endswith(ending)`. -/
def endsWith (text ending : String) : Bool := ending.toList.isSuffixOf text.toList

/-- `text.removeprefix(start)`. -/
def removePrefix (text start : String) : String :=
  if startsWith text start then String.ofList (text.toList.drop start.toList.length) else text

/-- `text.rfind(c)`, where there is a `c`. -/
def rfind (c : Char) : List Char → Option Nat
  | [] => none
  | d :: rest =>
      match rfind c rest with
      | some i => some (i + 1)
      | none => if d = c then some 0 else none

/-! ### ASCII letters and digits -/

theorem toNat_of_isAlphanum {c : Char} (h : c.isAlphanum = true) :
    48 ≤ c.toNat ∧ c.toNat ≤ 122 := by
  rcases Bool.or_eq_true_iff.mp h with hletter | hdigit
  · rcases Bool.or_eq_true_iff.mp hletter with hupper | hlower
    · have hrange : 65 ≤ c.toNat ∧ c.toNat ≤ 90 := of_decide_eq_true hupper
      omega
    · obtain ⟨ha, hz⟩ := Bool.and_eq_true_iff.mp hlower
      have ha' : 97 ≤ c.toNat := of_decide_eq_true ha
      have hz' : c.toNat ≤ 122 := of_decide_eq_true hz
      omega
  · obtain ⟨h0, h9⟩ := Char.isDigit_iff_toNat.mp hdigit
    have h0' : 48 ≤ c.toNat := h0
    have h9' : c.toNat ≤ 57 := h9
    omega

theorem toUpper_of_not_isAlphanum {c : Char} (h : c.isAlphanum = false) : c.toUpper = c := by
  apply dif_neg
  intro hlower
  have hletter : c.isLower = true :=
    Bool.and_eq_true_iff.mpr ⟨decide_eq_true hlower.1, decide_eq_true hlower.2⟩
  have halphanum : c.isAlphanum = true :=
    Bool.or_eq_true_iff.mpr (.inl (Bool.or_eq_true_iff.mpr (.inr hletter)))
  simp [halphanum] at h

/-! ### The last occurrence of a character -/

theorem rfind_eq_none {c : Char} {text : List Char} (h : c ∉ text) : rfind c text = none := by
  induction text with
  | nil => rfl
  | cons d rest ih =>
      obtain ⟨hd, hrest⟩ := not_or.mp (mt List.mem_cons.mpr h)
      rw [rfind, ih hrest, if_neg (Ne.symm hd)]

theorem rfind_append {c : Char} {after : List Char} (h : c ∉ after) (before : List Char) :
    rfind c (before ++ c :: after) = some before.length := by
  induction before with
  | nil =>
      rw [List.nil_append, rfind, rfind_eq_none h, if_pos rfl]
      rfl
  | cons d before ih =>
      rw [List.cons_append, rfind, ih]
      rfl

theorem exists_last {c : Char} {text : List Char} (h : c ∈ text) :
    ∃ before after, text = before ++ c :: after ∧ c ∉ after := by
  induction text with
  | nil => exact absurd h List.not_mem_nil
  | cons d rest ih =>
      by_cases hlater : c ∈ rest
      · obtain ⟨before, after, rfl, hafter⟩ := ih hlater
        exact ⟨d :: before, after, rfl, hafter⟩
      · obtain rfl : c = d := (List.mem_cons.mp h).resolve_right hlater
        exact ⟨[], rest, rfl, hlater⟩

/-! ### Lower case -/

variable {tables : CaseTables}

theorem lowerAfter_cons (tables : CaseTables) (before : List Char) (c : Char) (rest : List Char) :
    ∃ image, lowerAfter tables before (c :: rest) = image ++ lowerAfter tables (c :: before) rest ∧
      (image = tables.toLower c ∨ c = 'Σ' ∧ image.length = 1) := by
  by_cases hsigma : c = 'Σ'
  · subst hsigma
    exact ⟨[if isFinalSigma tables before rest then 'ς' else 'σ'], rfl, .inr ⟨rfl, rfl⟩⟩
  · refine ⟨tables.toLower c, ?_, .inl rfl⟩
    rw [lowerAfter]
    exact hsigma

/-- ASCII text is lowered character by character. -/
theorem lowerAfter_ascii (h : tables.Lawful) {text : List Char} (htext : ∀ c ∈ text, c.toNat < 128)
    (before : List Char) : lowerAfter tables before text = text.map Char.toLower := by
  induction text generalizing before with
  | nil => rfl
  | cons c rest ih =>
      have hc := htext c List.mem_cons_self
      obtain ⟨image, himage, heq | ⟨rfl, -⟩⟩ := lowerAfter_cons tables before c rest
      · rw [himage, heq, h.ascii c hc, ih fun d hd => htext d (List.mem_cons_of_mem _ hd)]
        rfl
      · exact absurd hc (by decide)

end Text

end Athena
