import Mathlib.Data.Bool.AllAny
import Mathlib.Data.List.Infix
import Mathlib.Data.String.Basic
import Mathlib.Tactic.Common

/-!
# The lexical structure of SQL

A text is cut into lexemes: white space, comments, single-quoted strings and double-quoted
identifiers with the quote doubled inside, words, the separator of statements, and any other
character by itself. A literal or a comment that is not closed runs to the end of the text. What
counts as white space, and whether block comments nest, are parameters.

The lexemes are the text, in order and without gaps; and the first of them that is not white space
begins where the white space ends.
-/

namespace Athena.Library.Sql

inductive Kind
  | space
  | comment
  | string
  | identifier
  | separator
  | word
  | symbol
  deriving DecidableEq

structure Lexeme where
  kind : Kind
  chars : List Char
  deriving DecidableEq

/-- The rest of a quoted text, its closing quote included; a doubled quote does not close it. -/
def quotedLength (quote : Char) : List Char → Nat
  | [] => 0
  | [_] => 1
  | c :: d :: rest =>
      if c = quote then
        if d = quote then 2 + quotedLength quote rest else 1
      else 1 + quotedLength quote (d :: rest)

/-- The rest of a block comment that is open `depth + 1` times. -/
def commentLength (nested : Bool) : Nat → List Char → Nat
  | _, [] => 0
  | _, [_] => 1
  | depth, c :: d :: rest =>
      if c = '*' ∧ d = '/' then
        if depth = 0 then 2 else 2 + commentLength nested (depth - 1) rest
      else if nested ∧ c = '/' ∧ d = '*' then 2 + commentLength nested (depth + 1) rest
      else 1 + commentLength nested depth (d :: rest)

variable (space : Char → Bool) (nested : Bool)

/-- Letters, digits, `_`, `$`, and whatever is outside ASCII and no white space. -/
def isWordChar (c : Char) : Bool :=
  c.isAlphanum || c = '_' || c = '$' || (128 ≤ c.toNat && !space c)

/-- What the lexeme is that begins with `c`, and how many characters of `rest` belong to it. -/
def classify (c : Char) (rest : List Char) : Kind × Nat :=
  if space c then (.space, (rest.takeWhile space).length)
  else if c = '-' ∧ rest.head? = some '-' then (.comment, (rest.takeWhile (· ≠ '\n')).length)
  else if c = '/' ∧ rest.head? = some '*' then (.comment, 1 + commentLength nested 0 rest.tail)
  else if c = '\'' then (.string, quotedLength '\'' rest)
  else if c = '"' then (.identifier, quotedLength '"' rest)
  else if c = ';' then (.separator, 0)
  else if isWordChar space c then (.word, (rest.takeWhile (isWordChar space)).length)
  else (.symbol, 0)

/-- The lexemes of a text no longer than `fuel`. -/
def lexFrom : Nat → List Char → List Lexeme
  | 0, _ => []
  | _ + 1, [] => []
  | fuel + 1, c :: rest =>
      ⟨(classify space nested c rest).1, c :: rest.take (classify space nested c rest).2⟩ ::
        lexFrom fuel (rest.drop (classify space nested c rest).2)

def lex (text : List Char) : List Lexeme := lexFrom space nested text.length text

/-- The lexemes of a text but for its white space. -/
def significant (text : List Char) : List Lexeme := (lex space nested text).filter (·.kind ≠ .space)

/-- The lexemes that statements are made of. -/
def tokens (text : List Char) : List Lexeme :=
  (significant space nested text).filter (·.kind ≠ .comment)

variable {space nested}

/-- **The lexemes are the text.** -/
theorem flatMap_lexFrom {fuel : Nat} {text : List Char} (h : text.length ≤ fuel) :
    (lexFrom space nested fuel text).flatMap Lexeme.chars = text := by
  induction fuel generalizing text with
  | zero =>
      rw [List.length_eq_zero_iff.mp (Nat.le_zero.mp h)]
      rfl
  | succ fuel ih =>
      cases text with
      | nil => rfl
      | cons c rest =>
          have hrest : (rest.drop (classify space nested c rest).2).length ≤ fuel := by
            rw [List.length_drop]
            rw [List.length_cons] at h
            omega
          rw [lexFrom, List.flatMap_cons, ih hrest]
          simp only [List.cons_append, List.take_append_drop]

theorem mem_of_mem_lex {text : List Char} {lexeme : Lexeme} (h : lexeme ∈ lex space nested text)
    {c : Char} (hc : c ∈ lexeme.chars) : c ∈ text := by
  rw [← @flatMap_lexFrom space nested text.length text (Nat.le_refl _)]
  exact List.mem_flatMap.mpr ⟨lexeme, h, hc⟩

/-- A separator is a semicolon. -/
theorem mem_chars_of_separator {fuel : Nat} {text : List Char} {lexeme : Lexeme}
    (h : lexeme ∈ lexFrom space nested fuel text) (hkind : lexeme.kind = .separator) :
    ';' ∈ lexeme.chars := by
  induction fuel generalizing text with
  | zero => exact absurd h List.not_mem_nil
  | succ fuel ih =>
      cases text with
      | nil => exact absurd h List.not_mem_nil
      | cons c rest =>
          rw [lexFrom] at h
          rcases List.mem_cons.mp h with rfl | hlater
          · simp only [classify] at hkind
            split_ifs at hkind with _ _ _ _ _ hsemicolon
            rw [hsemicolon]
            exact List.mem_cons_self
          · exact ih hlater

/-! ### The first lexeme -/

theorem drop_length_takeWhile {α : Type} (p : α → Bool) (l : List α) :
    l.drop (l.takeWhile p).length = l.dropWhile p := by
  conv_lhs => arg 2; rw [← List.takeWhile_append_dropWhile (p := p) (l := l)]
  rw [List.drop_left]

theorem take_length_takeWhile {α : Type} (p : α → Bool) (l : List α) :
    l.take (l.takeWhile p).length = l.takeWhile p := by
  conv_lhs => arg 2; rw [← List.takeWhile_append_dropWhile (p := p) (l := l)]
  rw [List.take_left]

theorem classify_space {c : Char} (h : space c = true) (rest : List Char) :
    classify space nested c rest = (.space, (rest.takeWhile space).length) := by
  rw [classify, if_pos h]

theorem classify_ne_space {c : Char} (h : space c = false) (rest : List Char) :
    (classify space nested c rest).1 ≠ .space := by
  rw [classify, if_neg (by simp [h])]
  split_ifs <;> simp

/-- A word is a longest run of word characters. -/
theorem classify_word {c : Char} (hspace : space c = false) (h : isWordChar space c = true)
    (rest : List Char) :
    classify space nested c rest = (.word, (rest.takeWhile (isWordChar space)).length) := by
  have hmark : ∀ mark ∈ ['-', '/', '\'', '"', ';'], c ≠ mark := by
    rintro mark hmark rfl
    have hall : ∀ mark ∈ ['-', '/', '\'', '"', ';'],
        (mark.isAlphanum || mark = '_' || mark = '$' || 128 ≤ mark.toNat) = false :=
      List.all_iff_forall_prop.mp (by decide)
    have hnone := hall c hmark
    simp only [isWordChar, Bool.or_eq_true, Bool.and_eq_true, Bool.or_eq_false_iff] at h hnone
    simp [hnone] at h
  simp [classify, hspace, h, hmark '-' (by simp), hmark '/' (by simp), hmark '\'' (by simp),
    hmark '"' (by simp), hmark ';' (by simp)]

theorem isWordChar_of_classify {c : Char} {rest : List Char}
    (h : (classify space nested c rest).1 = .word) :
    isWordChar space c = true := by
  rw [classify] at h
  split_ifs at h with _ _ _ _ _ _ hword
  exact hword

theorem filter_lexFrom {fuel : Nat} {c : Char} {rest : List Char} (hspace : space c = false)
    (h : (c :: rest).length ≤ fuel) :
    ∃ later, (lexFrom space nested fuel (c :: rest)).filter (·.kind ≠ .space) =
      ⟨(classify space nested c rest).1, c :: rest.take (classify space nested c rest).2⟩ ::
        later := by
  obtain ⟨fuel, rfl⟩ : ∃ below, fuel = below + 1 := ⟨fuel - 1, by rw [List.length_cons] at h; omega⟩
  have hkept : decide ((classify space nested c rest).1 ≠ .space) = true := by
    simpa using classify_ne_space hspace rest
  rw [lexFrom, List.filter_cons, if_pos hkept]
  exact ⟨_, rfl⟩

/-- What is lexed first, after the white space. -/
theorem significant_eq (text : List Char) :
    match text.dropWhile space with
    | [] => significant space nested text = []
    | c :: rest => ∃ later, significant space nested text =
        ⟨(classify space nested c rest).1, c :: rest.take (classify space nested c rest).2⟩ ::
          later := by
  rw [significant, lex]
  cases text with
  | nil => rfl
  | cons c rest =>
      cases hspace : space c with
      | false =>
          rw [List.dropWhile_cons_of_neg (by simp [hspace])]
          exact filter_lexFrom hspace (Nat.le_refl _)
      | true =>
          rw [List.dropWhile_cons_of_pos hspace, List.length_cons, lexFrom, classify_space hspace,
            List.filter_cons_of_neg (by simp)]
          simp only [drop_length_takeWhile]
          have hle : (rest.dropWhile space).length ≤ rest.length :=
            (List.dropWhile_sublist space).length_le
          cases hrest : rest.dropWhile space with
          | nil => cases rest.length <;> rfl
          | cons d rest' =>
              have hd : space d = false := by
                have hhead :=
                  List.head_dropWhile_not space (show rest.dropWhile space ≠ [] by rw [hrest]; simp)
                simpa [hrest] using hhead
              rw [hrest] at hle
              exact filter_lexFrom hd hle

end Athena.Library.Sql
