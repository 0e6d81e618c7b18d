import Athena.Dataset.Service
import Athena.Library.SqlLexer

/-!
# The policy on query texts

`_validate_sql` looks at characters: the stripped text is not empty, holds no semicolon, and its
upper case begins with `SELECT`. What that says of the text as SQL is less than one would like on
three counts: a semicolon counts wherever it stands, a comment in front hides the statement, and a
longer word passes for the keyword. For the rest it is exact.
-/

namespace Athena.DatasetQueryService

open Library Text

def validateSql (table : UpperTable) (sql : String) : Except ServiceError Unit :=
  let normalizedSql := strip sql
  if normalizedSql = "" then .error (.queryExecution "SQL text must not be empty.")
  else if ';' ∈ normalizedSql.toList then .error
    (.queryExecution "SQL text must contain exactly one statement.")
  else if ¬startsWith (upper table normalizedSql) "SELECT" then
    .error (.queryExecution "Only SELECT-leading SQL statements are supported.")
  else .ok ()

/-! ### The policy as SQL has it -/

/-- One statement that is not empty, and no separator. -/
def OneStatement (nested : Bool) (sql : String) : Prop :=
  Sql.tokens isSpace nested sql.toList ≠ [] ∧
    ∀ token ∈ Sql.tokens isSpace nested sql.toList, token.kind ≠ .separator

/-- The statement begins with a word whose upper case satisfies `p`. -/
def FirstWord (table : UpperTable) (nested : Bool) (sql : String) (p : String → Prop) : Prop :=
  ∃ word, (Sql.tokens isSpace nested sql.toList).head? = some ⟨.word, word⟩ ∧
    p (upper table (String.ofList word))

/-- Nothing but white space stands before the statement. -/
def NoLeadingComment (nested : Bool) (sql : String) : Prop :=
  ∀ first ∈ (Sql.significant isSpace nested sql.toList).head?, first.kind ≠ .comment

variable {table : UpperTable}

/-! ### Upper case and words -/

/-- What is not in the text is not where the text would have to go on. -/
theorem prefix_append_iff {p a b : List Char} (hb : ∀ c ∈ b.head?, c ∉ p) :
    p <+: a ++ b ↔ p <+: a := by
  constructor
  · intro h
    rcases List.prefix_or_prefix_of_prefix h (List.prefix_append a b) with hshort | ⟨rest, rfl⟩
    · exact hshort
    · cases rest with
      | nil => rw [List.append_nil]
      | cons c rest =>
          obtain ⟨tail, htail⟩ := (List.prefix_append_right_inj a).mp h
          have hhead : c ∈ b.head? := by rw [← htail]; rfl
          exact absurd (by simp) (hb c hhead)
  · exact fun h => h.trans (List.prefix_append a b)

theorem toUpper_of_not_word {c : Char} (h : Sql.isWordChar isSpace c = false) :
    ∃ d, table.toUpper c = [d] ∧ d ∉ "SELECT".toList := by
  simp only [Sql.isWordChar, Bool.or_eq_false_iff, Bool.and_eq_false_iff] at h
  obtain ⟨⟨⟨halphanum, -⟩, -⟩, hhigh⟩ := h
  have hletters : ∀ d ∈ "SELECT".toList, d.isAlphanum = true ∧ isSpace d = false :=
    List.all_iff_forall_prop.mp (by decide)
  rcases hhigh with hascii | hspace
  · refine ⟨c.toUpper, table.ascii c (by simpa using hascii), ?_⟩
    rw [toUpper_of_not_isAlphanum halphanum]
    intro hmem
    rw [(hletters c hmem).1] at halphanum
    simp at halphanum
  · have hspace : isSpace c = true := by simpa using hspace
    refine ⟨c, table.space c hspace, fun hmem => ?_⟩
    rw [(hletters c hmem).2] at hspace
    simp at hspace

/-- Whether a text begins with the letters of the keyword is decided by its first word. -/
theorem select_prefix_append_iff {word rest : List Char}
    (hrest : ∀ c ∈ rest.head?, Sql.isWordChar isSpace c = false) :
    "SELECT".toList <+: (word ++ rest).flatMap table.toUpper ↔
      "SELECT".toList <+: word.flatMap table.toUpper := by
  rw [List.flatMap_append]
  apply prefix_append_iff
  cases rest with
  | nil => simp
  | cons c rest =>
      obtain ⟨d, hupper, hd⟩ := @toUpper_of_not_word table c (hrest c rfl)
      rw [List.flatMap_cons, hupper]
      intro e he
      obtain rfl : d = e := by simpa using he
      exact hd

theorem isWordChar_of_isSpace {c : Char} (h : isSpace c = true) :
    Sql.isWordChar isSpace c = false := by
  have hmarks : c ≠ '_' ∧ c ≠ '$' := by
    constructor
    · rintro rfl
      exact absurd h (by decide)
    · rintro rfl
      exact absurd h (by decide)
  have halphanum : c.isAlphanum = false := by
    by_contra hletter
    rw [Bool.not_eq_false] at hletter
    obtain ⟨h0, hz⟩ := toNat_of_isAlphanum hletter
    simp only [isSpace, Bool.or_eq_true, Bool.and_eq_true, decide_eq_true_eq, List.mem_cons,
      List.not_mem_nil, or_false] at h
    omega
  simp [Sql.isWordChar, halphanum, hmarks, h]

/-! ### What is accepted -/

/-- The text without the white space around it. -/
theorem exists_strip (sql : String) :
    ∃ before after, sql.toList = before ++ ((strip sql).toList ++ after) ∧
      sql.toList.dropWhile isSpace = (strip sql).toList ++ after ∧
      (∀ c ∈ before, isSpace c = true) ∧ ∀ c ∈ after, isSpace c = true := by
  refine ⟨sql.toList.takeWhile isSpace, (sql.toList.dropWhile isSpace).rtakeWhile isSpace, ?_, ?_,
    ?_, ?_⟩
  · rw [strip, String.toList_ofList, List.rdropWhile_append_rtakeWhile,
      List.takeWhile_append_dropWhile]
  · rw [strip, String.toList_ofList, List.rdropWhile_append_rtakeWhile]
  · exact fun c hc => List.mem_takeWhile_imp hc
  · exact fun c hc => List.mem_rtakeWhile_imp hc

theorem mem_strip_iff {c : Char} (hspace : isSpace c = false) (sql : String) :
    c ∈ (strip sql).toList ↔ c ∈ sql.toList := by
  obtain ⟨before, after, hsql, -, hbefore, hafter⟩ := exists_strip sql
  rw [hsql, List.mem_append, List.mem_append]
  constructor
  · exact fun hmiddle => .inr (.inl hmiddle)
  · rintro (hleft | hmiddle | hright)
    · exact absurd (hbefore _ hleft) (by simp [hspace])
    · exact hmiddle
    · exact absurd (hafter _ hright) (by simp [hspace])

theorem startsWith_upper_iff (text : String) :
    startsWith (upper table text) "SELECT" = true ↔
      "SELECT".toList <+: text.toList.flatMap table.toUpper := by
  simp only [startsWith, upper, String.toList_ofList, List.isPrefixOf_iff_prefix]

/-- The stripped text begins with the keyword's letters if its first word does. -/
theorem startsWith_upper_strip_iff (sql : String) :
    startsWith (upper table (strip sql)) "SELECT" = true ↔
      "SELECT".toList <+: ((sql.toList.dropWhile isSpace).takeWhile
        (Sql.isWordChar isSpace)).flatMap table.toUpper := by
  obtain ⟨before, after, -, hdropped, -, hafter⟩ := exists_strip sql
  have hspaces : ∀ c ∈ after.head?, Sql.isWordChar isSpace c = false := fun c hc =>
    isWordChar_of_isSpace (hafter c (List.mem_of_mem_head? hc))
  have hword : ∀ c ∈ ((sql.toList.dropWhile isSpace).dropWhile (Sql.isWordChar isSpace)).head?,
      Sql.isWordChar isSpace c = false := by
    intro c hc
    have hhead := List.head?_dropWhile_not (Sql.isWordChar isSpace) (sql.toList.dropWhile isSpace)
    rw [Option.mem_def.mp hc] at hhead
    exact hhead
  have hspaced := @select_prefix_append_iff table (strip sql).toList after hspaces
  have hworded := @select_prefix_append_iff table
    ((sql.toList.dropWhile isSpace).takeWhile (Sql.isWordChar isSpace)) _ hword
  rw [List.takeWhile_append_dropWhile] at hworded
  rw [startsWith_upper_iff, ← hspaced, ← hdropped, hworded]

/-- What the three checks amount to. -/
theorem validateSql_eq_ok_iff (sql : String) :
    validateSql table sql = .ok () ↔
      ';' ∉ sql.toList ∧ "SELECT".toList <+: ((sql.toList.dropWhile isSpace).takeWhile
        (Sql.isWordChar isSpace)).flatMap table.toUpper := by
  rw [validateSql, ← mem_strip_iff (by decide) sql, ← startsWith_upper_strip_iff]
  by_cases hempty : strip sql = ""
  · rw [if_pos hempty, hempty]
    exact iff_of_false (by simp) fun h => absurd h.2 (by simp [startsWith, upper])
  rw [if_neg hempty]
  by_cases hmem : ';' ∈ (strip sql).toList
  · rw [if_pos hmem]
    exact iff_of_false (by simp) fun h => h.1 hmem
  rw [if_neg hmem]
  by_cases hstart : startsWith (upper table (strip sql)) "SELECT" = true
  · rw [if_neg (not_not_intro hstart)]
    exact iff_of_true rfl ⟨hmem, hstart⟩
  · rw [if_pos hstart]
    exact iff_of_false (by simp) fun h => hstart h.2

/-- The first lexeme is the first word of the stripped text, or no word at all. -/
theorem firstWord_iff (nested : Bool) (sql : String) (p : String → Prop) :
    NoLeadingComment nested sql ∧ FirstWord table nested sql p ↔
      ∃ c rest, (sql.toList.dropWhile isSpace).takeWhile (Sql.isWordChar isSpace) = c :: rest ∧
        p (upper table (String.ofList (c :: rest))) := by
  have hfirst := @Sql.significant_eq isSpace nested sql.toList
  rw [NoLeadingComment, FirstWord, Sql.tokens]
  cases hdropped : sql.toList.dropWhile isSpace with
  | nil =>
      rw [hdropped] at hfirst
      simp [hfirst]
  | cons c rest =>
      rw [hdropped] at hfirst
      obtain ⟨later, hfirst⟩ := hfirst
      have hspace : isSpace c = false := by
        have hhead := List.head?_dropWhile_not isSpace sql.toList
        rw [hdropped] at hhead
        exact hhead
      rw [hfirst]
      by_cases hword : Sql.isWordChar isSpace c = true
      · rw [Sql.classify_word hspace hword, List.takeWhile_cons_of_pos hword]
        simp [Sql.take_length_takeWhile]
      · rw [List.takeWhile_cons_of_neg hword]
        refine iff_of_false ?_ (by simp)
        rintro ⟨hcomment, word, hhead, -⟩
        have hkept : decide ((Sql.classify isSpace nested c rest).1 ≠ .comment) = true := by
          simpa using hcomment _ rfl
        rw [List.filter_cons, if_pos hkept, List.head?_cons, Option.some.injEq,
          Sql.Lexeme.mk.injEq] at hhead
        exact hword (Sql.isWordChar_of_classify hhead.1)

/-- **The policy, as SQL has it.** A text is accepted if and only if it is exactly one non-empty
statement without a separator, holds no semicolon anywhere else either, has no comment in front, and
its first token is a word whose upper case begins with `SELECT`. -/
theorem validateSql_ok_iff (table : UpperTable) (nested : Bool) (sql : String) :
    validateSql table sql = .ok () ↔
      OneStatement nested sql ∧ ';' ∉ sql.toList ∧ NoLeadingComment nested sql ∧
        FirstWord table nested sql fun word => startsWith word "SELECT" = true := by
  have hstarts : ∀ word : List Char, startsWith (upper table (String.ofList word)) "SELECT" = true ↔
      "SELECT".toList <+: word.flatMap table.toUpper := by
    intro word
    rw [startsWith_upper_iff, @String.toList_ofList word]
  rw [validateSql_eq_ok_iff]
  constructor
  · rintro ⟨hsemicolon, hprefix⟩
    have hne : (sql.toList.dropWhile isSpace).takeWhile (Sql.isWordChar isSpace) ≠ [] := by
      intro hnone
      rw [hnone] at hprefix
      simp at hprefix
    obtain ⟨c, rest, hword⟩ := List.exists_cons_of_ne_nil hne
    rw [hword] at hprefix
    obtain ⟨hcomment, hfirst⟩ :=
      (@firstWord_iff table nested sql fun word => startsWith word "SELECT" = true).mpr
      ⟨c, rest, hword, (hstarts _).mpr hprefix⟩
    refine ⟨⟨?_, fun token htoken hkind => hsemicolon ?_⟩, hsemicolon, hcomment, hfirst⟩
    · obtain ⟨word, hhead, -⟩ := hfirst
      intro hnone
      rw [hnone] at hhead
      simp at hhead
    · have hlexed : token ∈ Sql.lex isSpace nested sql.toList :=
        List.mem_of_mem_filter (List.mem_of_mem_filter htoken)
      exact Sql.mem_of_mem_lex hlexed (Sql.mem_chars_of_separator hlexed hkind)
  · rintro ⟨-, hsemicolon, hcomment, hfirst⟩
    obtain ⟨c, rest, hword, hselect⟩ := (firstWord_iff nested sql _).mp ⟨hcomment, hfirst⟩
    rw [hword]
    exact ⟨hsemicolon, (hstarts _).mp hselect⟩

/-! ### Where the policy and SQL part -/

/-- Exactly one non-empty statement, whose first token is the keyword. -/
def SingleSelect (table : UpperTable) (nested : Bool) (sql : String) : Prop :=
  OneStatement nested sql ∧ FirstWord table nested sql (· = "SELECT")

/-- The table of a text that is ASCII. -/
def asciiUpper : UpperTable where
  toUpper := fun c => [c.toUpper]
  ascii := fun _ _ => rfl
  space := by
    intro c hspace
    have hnot := isWordChar_of_isSpace hspace
    simp only [Sql.isWordChar, Bool.or_eq_false_iff] at hnot
    rw [toUpper_of_not_isAlphanum hnot.1.1.1]

/-- A semicolon in a string and a comment in front are refused, and a longer word is let through. -/
theorem validateSql_not_lexical :
    (SingleSelect asciiUpper false "SELECT ';'" ∧ validateSql asciiUpper "SELECT ';'" ≠ .ok ()) ∧
      (SingleSelect asciiUpper false "/* all */ select 1" ∧
        validateSql asciiUpper "/* all */ select 1" ≠ .ok ()) ∧
      ¬SingleSelect asciiUpper false "SELECTED 1" ∧
      validateSql asciiUpper "SELECTED 1" = .ok () := by
  refine ⟨⟨⟨⟨by decide, by decide⟩, "SELECT".toList, by decide, by decide⟩, by decide⟩,
    ⟨⟨⟨by decide, by decide⟩, "select".toList, by decide, by decide⟩, by decide⟩, ?_, by decide⟩
  rintro ⟨-, word, hfirst, hkeyword⟩
  have hlexed : (Sql.tokens isSpace false "SELECTED 1".toList).head? =
      some ⟨.word, "SELECTED".toList⟩ := by decide
  obtain rfl : "SELECTED".toList = word := by simpa using hlexed.symm.trans hfirst
  exact absurd hkeyword (by decide)

end Athena.DatasetQueryService
