import Athena.Library.FirstMatch
import Athena.Profiling.Profiler

/-!
# The names of identifiers

The profiler recognises an identifier's name twice: `_is_identifier_name` answers yes or no, and
`_identifier_pattern` names the rule. Both read the same stripped and lowered name. No two of the
rules match one name: no listed name ends with a suffix, and no suffix is an ending of another.
-/

namespace Athena.DatasetProfiler

open Library

/-- What the rules look at. -/
def normalizedName (tables : CaseTables) (name : String) : String :=
  Text.lower tables (Text.strip name)

inductive IdentifierRule
  | name (n : String)
  | suffix (s : String)
  deriving DecidableEq

namespace IdentifierRule

def matching (normalized : String) : IdentifierRule → Bool
  | name n => normalized = n
  | suffix s => Text.endsWith normalized s

def descriptor : IdentifierRule → String
  | name n => "name:" ++ n
  | suffix s => "suffix:" ++ s

theorem matching_name {normalized n : String} :
    matching normalized (name n) = true ↔ normalized = n := by
  rw [matching, decide_eq_true_iff]

theorem matching_suffix (normalized s : String) :
    matching normalized (suffix s) = Text.endsWith normalized s := rfl

/-- The listed names, and after them the suffixes. -/
def rules : List IdentifierRule := IDENTIFIER_NAMES.map name ++ IDENTIFIER_SUFFIXES.map suffix

theorem name_mem_rules {n : String} : name n ∈ rules ↔ n ∈ IDENTIFIER_NAMES := by
  simp [rules]

theorem suffix_mem_rules {s : String} : suffix s ∈ rules ↔ s ∈ IDENTIFIER_SUFFIXES := by
  simp [rules]

theorem name_ne_suffix (n s : String) : "name:" ++ n ≠ "suffix:" ++ s := by
  intro h
  have hfirst := congrArg (fun text => text.toList.head?) h
  simp at hfirst

theorem descriptor_eq_name_iff {rule : IdentifierRule} {n : String} :
    rule.descriptor = "name:" ++ n ↔ rule = name n := by
  cases rule with
  | name n' =>
      rw [descriptor, String.append_right_inj, name.injEq]
  | suffix s =>
      rw [descriptor]
      exact iff_of_false (name_ne_suffix n s).symm (by simp)

theorem descriptor_eq_suffix_iff {rule : IdentifierRule} {s : String} :
    rule.descriptor = "suffix:" ++ s ↔ rule = suffix s := by
  cases rule with
  | name n =>
      rw [descriptor]
      exact iff_of_false (name_ne_suffix n s) (by simp)
  | suffix s' =>
      rw [descriptor, String.append_right_inj, suffix.injEq]

/-! ### One rule at most -/

/-- No suffix is an ending of another. -/
theorem suffixes_incomparable : ∀ s ∈ IDENTIFIER_SUFFIXES.map String.toList,
    ∀ t ∈ IDENTIFIER_SUFFIXES.map String.toList, s <:+ t → s = t := by
  decide

theorem not_endsWith_of_mem_names :
    ∀ n ∈ IDENTIFIER_NAMES, ∀ s ∈ IDENTIFIER_SUFFIXES, Text.endsWith n s = false := by
  decide

theorem exclusive_endsWith (normalized : String) :
    Exclusive (Text.endsWith normalized) IDENTIFIER_SUFFIXES := by
  intro s hs t ht hends hends'
  apply String.toList_injective
  exact eq_of_isSuffix suffixes_incomparable (List.mem_map_of_mem hs) (List.mem_map_of_mem ht)
    (List.isSuffixOf_iff_suffix.mp hends) (List.isSuffixOf_iff_suffix.mp hends')

theorem exclusive_rules (normalized : String) : Exclusive (matching normalized) rules := by
  have hapart : ∀ n s, name n ∈ rules → suffix s ∈ rules → matching normalized (name n) = true →
      matching normalized (suffix s) = true → False := by
    intro n s hn hs hname hsuffix
    obtain rfl := matching_name.mp hname
    have hnot :=
      not_endsWith_of_mem_names normalized (name_mem_rules.mp hn) s (suffix_mem_rules.mp hs)
    rw [matching_suffix, hnot] at hsuffix
    exact Bool.noConfusion hsuffix
  intro rule hrule rule' hrule' hmatches hmatches'
  cases rule with
  | name n =>
      cases rule' with
      | name n' =>
          obtain rfl := matching_name.mp hmatches
          obtain rfl := matching_name.mp hmatches'
          rfl
      | suffix s' => exact (hapart n s' hrule hrule' hmatches hmatches').elim
  | suffix s =>
      cases rule' with
      | name n' => exact (hapart n' s hrule' hrule hmatches' hmatches).elim
      | suffix s' =>
          exact congrArg suffix (exclusive_endsWith normalized s (suffix_mem_rules.mp hrule) s'
            (suffix_mem_rules.mp hrule') hmatches hmatches')

end IdentifierRule

/-! ### What the descriptor says -/

theorem identifierPattern_eq (tables : CaseTables) (name : String) :
    identifierPattern tables name =
      if normalizedName tables name ∈
        IDENTIFIER_NAMES then some ("name:" ++ normalizedName tables name)
      else (IDENTIFIER_SUFFIXES.find? (Text.endsWith (normalizedName tables name))).map
        ("suffix:" ++ ·) := rfl

/-- `_identifier_pattern` with the suffixes in any order. -/
def identifierPatternIn (tables : CaseTables) (suffixes : List String) (name : String) :
    Option String :=
  let normalized := Text.lower tables (Text.strip name)
  if normalized ∈ IDENTIFIER_NAMES then some ("name:" ++ normalized)
  else (suffixes.find? (Text.endsWith normalized)).map fun suffix => "suffix:" ++ suffix

theorem identifierPatternIn_perm (tables : CaseTables) {suffixes : List String}
    (h : suffixes.Perm IDENTIFIER_SUFFIXES) (name : String) :
    identifierPatternIn tables suffixes name = identifierPattern tables name := by
  rw [identifierPatternIn, identifierPattern, find?_perm (IdentifierRule.exclusive_endsWith _) h]

/-- The rule that matches, if any, is what the descriptor names. -/
theorem identifierPattern_eq_some_iff (tables : CaseTables) (name pattern : String) :
    identifierPattern tables name = some pattern ↔ ∃ rule ∈ IdentifierRule.rules,
      rule.matching (normalizedName tables name) = true ∧ rule.descriptor = pattern := by
  have hexclusive := IdentifierRule.exclusive_rules (normalizedName tables name)
  rw [identifierPattern_eq]
  by_cases hname : normalizedName tables name ∈ IDENTIFIER_NAMES
  · have hrule : IdentifierRule.name (normalizedName tables name) ∈ IdentifierRule.rules :=
      IdentifierRule.name_mem_rules.mpr hname
    rw [if_pos hname, Option.some.injEq]
    constructor
    · rintro rfl
      exact ⟨_, hrule, IdentifierRule.matching_name.mpr rfl, rfl⟩
    · rintro ⟨rule, hmem, hmatches, rfl⟩
      obtain rfl := hexclusive _ hrule rule hmem (IdentifierRule.matching_name.mpr rfl) hmatches
      rfl
  · rw [if_neg hname, Option.map_eq_some_iff]
    constructor
    · rintro ⟨s, hfound, rfl⟩
      refine ⟨.suffix s, IdentifierRule.suffix_mem_rules.mpr (List.mem_of_find?_eq_some hfound),
        ?_, ?_⟩
      · rw [IdentifierRule.matching_suffix]
        exact List.find?_some hfound
      · rw [IdentifierRule.descriptor_eq_suffix_iff]
    · rintro ⟨rule, hmem, hmatches, rfl⟩
      cases rule with
      | name n =>
          obtain rfl := IdentifierRule.matching_name.mp hmatches
          exact absurd (IdentifierRule.name_mem_rules.mp hmem) hname
      | suffix s =>
          rw [IdentifierRule.matching_suffix] at hmatches
          have hfound := (find?_eq_some_iff_of_exclusive (IdentifierRule.exclusive_endsWith _)).mpr
            ⟨IdentifierRule.suffix_mem_rules.mp hmem, hmatches⟩
          exact ⟨s, hfound, (IdentifierRule.descriptor_eq_suffix_iff.mpr rfl).symm⟩

/-- **One rule, truthfully named.** For every name: there is a descriptor exactly if the name is
recognised, and then it names a listed name that the normalized name is, or a suffix that it ends
with and then it is no listed name. At most one rule matches, so the suffixes can be tried in any
order. -/
theorem identifierPattern_names_the_rule (tables : CaseTables) (name : String) :
    ((identifierPattern tables name ≠ none) ↔ isIdentifierName tables name = true) ∧
    (∀ n, identifierPattern tables name = some ("name:" ++ n) →
      normalizedName tables name = n ∧ n ∈ IDENTIFIER_NAMES) ∧
    (∀ s, identifierPattern tables name = some ("suffix:" ++ s) → s ∈ IDENTIFIER_SUFFIXES ∧
      Text.endsWith (normalizedName tables name) s = true ∧
        normalizedName tables name ∉ IDENTIFIER_NAMES) ∧
    (∀ pattern, identifierPattern tables name = some pattern →
      (∃ n, pattern = "name:" ++ n) ∨ ∃ s, pattern = "suffix:" ++ s) ∧
    Exclusive (IdentifierRule.matching (normalizedName tables name)) IdentifierRule.rules ∧
    ∀ suffixes, suffixes.Perm IDENTIFIER_SUFFIXES →
      identifierPatternIn tables suffixes name = identifierPattern tables name := by
  refine ⟨?_, ?_, ?_, ?_, IdentifierRule.exclusive_rules _, fun suffixes h =>
    identifierPatternIn_perm tables h name⟩
  · rw [← isSome_identifierPattern, Option.isSome_iff_ne_none]
  · intro n h
    obtain ⟨rule, hmem, hmatches, hdescriptor⟩ := (identifierPattern_eq_some_iff tables name _).mp h
    obtain rfl := IdentifierRule.descriptor_eq_name_iff.mp hdescriptor
    exact ⟨IdentifierRule.matching_name.mp hmatches, IdentifierRule.name_mem_rules.mp hmem⟩
  · intro s h
    obtain ⟨rule, hmem, hmatches, hdescriptor⟩ := (identifierPattern_eq_some_iff tables name _).mp h
    obtain rfl := IdentifierRule.descriptor_eq_suffix_iff.mp hdescriptor
    refine ⟨IdentifierRule.suffix_mem_rules.mp hmem, hmatches, fun hname => ?_⟩
    have hnot :=
      IdentifierRule.not_endsWith_of_mem_names _ hname s (IdentifierRule.suffix_mem_rules.mp hmem)
    rw [IdentifierRule.matching_suffix, hnot] at hmatches
    exact Bool.noConfusion hmatches
  · intro pattern h
    obtain ⟨rule, -, -, rfl⟩ := (identifierPattern_eq_some_iff tables name _).mp h
    cases rule with
    | name n => exact .inl ⟨n, rfl⟩
    | suffix s => exact .inr ⟨s, rfl⟩

example : identifierPattern .ascii " Customer_ID " = some "suffix:_id" := by decide

end Athena.DatasetProfiler
