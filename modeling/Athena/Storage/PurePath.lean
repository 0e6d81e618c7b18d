import Athena.Library.PercentEncoding
import Athena.Python.Text
import Athena.Storage.FileSystem

/-!
# Names, suffixes and URIs of paths

What `pathlib` reads off a path without looking at the file system. The suffix of a name begins at
its last dot, unless that dot is its first or last character. `as_uri` percent-encodes every byte
but the unreserved characters and the separator; so the suffix of a file's URI is the encoded suffix
of the file.
-/

namespace Athena.PurePath

open Library

def name (path : Path) : String := path.getLast?.getD ""

/-- The place of the last dot, if `0 < i < len(name) - 1`. -/
def suffixStart (name : List Char) : Option Nat :=
  match Text.rfind '.' name with
  | some i => if 0 < i ∧ i < name.length - 1 then some i else none
  | none => none

def suffixOf (name : List Char) : List Char :=
  match suffixStart name with
  | some i => name.drop i
  | none => []

def stemOf (name : List Char) : List Char :=
  match suffixStart name with
  | some i => name.take i
  | none => name

def suffix (path : Path) : String := String.ofList (suffixOf (name path).toList)

def stem (path : Path) : String := String.ofList (stemOf (name path).toList)

/-- The unreserved characters of RFC 3986. -/
def unreserved (c : Char) : Bool := c.isAlphanum || c ∈ ['_', '.', '-', '~']

def safe (c : Char) : Bool := unreserved c || c = '/'

def asUri (path : Path) : String := "file://" ++ percentEncode safe ("/" ++ "/".intercalate path)

/-! ### The suffix of a name -/

theorem suffixOf_append {before after : List Char} (hafter : '.' ∉ after) :
    suffixOf (before ++ '.' :: after) = if before = [] ∨ after = [] then [] else '.' :: after := by
  have hlength : (before ++ '.' :: after).length - 1 = before.length + after.length := by
    simp only [List.length_append, List.length_cons]
    omega
  rw [suffixOf, suffixStart, Text.rfind_append hafter, hlength]
  by_cases hedge : before = [] ∨ after = []
  · have hstart : ¬(0 < before.length ∧ before.length < before.length + after.length) := by
      rcases hedge with rfl | rfl
      · simp
      · simp
    simp only [if_pos hedge, if_neg hstart]
  · obtain ⟨hbefore, hempty⟩ := not_or.mp hedge
    have hpositive := List.length_pos_iff.mpr hbefore
    have hrest := List.length_pos_iff.mpr hempty
    have hstart : 0 < before.length ∧ before.length < before.length + after.length := by omega
    simp only [if_neg hedge, if_pos hstart, List.drop_left]

theorem suffixOf_of_not_mem {name : List Char} (h : '.' ∉ name) : suffixOf name = [] := by
  rw [suffixOf, suffixStart, Text.rfind_eq_none h]

theorem mem_of_mem_suffixOf {name : List Char} {c : Char} (h : c ∈ suffixOf name) : c ∈ name := by
  rw [suffixOf] at h
  split at h
  · exact List.mem_of_mem_drop h
  · exact absurd h List.not_mem_nil

/-- A suffix is its dot and what follows. -/
theorem suffixOf_cases (name : List Char) :
    suffixOf name = [] ∨ ∃ after, after ≠ [] ∧ suffixOf name = '.' :: after := by
  by_cases hdot : '.' ∈ name
  · obtain ⟨before, after, rfl, hafter⟩ := Text.exists_last hdot
    rw [suffixOf_append hafter]
    split
    · exact .inl rfl
    · rename_i hne
      exact .inr ⟨after, fun hempty => hne (.inr hempty), rfl⟩
  · exact .inl (suffixOf_of_not_mem hdot)

/-- Encoding a name encodes its suffix. -/
theorem suffixOf_flatMap (name : List Char) :
    suffixOf (name.flatMap (percentChar safe)) = (suffixOf name).flatMap (percentChar safe) := by
  have hdot : ∀ text : List Char, '.' ∉ text → '.' ∉ text.flatMap (percentChar safe) :=
    fun text htext hmem =>
    htext (mem_of_mem_flatMap_percentChar (by decide) (by decide) hmem)
  have hnil : ∀ text : List Char, text.flatMap (percentChar safe) = [] ↔ text = [] := by
    intro text
    rw [List.flatMap_eq_nil_iff]
    constructor
    · intro hall
      cases text with
      | nil => rfl
      | cons c text => exact absurd (hall c List.mem_cons_self) (percentChar_ne_nil c)
    · rintro rfl c hc
      exact absurd hc List.not_mem_nil
  have hself : percentChar safe '.' = ['.'] := by decide
  by_cases hmem : '.' ∈ name
  · obtain ⟨before, after, rfl, hafter⟩ := Text.exists_last hmem
    rw [List.flatMap_append, List.flatMap_cons, hself, List.singleton_append,
      suffixOf_append (hdot after hafter), suffixOf_append hafter]
    simp only [hnil]
    split
    · rfl
    · rw [List.flatMap_cons, hself, List.singleton_append]
  · rw [suffixOf_of_not_mem hmem, suffixOf_of_not_mem (hdot name hmem)]
    rfl

/-! ### The URI of a path -/

theorem name_concat (above : Path) (last : String) : name (above ++ [last]) = last := by
  rw [name, List.getLast?_concat]
  rfl

/-- The last component of a path is what follows the last separator of its text. -/
theorem exists_text_concat (above : Path) (last : String) :
    ∃ before, ("/" ++ "/".intercalate (above ++ [last])).toList = before ++ '/' :: last.toList := by
  induction above with
  | nil => exact ⟨[], by simp⟩
  | cons directory above ih =>
      obtain ⟨before, hbefore⟩ := ih
      refine ⟨'/' :: directory.toList ++ before, ?_⟩
      obtain ⟨next, rest, hrest⟩ := List.exists_cons_of_ne_nil
        (List.append_ne_nil_of_right_ne_nil above (List.cons_ne_nil last []))
      rw [hrest] at hbefore
      rw [List.cons_append, hrest, String.intercalate_cons_cons]
      simpa [String.toList_append] using hbefore

theorem name_components_append {text : String} {before last : List Char}
    (htext : text.toList = before ++ '/' :: last)
    (hslash : '/' ∉ last) (hempty : last ≠ []) (hdot : last ≠ ['.']) :
    name (components text) = String.ofList last := by
  have hkept : String.ofList last ≠ "" ∧ String.ofList last ≠ "." := by
    constructor
    · intro h
      exact hempty (by simpa using congrArg String.toList h)
    · intro h
      exact hdot (by simpa using congrArg String.toList h)
  rw [components, htext, List.splitOn_append_cons_self, List.splitOn_eq_singleton hslash,
    List.map_append, List.filter_append]
  simp only [List.map_cons, List.map_nil, List.filter_cons, List.filter_nil]
  rw [if_pos (by simpa using hkept)]
  exact name_concat _ _

/-- **The suffix of a file's URI is the encoded suffix of its name.** -/
theorem suffix_components_asUri {above : Path} {last : String} (hlast : FileSystem.PlainName last) :
    suffix (components (asUri (above ++ [last]))) =
      percentEncode safe (suffix (above ++ [last])) := by
  obtain ⟨hempty, hdot, -, hslash, -⟩ := hlast
  obtain ⟨before, hbefore⟩ := exists_text_concat above last
  have htext :
      (asUri (above ++ [last])).toList = ("file://".toList ++ before.flatMap (percentChar safe)) ++
      '/' :: last.toList.flatMap (percentChar safe) := by
    have hself : percentChar safe '/' = ['/'] := by decide
    simp only [asUri, percentEncode, hbefore, String.toList_append, String.toList_ofList,
      List.flatMap_append, List.flatMap_cons, hself, List.append_assoc, List.singleton_append]
  have hname : name (components (asUri (above ++ [last]))) =
      String.ofList (last.toList.flatMap (percentChar safe)) := by
    apply name_components_append htext
    · exact fun hmem => hslash (mem_of_mem_flatMap_percentChar (by decide) (by decide) hmem)
    · intro hnil
      obtain ⟨c, hc⟩ := List.exists_mem_of_ne_nil last.toList (by simpa using hempty)
      exact percentChar_ne_nil c (List.flatMap_eq_nil_iff.mp hnil c hc)
    · intro hsingle
      have hmem : '.' ∈ last.toList := by
        apply @mem_of_mem_flatMap_percentChar safe _ _ (by decide) (by decide)
        rw [hsingle]
        exact List.mem_cons_self
      have hlength := @length_le_flatMap_percentChar safe last.toList
      rw [hsingle] at hlength
      obtain ⟨c, hc⟩ :=
        List.length_eq_one_iff.mp (Nat.le_antisymm hlength (List.length_pos_of_mem hmem))
      rw [hc, List.mem_singleton] at hmem
      rw [← hmem] at hc
      exact hdot (by simpa using congrArg String.ofList hc)
  rw [suffix, hname, suffix, name_concat, String.toList_ofList, suffixOf_flatMap, percentEncode,
    String.toList_ofList]

end Athena.PurePath
