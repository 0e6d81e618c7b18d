import Athena.Dataset.Service

/-!
# The two extensions of a registered dataset

A dataset's source type is the lower-cased suffix of the file that its reference resolved to. Its
`extension` is read off the URI, where every byte of a reserved or non-ASCII character stands as
three characters. The two agree as long as the suffix needs no encoding, whatever else the name
holds.
-/

namespace Athena

open Library FileSystem

variable {tables : CaseTables}

theorem PurePath.toNat_lt_of_unreserved {c : Char} (h : unreserved c = true) : c.toNat < 128 := by
  rcases Bool.or_eq_true_iff.mp h with hletter | hmark
  · obtain ⟨-, hbound⟩ := Text.toNat_of_isAlphanum hletter
    omega
  · have hall : ∀ d ∈ ['_', '.', '-', '~'], d.toNat < 128 := List.all_iff_forall_prop.mp (by decide)
    exact hall c (of_decide_eq_true hmark)

/-! ### Lower case and encoding -/

/-- The encoding of a text is at least as long as its lower case, and longer unless every character
is kept. -/
theorem Text.length_lowerAfter_le (h : tables.Lawful) (keep : Char → Bool)
    (before text : List Char) :
    (lowerAfter tables before text).length ≤ (text.flatMap (percentChar keep)).length ∧
      ((∃ c ∈ text, ¬Kept keep c) →
        (lowerAfter tables before text).length < (text.flatMap (percentChar keep)).length) := by
  induction text generalizing before with
  | nil => simp [lowerAfter]
  | cons c rest ih =>
      obtain ⟨image, himage, hcase⟩ := lowerAfter_cons tables before c rest
      obtain ⟨hle, hlt⟩ := ih (c :: before)
      have hfirst : image.length ≤ (percentChar keep c).length ∧
          (¬Kept keep c → image.length < (percentChar keep c).length) := by
        have hone : c.toNat < 128 → image.length = 1 := by
          intro hascii
          rcases hcase with rfl | ⟨-, hlength⟩
          · rw [h.ascii c hascii]
            rfl
          · exact hlength
        have hthree : image.length ≤ 3 := by
          rcases hcase with rfl | ⟨-, hlength⟩
          · exact h.length_le c
          · omega
        by_cases hkept : Kept keep c
        · rw [percentChar_of_kept hkept]
          exact ⟨Nat.le_of_eq (hone hkept.1), fun hnot => absurd hkept hnot⟩
        · obtain ⟨hlow, hhigh⟩ := length_percentChar_of_not_kept hkept
          omega
      rw [himage, List.flatMap_cons, List.length_append, List.length_append]
      refine ⟨by omega, ?_⟩
      rintro ⟨d, hd, hkept⟩
      rcases List.mem_cons.mp hd with rfl | hlater
      · have hstrict := hfirst.2 hkept
        omega
      · have hstrict := hlt ⟨d, hlater, hkept⟩
        omega

theorem Text.lowerAfter_flatMap_percentChar (h : tables.Lawful) (keep : Char → Bool)
    (before text : List Char) :
    lowerAfter tables before (text.flatMap (percentChar keep)) =
      (text.flatMap (percentChar keep)).map Char.toLower := by
  apply lowerAfter_ascii h
  intro c hc
  obtain ⟨d, -, hd⟩ := List.mem_flatMap.mp hc
  exact toNat_lt_of_mem_percentChar hd

/-- A text and its encoding have the same lower case only if they are the same. -/
theorem Text.lowerAfter_flatMap_eq_iff (h : tables.Lawful) (keep : Char → Bool)
    (before before' text : List Char) :
    lowerAfter tables before (text.flatMap (percentChar keep)) = lowerAfter tables before' text ↔
      ∀ c ∈ text, Kept keep c := by
  constructor
  · intro heq
    by_contra hnot
    push Not at hnot
    have hlt := (length_lowerAfter_le h keep before' text).2 hnot
    rw [← heq, lowerAfter_flatMap_percentChar h, List.length_map] at hlt
    exact absurd hlt (Nat.lt_irrefl _)
  · intro hkept
    rw [lowerAfter_flatMap_percentChar h, flatMap_percentChar_of_kept hkept,
      lowerAfter_ascii h fun c hc => (hkept c hc).1]

theorem kept_safe_iff {c : Char} (hslash : c ≠ '/') :
    Kept PurePath.safe c ↔ PurePath.unreserved c = true := by
  rw [Kept, PurePath.safe]
  constructor
  · rintro ⟨-, hsafe⟩
    simpa [hslash] using hsafe
  · intro hunreserved
    exact ⟨PurePath.toNat_lt_of_unreserved hunreserved, by rw [hunreserved, Bool.true_or]⟩

/-! ### The two facts -/

/-- The extension is a dot and the source type, or both are empty. -/
def Dataset.ExtensionsAgree (tables : CaseTables) (dataset : Dataset) : Prop :=
  dataset.extension tables = if dataset.sourceType = "" then "" else "." ++ dataset.sourceType

instance (dataset : Dataset) : Decidable (dataset.ExtensionsAgree tables) :=
  inferInstanceAs (Decidable (_ = _))

theorem dotted_eq_iff {left right : List Char} (hleft : left ≠ []) :
    String.ofList ('.' :: left) =
      (if String.ofList right = "" then "" else "." ++ String.ofList right) ↔
      left = right := by
  have htoList : ∀ text : String, String.ofList ('.' :: left) = text ↔
      '.' :: left = text.toList := by
    intro text
    rw [← String.toList_inj, String.toList_ofList]
  rw [htoList]
  by_cases hright : right = []
  · simp [hright, hleft]
  · simp [hright]

/-- What a suffix and its encoding are lowered to. -/
theorem lower_percentEncode_eq_iff (h : tables.Lawful) {name : List Char} (hslash : '/' ∉ name) :
    Text.lower tables (percentEncode PurePath.safe (String.ofList (PurePath.suffixOf name))) =
        (if Text.lower tables (Text.removePrefix (String.ofList (PurePath.suffixOf name)) ".") =
          "" then ""
          else "." ++
            Text.lower tables (Text.removePrefix (String.ofList (PurePath.suffixOf name)) ".")) ↔
      ∀ c ∈ PurePath.suffixOf name, PurePath.unreserved c = true := by
  rcases PurePath.suffixOf_cases name with hnone | ⟨after, hne, hsuffix⟩
  · simp [hnone, percentEncode, Text.removePrefix, Text.startsWith, Text.lower, Text.lowerAfter]
  have hself : percentChar PurePath.safe '.' = ['.'] := by decide
  have hdrop : Text.removePrefix (String.ofList ('.' :: after)) "." = String.ofList after := by
    simp [Text.removePrefix, Text.startsWith]
  have hencoded : Text.lower tables (percentEncode PurePath.safe (String.ofList ('.' :: after))) =
      String.ofList
        ('.' :: Text.lowerAfter tables ['.'] (after.flatMap (percentChar PurePath.safe))) := by
    obtain ⟨image, himage, rfl | ⟨hsigma, -⟩⟩ :=
      Text.lowerAfter_cons tables [] '.' (after.flatMap (percentChar PurePath.safe))
    · rw [Text.lower, percentEncode, String.toList_ofList, String.toList_ofList, List.flatMap_cons,
        hself, List.singleton_append, himage, h.ascii '.' (by decide)]
      rfl
    · exact absurd hsigma (by decide)
  have hnonempty :
      Text.lowerAfter tables ['.'] (after.flatMap (percentChar PurePath.safe)) ≠ [] := by
    have hlonger := @length_le_flatMap_percentChar PurePath.safe after
    have hpositive := List.length_pos_iff.mpr hne
    rw [Text.lowerAfter_flatMap_percentChar h, ← List.length_pos_iff, List.length_map]
    omega
  rw [hsuffix, hencoded, hdrop, Text.lower, String.toList_ofList, dotted_eq_iff hnonempty,
    Text.lowerAfter_flatMap_eq_iff h]
  have hunslashed : ∀ c ∈ after, c ≠ '/' := by
    rintro c hc rfl
    exact hslash (PurePath.mem_of_mem_suffixOf (hsuffix ▸ List.mem_cons_of_mem _ hc))
  constructor
  · intro hkept c hc
    rcases List.mem_cons.mp hc with rfl | hlater
    · decide
    · exact (kept_safe_iff (hunslashed c hlater)).mp (hkept c hlater)
  · intro hunreserved c hc
    exact (kept_safe_iff (hunslashed c hc)).mpr (hunreserved c (List.mem_cons_of_mem _ hc))

/-- **The two extensions agree exactly when the suffix needs no encoding.** For whatever a reference
resolves to below the root of a provider, in any tree: the dataset registered for it has an
`extension` of a dot and its source type, or both empty, if and only if every character of the
file's suffix is unreserved. -/
theorem extensions_agree_iff {runtime : Runtime} (htables : runtime.tables.Lawful)
    {fs₀ fs : FileSystem} {cwd : Path} {storageRoot : String} {provider : LocalStorageProvider}
    (hcwd : fs₀.inode cwd = some .directory)
    (hinit : LocalStorageProvider.init fs₀ cwd storageRoot = .ok provider) {reference : String}
    {path : Path}
    (hresolve : provider.resolveReference fs reference = .ok path) (service : DatasetService)
    (id : UUID) (now : Datetime) :
    ∃ asset, provider.describe runtime fs reference = .ok asset ∧
      ((service.datasetOf id now asset).ExtensionsAgree runtime.tables ↔
        ∀ c ∈ (PurePath.suffix path).toList, PurePath.unreserved c = true) := by
  have hroot := (LocalStorageProvider.canonical_storageRoot hcwd hinit).plain
  obtain ⟨hcanonical, -, -⟩ := LocalStorageProvider.resolveReference_ok hroot hresolve
  obtain ⟨contents, hfile, -, hdescribe⟩ :=
    @LocalStorageProvider.describe_of_ok runtime _ _ _ _ hroot hresolve
  refine ⟨_, hdescribe, ?_⟩
  have hne : path ≠ [] := by
    rintro rfl
    rw [inode, fs.root_directory] at hfile
    simp at hfile
  obtain ⟨above, last, rfl⟩ := (List.eq_nil_or_concat' path).resolve_left hne
  have hlast := hcanonical.plain last (by simp)
  have hextension := @PurePath.suffix_components_asUri above last hlast
  have hsuffix :
      PurePath.suffix (above ++ [last]) = String.ofList (PurePath.suffixOf last.toList) := by
    rw [PurePath.suffix, PurePath.name_concat]
  rw [Dataset.ExtensionsAgree, Dataset.extension]
  simp only [DatasetService.datasetOf, LocalStorageProvider.assetOf]
  simp only [hextension, hsuffix, String.toList_ofList]
  exact lower_percentEncode_eq_iff htables hlast.2.2.2.1

/-! ### Two files -/

def sampleFiles : FileSystem :=
  .ofInodes [([], .directory), (["data"], .directory),
    (["data", "café é.Q1 % of.CSV"], .file [104, 105]),
    (["data", "menu.café"], .file [])] (by decide)

def sampleService : DatasetService :=
  ⟨(⟨["data"]⟩ : LocalStorageProvider).port sampleRuntime sampleFiles, 0, "local"⟩

theorem resolveReference_sampleFiles {name : String} {contents : List UInt8}
    (h : sampleFiles.inode ["data", name] = some (.file contents)) :
    (⟨["data"]⟩ : LocalStorageProvider).resolveReference sampleFiles name = .ok ["data", name] := by
  have hroot : sampleFiles.inode ["data"] = some .directory := by decide
  have hresolve :=
    @LocalStorageProvider.resolveReference_of_file ⟨["data"]⟩ sampleFiles [name] contents hroot h
  rwa [String.intercalate_singleton] at hresolve

theorem init_sampleFiles : LocalStorageProvider.init sampleFiles [] "data/" = .ok ⟨["data"]⟩ := by
  decide

theorem extensions_agree_iff_sample :
    ∃ asset, (⟨["data"]⟩ : LocalStorageProvider).describe sampleRuntime sampleFiles
      "café é.Q1 % of.CSV" = .ok asset ∧
      (sampleService.datasetOf ⟨7⟩ sampleNow asset).ExtensionsAgree .ascii := by
  have hlawful : sampleRuntime.tables.Lawful := CaseTables.lawful_ascii
  have hresolve := @resolveReference_sampleFiles "café é.Q1 % of.CSV" [104, 105] (by decide)
  obtain ⟨asset, hdescribe, hagree⟩ :=
    extensions_agree_iff hlawful (by decide) init_sampleFiles hresolve sampleService ⟨7⟩ sampleNow
  exact ⟨asset, hdescribe, hagree.mpr (List.all_iff_forall_prop.mp (by decide))⟩

/-- A suffix with a letter outside ASCII: the source type keeps it, the extension holds its bytes.
-/
theorem extensions_disagree :
    ∃ asset, (⟨["data"]⟩ : LocalStorageProvider).describe sampleRuntime sampleFiles "menu.café" =
      .ok asset ∧
      asset.extension = "café" ∧
      (sampleService.datasetOf ⟨7⟩ sampleNow asset).extension .ascii = ".caf%c3%a9" ∧
      ¬(sampleService.datasetOf ⟨7⟩ sampleNow asset).ExtensionsAgree .ascii := by
  have hroot := (LocalStorageProvider.canonical_storageRoot (by decide) init_sampleFiles).plain
  obtain ⟨contents, -, -, hdescribe⟩ :=
    @LocalStorageProvider.describe_of_ok sampleRuntime _ _ _ _ hroot
    (@resolveReference_sampleFiles "menu.café" [] (by decide))
  refine ⟨_, hdescribe, ?_, ?_, ?_⟩
  · show Text.lower .ascii (Text.removePrefix (PurePath.suffix ["data", "menu.café"]) ".") = "café"
    decide
  · show Text.lower .ascii (PurePath.suffix (components (PurePath.asUri ["data", "menu.café"]))) =
      ".caf%c3%a9"
    decide
  · show ¬Text.lower .ascii (PurePath.suffix (components (PurePath.asUri ["data", "menu.café"]))) =
      if Text.lower .ascii (Text.removePrefix (PurePath.suffix ["data", "menu.café"]) ".") =
        "" then ""
      else "." ++ Text.lower .ascii (Text.removePrefix (PurePath.suffix ["data", "menu.café"]) ".")
    decide

end Athena
