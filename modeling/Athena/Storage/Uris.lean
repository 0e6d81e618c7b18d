import Athena.Storage.Assets
import Athena.Storage.Leads

/-!
# What the URI of an asset tells

The URI of a described asset is the percent-encoded path of its file. It can be read back: assets of
one provider have the same URI exactly when their references lead to the same file, and then they
are the same but for the reference. And the path that the URI stands for gives a reference to the
file, which is described in the same way. A reference leads somewhere only if no loop of links is on
its way; behind a loop CPython goes on by the text alone, and the path it comes to need not be
canonical.
-/

namespace Athena

open Library FileSystem

namespace PurePath

theorem stemOf_append_suffixOf (name : List Char) : stemOf name ++ suffixOf name = name := by
  rw [stemOf, suffixOf]
  cases suffixStart name with
  | none => exact List.append_nil name
  | some i => exact List.take_append_drop i name

/-- A file's name is its stem and its suffix. -/
theorem stem_append_suffix (path : Path) : stem path ++ suffix path = name path := by
  rw [stem, suffix, ← String.ofList_append, stemOf_append_suffixOf, String.ofList_toList]

theorem name_append (above : Path) {below : Path} (hne : below ≠ []) :
    name (above ++ below) = name below := by
  rw [name, name, List.getLast?_append_of_ne_nil above hne]

theorem asUri_injective {path path' : Path} (hplain : ∀ name ∈ path, PlainName name)
    (hplain' : ∀ name ∈ path', PlainName name) (hne : path ≠ []) (hne' : path' ≠ [])
    (h : asUri path = asUri path') :
    path = path' := by
  have hencoded : percentEncode safe ("/" ++ "/".intercalate path) =
      percentEncode safe ("/" ++ "/".intercalate path') :=
    (String.append_right_inj _).mp h
  have htext : "/".intercalate path = "/".intercalate path' :=
    (String.append_right_inj _).mp (percentEncode_injective (by decide) hencoded)
  calc path = components ("/".intercalate path) :=
        (LocalStorageProvider.components_intercalate hplain hne).symm
    _ = components ("/".intercalate path') := by rw [htext]
    _ = path' := LocalStorageProvider.components_intercalate hplain' hne'

end PurePath

namespace LocalStorageProvider

variable {runtime : Runtime} {provider : LocalStorageProvider} {fs : FileSystem}
  {reference reference' : String} {asset asset' : StorageAsset}

/-- What a reference is resolved to is where it leads. -/
theorem eq_of_leads {depth : Nat} {path path' : Path}
    (hleads : fs.Leads depth [] (provider.storageRoot ++ components reference) path)
    (h : provider.resolveReference fs reference = .ok path') : path' = path := by
  obtain ⟨hresolve, -, -⟩ := resolveReference_accepts h
  exact Except.ok.inj (hresolve.symm.trans (resolve_eq_ok_iff.mpr ⟨depth, hleads⟩))

/-- A described asset is the file that its reference resolves to. -/
theorem describe_ok (hroot : ∀ name ∈ provider.storageRoot, PlainName name)
    (hdirectory : fs.inode provider.storageRoot = some .directory)
    (h : provider.describe runtime fs reference = .ok asset) :
    ∃ below contents, below ≠ [] ∧ fs.Canonical (provider.storageRoot ++ below) ∧
      fs.inode (provider.storageRoot ++ below) = some (.file contents) ∧
      provider.resolveReference fs reference = .ok (provider.storageRoot ++ below) ∧
      provider.openBinary fs reference = .ok contents ∧
      asset = assetOf runtime reference (provider.storageRoot ++ below) contents := by
  cases hresolve : provider.resolveReference fs reference with
  | error e =>
      rw [(describe_of_error hresolve).1] at h
      cases h
  | ok path =>
      obtain ⟨hcanonical, ⟨below, hpath⟩, -⟩ := resolveReference_ok hroot hresolve
      obtain ⟨contents, hfile, hopen, hdescribe⟩ := @describe_of_ok runtime _ _ _ _ hroot hresolve
      subst hpath
      refine ⟨below, contents, ?_, hcanonical, hfile, rfl, hopen,
        Except.ok.inj (h.symm.trans hdescribe)⟩
      intro hnone
      rw [hnone, List.append_nil, hdirectory] at hfile
      cases hfile

/-- Where the references lead decides. -/
theorem uri_eq_iff (hroot : ∀ name ∈ provider.storageRoot, PlainName name)
    (hdirectory : fs.inode provider.storageRoot = some .directory) {depth depth' : Nat}
    {path path' : Path}
    (hleads : fs.Leads depth [] (provider.storageRoot ++ components reference) path)
    (hleads' : fs.Leads depth' [] (provider.storageRoot ++ components reference') path')
    (h : provider.describe runtime fs reference = .ok asset)
    (h' : provider.describe runtime fs reference' = .ok asset') :
    (asset.uri = asset'.uri ↔ path = path') ∧
      (asset.uri = asset'.uri → asset' = { asset with reference := reference' }) := by
  obtain ⟨below, contents, hne, hcanonical, hfile, hresolve, -, rfl⟩ :=
    describe_ok hroot hdirectory h
  obtain ⟨below', contents', hne', hcanonical', hfile', hresolve', -, rfl⟩ :=
    describe_ok hroot hdirectory h'
  obtain rfl := eq_of_leads hleads hresolve
  obtain rfl := eq_of_leads hleads' hresolve'
  have hsame : PurePath.asUri (provider.storageRoot ++ below) =
      PurePath.asUri (provider.storageRoot ++ below') →
      provider.storageRoot ++ below = provider.storageRoot ++ below' :=
    PurePath.asUri_injective hcanonical.plain hcanonical'.plain
      (List.append_ne_nil_of_right_ne_nil _ hne) (List.append_ne_nil_of_right_ne_nil _ hne')
  refine ⟨⟨hsame, congrArg PurePath.asUri⟩, fun huri => ?_⟩
  have hpath := hsame huri
  rw [hpath, hfile'] at hfile
  obtain rfl : contents' = contents := Inode.file.inj (Option.some.inj hfile)
  rw [hpath]
  rfl

/-- **A URI identifies its file.** Let references lead somewhere, without a loop of links. Two
assets that a provider describes have the same URI exactly when their references lead to the same
path, and then they differ in the reference only. The URI is that of this path, which lies below the
root; the reference that goes from the root to it is described as the same asset and opened as the
same bytes; and the name and the suffix together are the file's name. -/
theorem uri_identifies_file {cwd : Path} {storageRoot : String}
    (hcwd : fs.inode cwd = some .directory) (hinit : init fs cwd storageRoot = .ok provider)
    (hdirectory : fs.inode provider.storageRoot = some .directory) :
    (∀ reference depth path, fs.Leads depth [] (provider.storageRoot ++ components reference) path →
      ∀ asset, provider.describe runtime fs reference = .ok asset →
        ∃ below contents, below ≠ [] ∧ path = provider.storageRoot ++ below ∧
          fs.inode path = some (.file contents) ∧ asset.uri = PurePath.asUri path ∧
          asset.name ++ PurePath.suffix below = PurePath.name below ∧
          provider.describe runtime fs ("/".intercalate below) =
            .ok { asset with reference := "/".intercalate below } ∧
          provider.openBinary fs reference = .ok contents ∧
          provider.openBinary fs ("/".intercalate below) = .ok contents) ∧
      ∀ reference reference' depth depth' path path',
        fs.Leads depth [] (provider.storageRoot ++ components reference) path →
        fs.Leads depth' [] (provider.storageRoot ++ components reference') path' →
        ∀ asset asset', provider.describe runtime fs reference = .ok asset →
          provider.describe runtime fs reference' = .ok asset' →
            (asset.uri = asset'.uri ↔ path = path') ∧
              (asset.uri = asset'.uri → asset' = { asset with reference := reference' }) := by
  have hroot := (canonical_storageRoot hcwd hinit).plain
  refine ⟨fun reference depth path hleads asset h => ?_,
    fun _ _ _ _ _ _ hleads hleads' _ _ h h' => uri_eq_iff hroot hdirectory hleads hleads' h h'⟩
  obtain ⟨below, contents, hne, -, hfile, hresolved, hopen, rfl⟩ := describe_ok hroot hdirectory h
  obtain rfl := eq_of_leads hleads hresolved
  have hresolve := resolveReference_of_file hdirectory hfile
  obtain ⟨contents', hfile', hopen', hdescribe'⟩ := @describe_of_ok runtime _ _ _ _ hroot hresolve
  obtain rfl : contents = contents' := Inode.file.inj (Option.some.inj (hfile.symm.trans hfile'))
  have hname : PurePath.stem (provider.storageRoot ++ below) ++ PurePath.suffix below =
      PurePath.name below := by
    rw [PurePath.stem, PurePath.name_append _ hne]
    exact PurePath.stem_append_suffix below
  exact ⟨below, contents, hne, rfl, hfile, rfl, hname, hdescribe', hopen, hopen'⟩

def sampleAccented : FileSystem :=
  .ofInodes [([], .directory), (["data"], .directory), (["data", "été.csv"], .file [104, 105])]
    (by decide)

theorem uri_identifies_file_sample :
    ∃ asset asset', (⟨["data"]⟩ : LocalStorageProvider).describe sampleRuntime sampleAccented
        ("/".intercalate ["été.csv"]) = .ok asset ∧
      (⟨["data"]⟩ : LocalStorageProvider).describe sampleRuntime sampleAccented "up/../été.csv" =
        .ok asset' ∧
      asset.uri = PurePath.asUri ["data", "été.csv"] ∧ asset.uri = asset'.uri := by
  have hinit : init sampleAccented [] "data" = .ok ⟨["data"]⟩ := by decide
  have hcwd : sampleAccented.inode [] = some .directory := rfl
  have hresolve : (⟨["data"]⟩ : LocalStorageProvider).resolveReference sampleAccented
      ("/".intercalate ["été.csv"]) = .ok (["data"] ++ ["été.csv"]) :=
    @resolveReference_of_file ⟨["data"]⟩ sampleAccented ["été.csv"] [104, 105] rfl rfl
  obtain ⟨contents, hstat, -, hdescribe⟩ := @describe_of_accepted sampleRuntime _ _ _ _ hresolve
  have hwalk : sampleAccented.resolve [] (["data"] ++ components ("/".intercalate ["été.csv"])) =
      .ok ["data", "été.csv"] := by decide
  have hwalk' : sampleAccented.resolve [] (["data"] ++ components "up/../été.csv") =
      .ok ["data", "été.csv"] := by decide
  obtain ⟨depth, hleads⟩ := resolve_eq_ok_iff.mp hwalk
  obtain ⟨depth', hleads'⟩ := resolve_eq_ok_iff.mp hwalk'
  have hresolve' :
      (⟨["data"]⟩ : LocalStorageProvider).resolveReference sampleAccented "up/../été.csv" =
      .ok (["data"] ++ ["été.csv"]) := by
    rw [resolveReference, if_neg (by decide), if_neg (by decide), hwalk']
    rw [List.cons_append, List.nil_append] at hstat
    simp only [hstat]
    decide
  obtain ⟨contents', -, -, hdescribe'⟩ := @describe_of_accepted sampleRuntime _ _ _ _ hresolve'
  obtain ⟨hone, htwo⟩ := @uri_identifies_file sampleRuntime ⟨["data"]⟩ _ _ _ hcwd hinit rfl
  obtain ⟨below, contents'', -, -, -, huri, -⟩ := hone _ _ _ hleads _ hdescribe
  have hsame := (htwo _ _ _ _ _ _ hleads hleads' _ _ hdescribe hdescribe').1.mpr rfl
  exact ⟨_, _, hdescribe, hdescribe', huri, hsame⟩

end LocalStorageProvider

end Athena
