import Athena.Storage.Assets
import Athena.Storage.Leads

/-!
# What the provider does not see

Two trees may differ in everything outside the storage root but the links: in what there is, whether
it is a file or a directory, and what is in it. The walks meet the same links, so they end at the
same paths or fail at the same link; and only for a path below the root is the tree asked any
further. Behind a loop of links CPython resolves by the text alone, which may lead out of the root:
a reference that meets a loop is left aside.
-/

namespace Athena

open FileSystem

namespace FileSystem

variable {fs fs' : FileSystem}

def SameLinks (fs fs' : FileSystem) : Prop :=
  ∀ path target, fs.inode path = some (.symlink target) ↔ fs'.inode path = some (.symlink target)

/-- One system has both trees, with the same links everywhere and the same from `root` down. -/
structure SameBelow (root : Path) (fs fs' : FileSystem) : Prop where
  pathMax : fs.pathMax = fs'.pathMax
  links : SameLinks fs fs'
  below : ∀ path, root <+: path → fs.inode path = fs'.inode path

/-! ### The walks -/

theorem SameLinks.walk (h : SameLinks fs fs') (fuel : Nat) (seen : List Path) (path : Path)
    (names : List String) :
    fs.walk fuel seen path names = fs'.walk fuel seen path names := by
  induction fuel generalizing seen path names with
  | zero => rfl
  | succ fuel ihFuel =>
      induction names generalizing path with
      | nil => rw [walk_nil, walk_nil]
      | cons name rest ih =>
          rcases component_cases fs path name with
            rfl | ⟨hup, hnull⟩ | ⟨hup, hnull, hlink⟩ | ⟨hup, hnull, target, hlink⟩
          · rw [walk_up, walk_up]
            exact ih path.dropLast
          · rw [walk_null fuel seen path hup hnull rest, walk_null fuel seen path hup hnull rest]
          · have hlink' : ∀ target, fs'.inode (path ++ [name]) ≠ some (.symlink target) :=
              fun target htarget =>
              hlink target ((h _ target).mpr htarget)
            rw [walk_entry fuel seen hup hnull hlink rest,
              walk_entry fuel seen hup hnull hlink' rest]
            exact ih (path ++ [name])
          · have hlink' := (h _ target).mp hlink
            by_cases hseen : path ++ [name] ∈ seen
            · rw [walk_link_seen fuel hup hnull hlink hseen rest,
                walk_link_seen fuel hup hnull hlink' hseen rest]
            · rw [walk_link fuel hup hnull hlink hseen rest,
                walk_link fuel hup hnull hlink' hseen rest, ihFuel]
              congr 1
              funext reached
              exact ih reached

/-- The fuel does not show: it suffices in both trees. -/
theorem SameLinks.resolve (h : SameLinks fs fs') (path : Path) (names : List String) :
    fs.resolve path names = fs'.resolve path names := by
  have hfuel : fs.inodes.length + 1 + fs'.inodes.length =
      fs'.inodes.length + 1 + fs.inodes.length := by omega
  calc fs.resolve path names
      = fs.walk (fs.inodes.length + 1 + fs'.inodes.length) [] path names :=
        (walk_mono (resolve_ne_outOfFuel fs path names) fs'.inodes.length).symm
    _ = fs'.walk (fs'.inodes.length + 1 + fs.inodes.length) [] path names := by rw [hfuel, h.walk]
    _ = fs'.resolve path names := walk_mono (resolve_ne_outOfFuel fs' path names) fs.inodes.length

theorem SameLinks.canonical (h : SameLinks fs fs') {path : Path} (hpath : fs.Canonical path) :
    fs'.Canonical path :=
  ⟨hpath.plain, fun above habove target htarget =>
    hpath.linkless above habove target ((h above target).mpr htarget)⟩

/-! ### Below a directory -/

/-- The names down to a directory that is there are short enough. -/
theorem Overlong.below {root path : Path} (hroot : fs.inode root = some .directory)
    (hpath : root <+: path) (h : fs.Overlong [] path) :
    ∃ above name rest, path = above ++ name :: rest ∧ root <+: above ∧
      fs.inode above = some .directory ∧
      255 < name.utf8ByteSize := by
  obtain ⟨above, name, rest, hsplit, hdirectory, hlong⟩ := h
  rw [List.nil_append] at hdirectory
  refine ⟨above, name, rest, hsplit, ?_, hdirectory, hlong⟩
  have habove : above <+: path := ⟨name :: rest, hsplit.symm⟩
  rcases List.prefix_or_prefix_of_prefix hpath habove with hbelow | ⟨later, hlater⟩
  · exact hbelow
  cases later with
  | nil => rw [← hlater, List.append_nil]
  | cons first later =>
      -- The name would be one of an entry above the root.
      have hfirst : first = name := by
        obtain ⟨below, hbelow⟩ := hpath
        rw [hsplit, ← hlater, List.append_assoc, List.append_cancel_left_eq,
          List.cons_append] at hbelow
        exact (List.cons.inj hbelow).1
      have hentry : (fs.inode (above ++ [name])).isSome := by
        rw [← hlater, hfirst, List.append_cons] at hroot
        apply isSome_inode_of_append
        rw [hroot]
        rfl
      have hshort := (fs.valid_name above name hentry).2.2.2.2.2
      omega

theorem SameBelow.overlong {root path : Path} (h : SameBelow root fs fs')
    (hroot : fs.inode root = some .directory)
    (hpath : root <+: path) (hlong : fs.Overlong [] path) : fs'.Overlong [] path := by
  obtain ⟨above, name, rest, hsplit, habove, hdirectory, hsize⟩ := hlong.below hroot hpath
  refine ⟨above, name, rest, hsplit, ?_, hsize⟩
  rw [List.nil_append, ← h.below above habove]
  exact hdirectory

theorem SameBelow.symm {root : Path} (h : SameBelow root fs fs') : SameBelow root fs' fs :=
  ⟨h.pathMax.symm, fun path target => (h.links path target).symm, fun path hpath =>
    (h.below path hpath).symm⟩

theorem stat_of_none {path : Path} (hpath : fs.Canonical path) (hnone : fs.inode path = none)
    (hlong : ¬(fs.pathMax < textSize path ∨ fs.Overlong [] path)) : fs.stat path = .ok none := by
  cases hstat : fs.stat path with
  | error e => exact absurd ((stat_eq_error_iff hpath).mp hstat) hlong
  | ok found =>
      cases found with
      | none => rfl
      | some found =>
          rw [stat_eq_some hpath hstat] at hnone
          cases hnone

theorem SameBelow.stat {root path : Path} (h : SameBelow root fs fs')
    (hroot : fs.inode root = some .directory)
    (hpath : root <+: path) (hcanonical : fs.Canonical path) : fs.stat path = fs'.stat path := by
  have hcanonical' := h.links.canonical hcanonical
  have hroot' : fs'.inode root = some .directory := by
    rw [← h.below root (List.prefix_refl root)]
    exact hroot
  have hinode := h.below path hpath
  have hsame : (fs.pathMax < textSize path ∨ fs.Overlong [] path) ↔
      (fs'.pathMax < textSize path ∨ fs'.Overlong [] path) := by
    rw [h.pathMax]
    exact or_congr_right ⟨h.overlong hroot hpath, h.symm.overlong hroot' hpath⟩
  by_cases hlong : fs.pathMax < textSize path ∨ fs.Overlong [] path
  · rw [(stat_eq_error_iff hcanonical).mpr hlong,
      (stat_eq_error_iff hcanonical').mpr (hsame.mp hlong)]
  · cases hfound : fs.inode path with
    | none =>
        have hlong' := mt hsame.mpr hlong
        rw [stat_of_none hcanonical hfound hlong, stat_of_none hcanonical' (hinode ▸ hfound) hlong']
    | some found =>
        rw [stat_eq_inode hcanonical (by rw [hfound]; rfl),
          stat_eq_inode hcanonical' (by rw [← hinode, hfound]; rfl),
          hinode]

end FileSystem

/-! ### The provider -/

namespace LocalStorageProvider

variable {provider : LocalStorageProvider} {fs fs' : FileSystem} {runtime : Runtime}

theorem plain_storageRoot (hroot : fs.inode provider.storageRoot = some .directory) :
    ∀ name ∈ provider.storageRoot, PlainName name := by
  have hcanonical : fs.Canonical provider.storageRoot := by
    apply canonical_of_isSome
    · rw [hroot]
      rfl
    · rw [hroot]
      simp
  exact hcanonical.plain

theorem resolveReference_congr (h : SameBelow provider.storageRoot fs fs')
    (hroot : fs.inode provider.storageRoot = some .directory) (reference : String) :
    provider.resolveReference fs reference = provider.resolveReference fs' reference := by
  rw [resolveReference, resolveReference, ← h.links.resolve]
  split
  · rfl
  split
  · rfl
  cases hresolve : fs.resolve [] (provider.storageRoot ++ components reference) with
  | error e => rfl
  | ok path =>
      by_cases hbelow : provider.storageRoot <+: path
      · have hcanonical : fs.Canonical path :=
          resolve_canonical (fun name => mem_storageRoot_append (plain_storageRoot hroot))
            (canonical_root fs) hresolve
        simp only [h.stat hroot hbelow hcanonical]
      · simp only [hbelow, not_false_eq_true, if_true]

theorem openFile_congr (h : SameBelow provider.storageRoot fs fs')
    (hroot : fs.inode provider.storageRoot = some .directory) {reference : String} {path : Path}
    (hpath : provider.resolveReference fs reference = .ok path) :
    fs.openFile path = fs'.openFile path := by
  obtain ⟨hcanonical, hbelow, -⟩ := resolveReference_ok (plain_storageRoot hroot) hpath
  rw [openFile, openFile, h.stat hroot hbelow hcanonical]

theorem openBinary_congr (h : SameBelow provider.storageRoot fs fs')
    (hroot : fs.inode provider.storageRoot = some .directory) (reference : String) :
    provider.openBinary fs reference = provider.openBinary fs' reference := by
  rw [openBinary, openBinary, ← resolveReference_congr h hroot]
  cases hpath : provider.resolveReference fs reference with
  | error e => rfl
  | ok path => exact openFile_congr h hroot hpath

theorem describe_congr (h : SameBelow provider.storageRoot fs fs')
    (hroot : fs.inode provider.storageRoot = some .directory) (reference : String) :
    provider.describe runtime fs reference = provider.describe runtime fs' reference := by
  rw [describe, describe, ← resolveReference_congr h hroot]
  cases hpath : provider.resolveReference fs reference with
  | error e => rfl
  | ok path =>
      have hopen := openFile_congr h hroot hpath
      simp only [bind, Except.bind, FileSystem.size, calculateSha256, hopen]

/-- **What lies outside the root has no influence.** Let two trees have the same links, and be the
same from the root of the provider down. Then a provider that is set up in the other tree has the
same root, and a reference meets no loop of links in the one where it meets none in the other, and
is answered in the same way, with the same asset, the same bytes or the same error. -/
theorem outside_has_no_influence {cwd : Path} {storageRoot : String}
    (hinit : init fs cwd storageRoot = .ok provider)
    (hroot : fs.inode provider.storageRoot = some .directory)
    (h : SameBelow provider.storageRoot fs fs') :
    init fs' cwd storageRoot = .ok provider ∧
      ∀ reference, ¬fs.MeetsLoop [] (provider.storageRoot ++ components reference) →
        ¬fs'.MeetsLoop [] (provider.storageRoot ++ components reference) ∧
          provider.describe runtime fs' reference = provider.describe runtime fs reference ∧
          provider.openBinary fs' reference = provider.openBinary fs reference := by
  refine ⟨?_, fun reference hloop => ⟨?_, ?_, ?_⟩⟩
  · rw [init, ← h.links.resolve]
    exact hinit
  · rw [MeetsLoop, ← h.links.resolve]
    exact hloop
  · exact (describe_congr h hroot reference).symm
  · exact (openBinary_congr h hroot reference).symm

/-- The file outside the root has gone, and another has taken the place of its directory. -/
def sampleFileSystemElsewhere : FileSystem :=
  .ofInodes [([], .directory), (["data"], .directory), (["data", "sales.csv"], .file [104, 105]),
    (["data", "out"], .symlink "../data-private"), (["data-private"], .file [1]),
    (["current"], .symlink "/data"), (["more"], .directory)] (by decide)

theorem sameBelow_sample : SameBelow ["data"] sampleFileSystem sampleFileSystemElsewhere := by
  refine ⟨rfl, ?_, ?_⟩
  · intro path target
    by_cases hout : path = ["data", "out"]
    · rw [hout]
      exact Iff.rfl
    by_cases hcurrent : path = ["current"]
    · rw [hcurrent]
      exact Iff.rfl
    -- There is no other link in either tree.
    have hout' : (path == ["data", "out"]) = false := beq_eq_false_iff_ne.mpr hout
    have hcurrent' : (path == ["current"]) = false := beq_eq_false_iff_ne.mpr hcurrent
    simp only [inode, sampleFileSystem, sampleFileSystemElsewhere, FileSystem.ofInodes,
      List.lookup_cons, hout', hcurrent', List.lookup_nil]
    constructor <;> intro hlink <;> repeat' split at hlink
    all_goals simp at hlink
  · rintro _ ⟨rest, rfl⟩
    simp [inode, sampleFileSystem, sampleFileSystemElsewhere, FileSystem.ofInodes, List.lookup_cons]

theorem outside_has_no_influence_sample :
    init sampleFileSystemElsewhere ["data"] "../current/" = .ok ⟨["data"]⟩ ∧
      (⟨["data"]⟩ : LocalStorageProvider).openBinary sampleFileSystemElsewhere "out/sales.csv" =
        (⟨["data"]⟩ : LocalStorageProvider).openBinary sampleFileSystem "out/sales.csv" := by
  have hinit : init sampleFileSystem ["data"] "../current/" = .ok ⟨["data"]⟩ := by decide
  have hleads : sampleFileSystem.resolve [] (["data"] ++ components "out/sales.csv") =
      .ok ["data-private", "sales.csv"] := by decide
  have hloop : ¬sampleFileSystem.MeetsLoop [] (["data"] ++ components "out/sales.csv") := by
    rintro ⟨link, hlink⟩
    rw [hleads] at hlink
    cases hlink
  obtain ⟨hinit', hsame⟩ :=
    @outside_has_no_influence ⟨["data"]⟩ _ _ sampleRuntime _ _ hinit (by decide) sameBelow_sample
  exact ⟨hinit', (hsame "out/sales.csv" hloop).2.2⟩

end LocalStorageProvider

end Athena
