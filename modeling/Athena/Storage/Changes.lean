import Athena.Library.Timed
import Athena.Storage.Outside

/-!
# Opening a reference while the tree changes

The checks of `_resolve_reference` and the `open` after them are calls to the system, one after
another, and other programs change the tree in between. Here every call finds the tree of its own
moment. As long as no symbolic link comes, goes or is turned elsewhere, what is opened is below the
root all the same, however files and directories come and go; a link that is put in place of a
checked file leads out. This is about references that meet no loop of links: the walk stops at a
loop, where CPython goes on by the text alone.
-/

namespace Athena

open FileSystem

open Library Library.Timed

/-! ### The walk -/

/-- `walk`, where each component is looked up in the tree of that moment. -/
def FileSystem.walkOver (history : ℕ → FileSystem) :
    ℕ → List Path → Path → List String → Timed WalkError Path
  | 0, _, _, _ => throw .outOfFuel
  | fuel + 1, seen, path, names =>
      names.foldlM (fun path name =>
        if name = ".." then pure path.dropLast
        else if '\x00' ∈ name.toList then throw .embeddedNull
        else do
          match ← look fun now => (history now).inode (path ++ [name]) with
          | some (.symlink target) =>
              if seen.contains (path ++ [name]) then throw (.symlinkLoop (path ++ [name]))
              else
                walkOver history fuel ((path ++ [name]) :: seen)
                  (if isAbsolute target then [] else path) (components target)
          | _ => pure (path ++ [name])) path

namespace LocalStorageProvider

variable {provider : LocalStorageProvider} {history : ℕ → FileSystem} {fuel now later : ℕ}
  {reference : String}

def resolveReferenceOver (provider : LocalStorageProvider) (history : ℕ → FileSystem) (fuel : ℕ)
    (reference : String) :
    Timed StorageError Path :=
  if reference = "" then
    throw (.invalidStorageReference "Storage reference must not be empty.")
  else if isAbsolute reference then
    throw (.invalidStorageReference
      "Storage reference must be relative to the configured storage root.")
  else do
    let path ← fun now =>
      (walkOver history fuel [] [] (provider.storageRoot ++ components reference) now).mapError
        fun e => .raised e.exception
    if ¬provider.storageRoot <+: path then
      throw
        (.invalidStorageReference "Storage reference resolves outside the configured storage root.")
    else
      match ← look fun now => (history now).stat path with
      | .error () => throw (.raised (.osError "File name too long"))
      | .ok none => throw (.storageAssetNotFound reference)
      | .ok (some _) =>
          -- `is_file` asks again.
          match ← look fun now => (history now).stat path with
          | .error () => throw (.raised (.osError "File name too long"))
          | .ok (some (.file _)) => pure path
          | .ok _ =>
              throw (.invalidStorageReference "Storage reference must identify a regular file.")

def openBinaryOver (provider : LocalStorageProvider) (history : ℕ → FileSystem) (fuel : ℕ)
    (reference : String) :
    Timed StorageError (List UInt8) := do
  let path ← provider.resolveReferenceOver history fuel reference
  let opened ← look fun now => (history now).openFile path
  MonadExcept.ofExcept opened

/-- After the walk there are three calls, each of which finds what is there at its moment. -/
theorem openBinaryOver_of_calls {below : Path} {between : ℕ} {found : Inode}
    {checked contents : List UInt8} (hnames : ∀ name ∈ below, PlainName name) (hbelow : below ≠ [])
    (hwalk : walkOver history fuel [] [] (provider.storageRoot ++ below) now =
      .ok (provider.storageRoot ++ below, between))
    (hexists : (history between).stat (provider.storageRoot ++ below) = .ok (some found))
    (hfile :
      (history (between + 1)).stat (provider.storageRoot ++ below) = .ok (some (.file checked)))
    (hopen :
      (history (between + 2)).stat (provider.storageRoot ++ below) = .ok (some (.file contents))) :
    provider.openBinaryOver history fuel ("/".intercalate below) now =
      .ok (contents, between + 3) := by
  obtain ⟨hnonempty, hrelative⟩ := intercalate_relative hnames hbelow
  have hresolved : provider.resolveReferenceOver history fuel ("/".intercalate below) now =
      .ok (provider.storageRoot ++ below, between + 2) := by
    rw [resolveReferenceOver, if_neg hnonempty, if_neg (by simp [hrelative]),
      components_intercalate hnames hbelow, bind_of_ok _
        (congrArg (Except.mapError fun e : WalkError => StorageError.raised e.exception) hwalk),
      if_neg (not_not_intro (List.prefix_append _ _))]
    simp only [look_bind, hexists, hfile]
    rfl
  rw [openBinaryOver, bind_of_ok _ hresolved]
  simp only [look_bind, openFile_of_stat hopen]
  rfl

def sampleChecked : FileSystem :=
  .ofInodes [([], .directory), (["data"], .directory), (["data", "sales.csv"], .file [104]),
    (["secret"], .file [115])] (by decide)

/-- A link out of the root has been put in place of the file. -/
def sampleLinked : FileSystem :=
  .ofInodes [([], .directory), (["data"], .directory), (["data", "sales.csv"], .symlink "/secret"),
    (["secret"], .file [115])] (by decide)

def sampleReplaced (now : ℕ) : FileSystem := if now < 4 then sampleChecked else sampleLinked

theorem canonical_sampleChecked : sampleChecked.Canonical ["data", "sales.csv"] := by
  have hfile : sampleChecked.inode ["data", "sales.csv"] = some (.file [104]) := rfl
  apply canonical_of_isSome
  · rw [hfile]
    rfl
  · rw [hfile]
    simp

theorem stat_sampleChecked : sampleChecked.stat ["data", "sales.csv"] = .ok (some (.file [104])) :=
  stat_eq_inode canonical_sampleChecked rfl

theorem stat_sampleLinked : sampleLinked.stat ["data", "sales.csv"] = .ok (some (.file [115])) := by
  have hcomponents : components "/secret" = ["secret"] := by decide
  have habsolute : isAbsolute "/secret" = true := by decide
  have hdata : ¬255 < "data".utf8ByteSize := by decide
  have hsales : ¬255 < "sales.csv".utf8ByteSize := by decide
  have hsecret : ¬255 < "secret".utf8ByteSize := by decide
  have hnamei : sampleLinked.namei 40 [] ["data", "sales.csv"] = .ok (some ["secret"]) := by
    simp [namei, inode, sampleLinked, FileSystem.ofInodes, List.lookup_cons, hcomponents, habsolute,
      hdata, hsales, hsecret]
  rw [stat, hnamei]
  rfl

/-- **With a link that comes in between, a file outside is opened.** -/
theorem open_escapes :
    (⟨["data"]⟩ : LocalStorageProvider).openBinaryOver sampleReplaced 1
      ("/".intercalate ["sales.csv"]) 0 =
        .ok ([115], 5) ∧
      ∀ now path, ["data"] <+: path → (sampleReplaced now).inode path ≠ some (.file [115]) := by
  constructor
  · have hnames : ∀ name ∈ ["sales.csv"], PlainName name := fun name hname =>
      canonical_sampleChecked.plain name (List.mem_cons_of_mem _ hname)
    exact openBinaryOver_of_calls hnames (by decide) (by decide)
      stat_sampleChecked stat_sampleChecked stat_sampleLinked
  · rintro now _ ⟨rest, rfl⟩ hfile
    rw [sampleReplaced] at hfile
    split at hfile
    · simp only [inode, sampleChecked, FileSystem.ofInodes, List.lookup_cons,
        List.lookup_nil] at hfile
      repeat' split at hfile
      all_goals simp_all
    · simp only [inode, sampleLinked, FileSystem.ofInodes, List.lookup_cons,
        List.lookup_nil] at hfile
      repeat' split at hfile
      all_goals simp_all

end LocalStorageProvider

end Athena
