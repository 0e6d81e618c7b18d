import Athena.Python.Exception
import Athena.Storage.FileSystem

/-!
# The local storage provider

The provider resolves its root once. A reference is taken from there, resolved, and accepted only if
what it resolves to still lies below the root and is a regular file. The comparison is by
components, and both sides are canonical, so that no link, no `..` and no sibling of the root gets
through.
-/

namespace Athena

open FileSystem

inductive StorageError
  | invalidStorageReference (message : String)
  | storageAssetNotFound (reference : String)
  /-- An exception that the provider does not translate. -/
  | raised (e : PyException)
  deriving DecidableEq

def WalkError.exception : WalkError → PyException
  | .symlinkLoop link => .runtimeError ("Symlink loop from '/" ++ "/".intercalate link ++ "'")
  | .embeddedNull => .valueError "embedded null byte"
  -- Never the case: `resolve_ne_outOfFuel`.
  | .outOfFuel => .runtimeError ""

structure LocalStorageProvider where
  storageRoot : Path
  deriving DecidableEq

namespace LocalStorageProvider

/-- `LocalStorageProvider(storage_root)`, in a process whose working directory is `cwd`. -/
def init (fs : FileSystem) (cwd : Path) (storageRoot : String) :
    Except StorageError LocalStorageProvider :=
  match fs.resolve (if isAbsolute storageRoot then [] else cwd) (components storageRoot) with
  | .error e => .error (.raised e.exception)
  | .ok path => .ok ⟨path⟩

def resolveReference (provider : LocalStorageProvider) (fs : FileSystem) (reference : String) :
    Except StorageError Path :=
  if reference = "" then
    .error (.invalidStorageReference "Storage reference must not be empty.")
  else if isAbsolute reference then
    .error (.invalidStorageReference
      "Storage reference must be relative to the configured storage root.")
  else
    match fs.resolve [] (provider.storageRoot ++ components reference) with
    | .error e => .error (.raised e.exception)
    | .ok path =>
        if ¬provider.storageRoot <+: path then
          .error (.invalidStorageReference
            "Storage reference resolves outside the configured storage root.")
        else
          match fs.stat path with
          | .error () => .error (.raised (.osError "File name too long"))
          | .ok none => .error (.storageAssetNotFound reference)
          | .ok (some (.file _)) => .ok path
          | .ok (some _) =>
              .error (.invalidStorageReference "Storage reference must identify a regular file.")

variable {provider : LocalStorageProvider} {fs : FileSystem}

theorem mem_storageRoot_append {reference name : String}
    (hroot : ∀ name ∈ provider.storageRoot, PlainName name)
    (h : name ∈ provider.storageRoot ++ components reference) :
    name ≠ "" ∧ name ≠ "." ∧ '/' ∉ name.toList := by
  rcases List.mem_append.mp h with habove | hbelow
  · obtain ⟨hempty, hdot, -, hslash, -⟩ := hroot name habove
    exact ⟨hempty, hdot, hslash⟩
  · exact components_spec hbelow

/-- A reference is accepted where its walk ends below the root, at a regular file. -/
theorem resolveReference_accepts {reference : String} {path : Path}
    (h : provider.resolveReference fs reference = .ok path) :
    fs.resolve [] (provider.storageRoot ++ components reference) = .ok path ∧
      provider.storageRoot <+: path ∧
      ∃ contents, fs.stat path = .ok (some (.file contents)) := by
  rw [resolveReference] at h
  split at h
  · simp at h
  · split at h
    · simp at h
    · split at h
      · simp at h
      · rename_i resolved hresolve
        split at h
        · simp at h
        · rename_i hbelow
          split at h
          · simp at h
          · simp at h
          · rename_i contents hstat
            obtain rfl := Except.ok.inj h
            exact ⟨hresolve, not_not.mp hbelow, contents, hstat⟩
          · simp at h

/-- What is returned is canonical, because a walk from the root only ends at canonical paths; only
then does the check by components mean what it says. -/
theorem resolveReference_ok {reference : String} {path : Path}
    (hroot : ∀ name ∈ provider.storageRoot, PlainName name)
    (h : provider.resolveReference fs reference = .ok path) :
    fs.Canonical path ∧ provider.storageRoot <+: path ∧
      ∃ contents, fs.inode path = some (.file contents) := by
  obtain ⟨hresolve, hbelow, contents, hstat⟩ := resolveReference_accepts h
  have hcanonical : fs.Canonical path :=
    resolve_canonical (fun name => mem_storageRoot_append hroot) (canonical_root fs) hresolve
  exact ⟨hcanonical, hbelow, contents, stat_eq_some hcanonical hstat⟩

/-- The text of a path below the root names it. -/
theorem components_intercalate {names : List String} (hnames : ∀ name ∈ names, PlainName name)
    (hne : names ≠ []) :
    components ("/".intercalate names) = names := by
  have hparts : ("/".intercalate names).toList.splitOn '/' = names.map String.toList := by
    rw [String.toList_intercalate]
    apply List.splitOn_intercalate
    · intro part hpart
      obtain ⟨name, hname, rfl⟩ := List.mem_map.mp hpart
      exact (hnames name hname).2.2.2.1
    · simpa using hne
  rw [components, hparts, List.map_map, List.filter_eq_self.mpr]
  · simp
  · intro name hname
    obtain ⟨name', hname', rfl⟩ := List.mem_map.mp hname
    simpa using ⟨(hnames name' hname').1, (hnames name' hname').2.1⟩

theorem intercalate_relative {names : List String} (hnames : ∀ name ∈ names, PlainName name)
    (hne : names ≠ []) :
    "/".intercalate names ≠ "" ∧ isAbsolute ("/".intercalate names) = false := by
  cases names with
  | nil => exact absurd rfl hne
  | cons name names =>
      obtain ⟨hempty, -, -, hslash, -⟩ := hnames name List.mem_cons_self
      have hfirst : ∃ rest, "/".intercalate (name :: names) = name ++ rest := by
        cases names with
        | nil => exact ⟨"", by simp⟩
        | cons name' names => exact ⟨"/" ++ "/".intercalate (name' :: names), by
            rw [String.intercalate_cons_cons, String.append_assoc]⟩
      obtain ⟨rest, hrest⟩ := hfirst
      cases hchars : name.toList with
      | nil => exact absurd (by simpa using hchars) hempty
      | cons c chars =>
          have hc : c ≠ '/' := by
            rintro rfl
            exact hslash (hchars ▸ List.mem_cons_self)
          have htext : ("/".intercalate (name :: names)).toList = c :: (chars ++ rest.toList) := by
            rw [hrest, String.toList_append, hchars, List.cons_append]
          constructor
          · intro hnone
            rw [hnone] at htext
            simp at htext
          · simpa [isAbsolute, htext] using hc

theorem canonical_storageRoot {cwd : Path} {storageRoot : String}
    (hcwd : fs.inode cwd = some .directory)
    (hinit : init fs cwd storageRoot = .ok provider) : fs.Canonical provider.storageRoot := by
  have hstart : fs.Canonical (if isAbsolute storageRoot then [] else cwd) := by
    split
    · exact canonical_root fs
    · exact canonical_of_isSome (by rw [hcwd]; rfl) (by rw [hcwd]; simp)
  rw [init] at hinit
  split at hinit
  · simp at hinit
  · rename_i path hresolve
    obtain rfl := Except.ok.inj hinit
    exact resolve_canonical (fun name => components_spec) hstart hresolve

theorem resolveReference_of_file {below : Path} {contents : List UInt8}
    (hroot : fs.inode provider.storageRoot = some .directory)
    (hfile : fs.inode (provider.storageRoot ++ below) = some (.file contents)) :
    provider.resolveReference fs ("/".intercalate below) = .ok (provider.storageRoot ++ below) := by
  have hentry : (fs.inode (provider.storageRoot ++ below)).isSome := by rw [hfile]; rfl
  have hcanonical : fs.Canonical (provider.storageRoot ++ below) :=
    canonical_of_isSome hentry (by rw [hfile]; simp)
  have hnames : ∀ name ∈ below, PlainName name := fun name hname =>
    hcanonical.plain name (List.mem_append_right _ hname)
  have hne : below ≠ [] := by
    rintro rfl
    rw [List.append_nil, hroot] at hfile
    simp at hfile
  obtain ⟨hnonempty, hrelative⟩ := intercalate_relative hnames hne
  have hresolve :
      fs.resolve [] (provider.storageRoot ++ below) = .ok (provider.storageRoot ++ below) :=
    walk_of_canonical _ _ hcanonical
  rw [resolveReference, if_neg hnonempty, if_neg (by simp [hrelative]),
    components_intercalate hnames hne, hresolve]
  simp only [List.prefix_append, not_true, if_false, stat_eq_inode hcanonical hentry, hfile]

/-- A root that is reached through a link, and a link that leaves it. -/
def sampleFileSystem : FileSystem :=
  .ofInodes [([], .directory), (["data"], .directory), (["data", "sales.csv"], .file [104, 105]),
    (["data", "out"], .symlink "../data-private"), (["data-private"], .directory),
    (["data-private", "sales.csv"], .file []), (["current"], .symlink "/data")] (by decide)

end LocalStorageProvider

end Athena
