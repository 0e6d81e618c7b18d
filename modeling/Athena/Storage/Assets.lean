import Athena.Library.Chunks
import Athena.Loaders.Models
import Athena.Storage.Local
import Athena.Storage.PurePath

/-!
# Describing and opening an asset

Both entry points of a provider resolve their reference first. `describe` then reads the asset
through, chunk by chunk, however short the reads turn out, and `open_binary` hands it out.

The port is what the services see of a provider, at one moment: the asset it describes has the
reference it was asked for.
-/

namespace Athena

open FileSystem

/-- A digest of `hashlib`: to update it with two texts one after the other is to update it with
both. -/
structure HashAlgorithm where
  State : Type
  initial : State
  update : State → List UInt8 → State
  hexdigest : State → String
  update_nil : ∀ state, update state [] = state
  update_append :
    ∀ state first second, update (update state first) second = update state (first ++ second)

/-- How many bytes each read of an open file returns at most: never none, before the end. -/
structure ReadSizes where
  size : Nat → Nat
  positive : ∀ k, 0 < size k

/-- What an asset's description is computed with. -/
structure Runtime where
  tables : CaseTables
  hash : HashAlgorithm
  reads : ReadSizes

structure StorageProvider where
  describe : String → Except StorageError StorageAsset
  openBinary : String → Except StorageError (List UInt8)
  describe_reference : ∀ reference asset, describe reference = .ok asset →
    asset.reference = reference

/-- `path.open("rb")`, as the bytes there are to read. -/
def FileSystem.openFile (fs : FileSystem) (path : Path) : Except StorageError (List UInt8) :=
  match fs.stat path with
  | .error () => .error (.raised (.osError "File name too long"))
  | .ok none => .error (.raised (.osError "No such file or directory"))
  | .ok (some (.file contents)) => .ok contents
  | .ok (some _) => .error (.raised (.osError "Is a directory"))

/-- `path.stat().st_size` of a regular file. -/
def FileSystem.size (fs : FileSystem) (path : Path) : Except StorageError Nat :=
  (fs.openFile path).map List.length

namespace LocalStorageProvider

def HASH_CHUNK_SIZE : Nat := 1024 * 1024

/-- The loop of `_calculate_sha256`, before read number `k`. -/
def hashChunks (runtime : Runtime) (k : Nat) (digest : runtime.hash.State) (unread : List UInt8) :
    runtime.hash.State :=
  let chunk := unread.take (min HASH_CHUNK_SIZE (runtime.reads.size k))
  if chunk = [] then digest
  else hashChunks runtime (k + 1) (runtime.hash.update digest chunk) (unread.drop chunk.length)
termination_by unread.length
decreasing_by
  rename_i hchunk
  exact Library.length_drop_take_lt hchunk

def calculateSha256 (runtime : Runtime) (fs : FileSystem) (path : Path) :
    Except StorageError String := do
  let contents ← fs.openFile path
  return runtime.hash.hexdigest (hashChunks runtime 0 runtime.hash.initial contents)

def describe (runtime : Runtime) (provider : LocalStorageProvider) (fs : FileSystem)
    (reference : String) :
    Except StorageError StorageAsset := do
  let path ← provider.resolveReference fs reference
  let sizeBytes ← fs.size path
  let sha256 ← calculateSha256 runtime fs path
  return {
    reference := reference, name := PurePath.stem path
    extension := Text.lower runtime.tables (Text.removePrefix (PurePath.suffix path) ".")
    uri := PurePath.asUri path, sizeBytes := sizeBytes, sha256 := sha256 }

def openBinary (provider : LocalStorageProvider) (fs : FileSystem) (reference : String) :
    Except StorageError (List UInt8) := do
  let path ← provider.resolveReference fs reference
  fs.openFile path

variable {runtime : Runtime} {provider : LocalStorageProvider} {fs : FileSystem}
  {reference : String}

/-! ### A resolved reference is described and opened -/

theorem openFile_of_stat {path : Path} {contents : List UInt8}
    (h : fs.stat path = .ok (some (.file contents))) :
    fs.openFile path = .ok contents := by
  rw [openFile, h]

/-- What `describe` returns for a file. -/
def assetOf (runtime : Runtime) (reference : String) (path : Path) (contents : List UInt8) :
    StorageAsset where
  reference := reference
  name := PurePath.stem path
  extension := Text.lower runtime.tables (Text.removePrefix (PurePath.suffix path) ".")
  uri := PurePath.asUri path
  sizeBytes := contents.length
  sha256 := runtime.hash.hexdigest (hashChunks runtime 0 runtime.hash.initial contents)

theorem describe_of_error {e : StorageError}
    (h : provider.resolveReference fs reference = .error e) :
    provider.describe runtime fs reference = .error e ∧
      provider.openBinary fs reference = .error e := by
  rw [describe, openBinary, h]
  exact ⟨rfl, rfl⟩

/-- A reference that resolves is described and opened, as the same file. -/
theorem describe_of_accepted {path : Path} (h : provider.resolveReference fs reference = .ok path) :
    ∃ contents, fs.stat path = .ok (some (.file contents)) ∧
      provider.openBinary fs reference = .ok contents ∧
      provider.describe runtime fs reference = .ok (assetOf runtime reference path contents) := by
  obtain ⟨-, -, contents, hstat⟩ := resolveReference_accepts h
  have hopen := openFile_of_stat hstat
  refine ⟨contents, hstat, ?_, ?_⟩
  · rw [openBinary, h]
    exact hopen
  · simp only [describe, h, size, calculateSha256, hopen, bind, Except.bind, Except.map, pure,
      Except.pure]
    rfl

theorem describe_of_ok {path : Path} (hroot : ∀ name ∈ provider.storageRoot, PlainName name)
    (h : provider.resolveReference fs reference = .ok path) :
    ∃ contents, fs.inode path = some (.file contents) ∧
      provider.openBinary fs reference = .ok contents ∧
      provider.describe runtime fs reference = .ok (assetOf runtime reference path contents) := by
  obtain ⟨hcanonical, -, -⟩ := resolveReference_ok hroot h
  obtain ⟨contents, hstat, hopen, hdescribe⟩ := @describe_of_accepted runtime _ _ _ _ h
  exact ⟨contents, stat_eq_some hcanonical hstat, hopen, hdescribe⟩

theorem describe_reference {asset : StorageAsset}
    (h : provider.describe runtime fs reference = .ok asset) :
    asset.reference = reference := by
  rw [describe] at h
  cases hresolve : provider.resolveReference fs reference with
  | error e => simp [hresolve, bind, Except.bind] at h
  | ok path =>
      cases hsize : fs.size path with
      | error e => simp [hresolve, hsize, bind, Except.bind] at h
      | ok sizeBytes =>
          cases hhash : calculateSha256 runtime fs path with
          | error e => simp [hresolve, hsize, hhash, bind, Except.bind] at h
          | ok sha256 =>
              simp only [hresolve, hsize, hhash, bind, Except.bind, pure, Except.pure,
                Except.ok.injEq] at h
              rw [← h]

/-- The provider on the tree `fs`, as the port. -/
def port (runtime : Runtime) (provider : LocalStorageProvider) (fs : FileSystem) :
    StorageProvider where
  describe := provider.describe runtime fs
  openBinary := provider.openBinary fs
  describe_reference := fun _ _ h => describe_reference h

end LocalStorageProvider

/-- SHA-256, known for two texts. -/
def sampleHash : HashAlgorithm where
  State := List UInt8
  initial := []
  update := (· ++ ·)
  hexdigest := fun bytes =>
    if bytes = [] then "e3b0c44298fc1c149afbf4c8996fb92427ae41e4649b934ca495991b7852b855"
    else if bytes =
      [104, 105] then "8f434346648f6b96df89dda901c5176b10a6d83961dd3c1ac88b59b2dc327aa4"
    else ""
  update_nil := List.append_nil
  update_append := List.append_assoc

def sampleRuntime : Runtime := ⟨.ascii, sampleHash, ⟨fun _ => 1, fun _ => Nat.one_pos⟩⟩

end Athena
