import Athena.Storage.Assets

/-!
# The digest is that of the bytes handed out

`_calculate_sha256` reads the asset in chunks and updates a digest with each. It reads no more than
the chunk size at once, and perhaps less; the loop ends all the same, every byte is taken up once
and in its place, and the digest is that of the bytes which `open_binary` yields on the same tree.
-/

namespace Athena

open Library FileSystem

/-- `hashlib.sha256(contents).hexdigest()`. -/
def HashAlgorithm.sha256 (hash : HashAlgorithm) (contents : List UInt8) : String :=
  hash.hexdigest (hash.update hash.initial contents)

namespace LocalStorageProvider

/-- How many bytes `asset_file.read(self._HASH_CHUNK_SIZE)` returns at most, as read number `k`. -/
def readSize (runtime : Runtime) (k : Nat) : Nat := min HASH_CHUNK_SIZE (runtime.reads.size k)

theorem readSize_pos (runtime : Runtime) (k : Nat) : 0 < readSize runtime k := by
  have hread := runtime.reads.positive k
  rw [readSize, HASH_CHUNK_SIZE]
  omega

theorem hashChunks_eq_foldl (runtime : Runtime) (k : Nat) (digest : runtime.hash.State)
    (unread : List UInt8) :
    hashChunks runtime k digest unread =
      (chunksFrom (readSize runtime) k unread).foldl runtime.hash.update digest := by
  fun_induction hashChunks runtime k digest unread with
  | case1 k digest unread chunk hchunk =>
      have hend : unread.take (readSize runtime k) = [] := hchunk
      rw [chunksFrom_of_end hend, List.foldl_nil]
  | case2 k digest unread chunk hchunk ih =>
      have hmore : unread.take (readSize runtime k) ≠ [] := hchunk
      rw [ih, chunksFrom_of_more hmore, List.foldl_cons]
      rfl

theorem hashChunks_eq_update (runtime : Runtime) (digest : runtime.hash.State)
    (contents : List UInt8) :
    hashChunks runtime 0 digest contents = runtime.hash.update digest contents := by
  rw [hashChunks_eq_foldl, foldl_eq_flatten runtime.hash.update_nil runtime.hash.update_append,
    flatten_chunksFrom (readSize_pos runtime)]

/-- The chunks that make up a file as it is read: none is empty, none longer than the chunk size. -/
structure ReadAs (contents : List UInt8) (chunks : List (List UInt8)) : Prop where
  flatten : chunks.flatten = contents
  nonempty : ∀ chunk ∈ chunks, chunk ≠ []
  bounded : ∀ chunk ∈ chunks, chunk.length ≤ HASH_CHUNK_SIZE
  finite : chunks.length ≤ contents.length

theorem readAs_chunksFrom (runtime : Runtime) (contents : List UInt8) :
    ReadAs contents (chunksFrom (readSize runtime) 0 contents) := by
  have hnonempty : ∀ chunk ∈ chunksFrom (readSize runtime) 0 contents, chunk ≠ [] :=
    fun chunk hchunk =>
    (chunk_spec hchunk).1
  have hflatten := flatten_chunksFrom (readSize_pos runtime) 0 contents
  refine ⟨hflatten, hnonempty, fun chunk hchunk => ?_, ?_⟩
  · obtain ⟨-, k, hlength⟩ := chunk_spec hchunk
    exact Nat.le_trans hlength (Nat.min_le_left _ _)
  · have hcount := length_le_length_flatten hnonempty
    rwa [hflatten] at hcount

/-- **The description's digest and size are those of the bytes handed out.** -/
theorem describe_digest {runtime : Runtime} {provider : LocalStorageProvider} {fs : FileSystem}
    {reference : String}
    {path : Path} (hresolve : provider.resolveReference fs reference = .ok path) :
    ∃ contents asset chunks, provider.openBinary fs reference = .ok contents ∧
      provider.describe runtime fs reference = .ok asset ∧
      asset.sha256 = runtime.hash.sha256 contents ∧ asset.sizeBytes = contents.length ∧
      asset.reference = reference ∧
      ReadAs contents chunks ∧
      hashChunks runtime 0 runtime.hash.initial contents =
        chunks.foldl runtime.hash.update runtime.hash.initial := by
  obtain ⟨contents, -, hopen, hdescribe⟩ := @describe_of_accepted runtime _ _ _ _ hresolve
  refine ⟨contents, _, _, hopen, hdescribe, ?_, rfl, rfl, readAs_chunksFrom runtime contents,
    hashChunks_eq_foldl runtime 0 _ contents⟩
  rw [assetOf, hashChunks_eq_update]
  rfl

theorem describe_digest_sample :
    ∃ contents asset chunks,
      (⟨["data"]⟩ : LocalStorageProvider).openBinary sampleFileSystem "sales.csv" = .ok contents ∧
      (⟨["data"]⟩ : LocalStorageProvider).describe sampleRuntime sampleFileSystem "sales.csv" =
        .ok asset ∧
      asset.sha256 = sampleHash.sha256 contents ∧ asset.sizeBytes = contents.length ∧
      asset.reference = "sales.csv" ∧ ReadAs contents chunks ∧
      hashChunks sampleRuntime 0 sampleHash.initial contents =
        chunks.foldl sampleHash.update sampleHash.initial := by
  have hroot : sampleFileSystem.inode ["data"] = some .directory := by decide
  have hresolve :=
    @resolveReference_of_file ⟨["data"]⟩ sampleFileSystem ["sales.csv"] [104, 105] hroot (by decide)
  rw [String.intercalate_singleton] at hresolve
  exact describe_digest hresolve

end LocalStorageProvider

end Athena
