import Athena.Api.Handlers
import Athena.Storage.Digests
import Athena.Storage.Outside
import Athena.Storage.Uris

/-!
# What is analysed is what was registered

From the client's request down to the bytes on disk. A registration reads a file through, and keeps
its size, its digest and the reference, but not the bytes; a profile or a query reads what the
reference leads to at that moment, and does not look at the digest. So as long as nothing changes
below the storage root, and no link changes anywhere, each analysis is one of the bytes that were
registered; and whatever has changed, it is one of the bytes that the provider now opens. This is
about references that meet no loop of links: behind a loop CPython resolves by the text alone.
-/

namespace Athena

open Library Library.Program Persistence LocalStorageProvider

variable {V : Type} {tables : CaseTables} {table : Text.UpperTable} {readers : Readers V}

/-- What becomes of the bytes of an asset, for a dataset that was registered under the source type.
-/
def parseBytes (readers : Readers V) (sourceType : String) (asset : StorageAsset)
    (contents : List UInt8) :
    Except ServiceError (TabularLoadResult V) :=
  (if sourceType = "csv" then CSVLoader.parse readers asset.reference {} contents
    else if sourceType ∈ ["xls", "xlsx"] then ExcelLoader.parse readers asset.reference {} contents
    else .error (.unsupportedDatasetFormat ("Unsupported dataset format: " ++ sourceType))).map
      fun dataframe => ⟨asset, dataframe, readers.estimatedSize dataframe⟩

/-- The answer to an operation that loads these bytes and uses the table. -/
def analysed (tables : CaseTables) (readers : Readers V) (operation : Operation)
    (use : TabularLoadResult V → Except ServiceError (Answer V)) (sourceType : String)
    (asset : StorageAsset)
    (contents : List UInt8) : Except RouteError (Payload V) :=
  (((parseBytes readers sourceType asset contents).bind use).mapError operation.translate).map
    (Answer.payload tables)

theorem loads_of_opened {provider : StorageProvider} {dataset : Dataset} {asset : StorageAsset}
    {contents : List UInt8} (hdescribe : provider.describe dataset.reference = .ok asset)
    (hopen : provider.openBinary dataset.reference = .ok contents) :
    (loads readers provider dataset).1 = parseBytes readers dataset.sourceType asset contents := by
  have hreference := provider.describe_reference _ _ hdescribe
  rw [loads, parseBytes, hreference]
  have hanswered : ∀ parse : List UInt8 → Except ServiceError (DataFrame V),
      answered readers provider dataset.reference parse =
        (parse contents).map fun dataframe =>
          ⟨asset, dataframe, readers.estimatedSize dataframe⟩ := by
    intro parse
    rw [answered, hdescribe, hopen]
    cases hparse : parse contents <;> simp [Except.mapError, Except.map, bind, Except.bind, hparse,
      pure, Except.pure]
  split
  · exact hanswered _
  · split
    · exact hanswered _
    · rfl

section Exchanges

variable {exchanges : List (Exchange V)} {w w' : World} {m : CatalogMap} {e : Exchange V}

/-- An entry stays what it is. -/
theorem lookup_afterwards (h : Represents w m)
    (hlater : Trace (Exchange.Step tables table readers) w exchanges w') :
    ∃ m', Represents w' m' ∧ ∀ id stored, m.entries.lookup id = some stored →
      m'.entries.lookup id = some stored := by
  apply hlater.invariant (I := fun _ w' => ∃ m', Represents w' m' ∧
    ∀ id stored, m.entries.lookup id = some stored → m'.entries.lookup id = some stored)
  · exact ⟨m, h, fun _ _ hlookup => hlookup⟩
  · rintro exchanges w₁ e w₂ - ⟨m₁, hrep, hkept⟩ hstep
    obtain ⟨⟨m₂, hrep', heffect⟩, -⟩ := hstep.effect hrep
    refine ⟨m₂, hrep', fun id stored hlookup => ?_⟩
    have hold := hkept id stored hlookup
    cases heffect with
    | started | stopped | unchanged => exact hold
    | @registered _ _ _ _ _ dataset _ _ _ _ hnew =>
        have hne : id ≠ dataset.id := by
          rintro rfl
          rw [Finmap.lookup_eq_none.mpr hnew] at hold
          cases hold
        exact (Finmap.lookup_insert_of_ne _ hne).trans hold

/-- Where the catalog has the dataset, a serving process makes of its reference what the storage now
gives. -/
theorem serve_of_opened {self : Application V} {datasetId : UUID} {dataset : Dataset}
    {asset : StorageAsset}
    {contents : List UInt8} (h : Represents w m) (hfound : self.Finds w datasetId dataset)
    (hdescribe : self.storageProvider.describe dataset.reference = .ok asset)
    (hopen : self.storageProvider.openBinary dataset.reference = .ok contents)
    {operation : Operation}
    {use : TabularLoadResult V → Except ServiceError (Answer V)}
    (huse : Consumes table self datasetId operation use) :
    (exec (self.serve tables table readers operation) ⟨w, []⟩).1 =
      analysed tables readers operation use dataset.sourceType asset contents := by
  have hperform :=
    @exec_perform_of_finds V table readers w m h self datasetId dataset hfound operation use huse
  rw [loads_of_opened hdescribe hopen] at hperform
  rw [exec_serve, hperform, analysed]

/-- The dataset that a serving process finds under the id of a body, with the reference and the
source type of its registration. -/
theorem exists_finds (h : Trace (Exchange.Step tables table readers) World.fresh exchanges w)
    (hutc : ∀ e ∈ exchanges, e.operation.Utc) (he : e ∈ exchanges) {response : DatasetResponse}
    (hcreated : e.created = some response) {id : UUID} {now : Datetime} {reference : String}
    (hrequest : e.operation.request = .register id now reference) :
    ∃ asset m, Represents w m ∧ e.application.storageProvider.describe reference = .ok asset ∧
      response = .modelValidate tables (e.application.datasetService.datasetOf id now asset) ∧
      ∀ self : Application V, self.repository ∈ serving exchanges →
        ∃ dataset, self.Finds w id dataset ∧
          dataset.reference = reference ∧ dataset.sourceType = response.sourceType := by
  obtain ⟨first, last, rfl⟩ := List.append_of_mem he
  obtain ⟨w₁, w₂, m₁, hserves₁, hstep, hlast⟩ := serves_before h hutc
  obtain ⟨_, _, asset, stored, m₂, hrequest', hdescribe, hbody, hstored, hrep₂, hlookup⟩ :=
    hstep.stores hserves₁.represents hcreated
  obtain ⟨rfl, rfl, rfl⟩ := Application.Request.register.inj (hrequest.symm.trans hrequest')
  obtain ⟨m₃, hrep₃, hkept⟩ := lookup_afterwards hrep₂ hlast
  obtain ⟨m, hserves⟩ := serves h hutc
  refine ⟨asset, m₃, hrep₃, hdescribe, hbody, fun self hself => ?_⟩
  -- The process finds the dataset of this body, and it is the one that was stored.
  obtain ⟨datasets, hlists, hdatasets⟩ := hserves.entries
  have hmem : response ∈ created (first ++ e :: last) := List.mem_filterMap.mpr ⟨e, he, hcreated⟩
  rw [← hdatasets] at hmem
  obtain ⟨dataset, hdataset, hvalidated⟩ := List.mem_map.mp hmem
  have hid : dataset.id = response.id := congrArg DatasetResponse.id hvalidated
  have hentry : m.entries.lookup response.id = some dataset :=
    (hlists.lookup_iff _ _).mpr ⟨hdataset, hid⟩
  have hobject : self.datasetService.repository ∈ m.initialized := hserves.initialized ▸ hself
  have hfinds : self.Finds w response.id dataset := by
    rw [Application.Finds, exec_service_get hserves.represents, if_pos hobject, hentry]
  obtain ⟨-, hfound⟩ := hfinds.lookup hrep₃
  obtain rfl : stored = dataset := Option.some.inj ((hkept _ _ hlookup).symm.trans hfound)
  refine ⟨stored, hfinds, ?_, congrArg DatasetResponse.sourceType hvalidated⟩
  rw [hstored.fields]
  exact e.application.storageProvider.describe_reference _ _ hdescribe

/-- **What is analysed is what was registered.** Let a registration through a provider be answered
with 201, for a reference that leads to a path without a loop of links. Then there is a file at this
path, it is below the storage root, and the body carries its URI, its size and its digest. In every
later analysis of its id, by whatever process serves: as long as neither anything below the root nor
a link anywhere has changed, the loader of the registered source type is given the bytes of this
file; and whatever has changed, it is given what the process's provider opens by then under the same
reference, and nobody compares the digests. -/
theorem registered_bytes_are_analysed
    (h : Trace (Exchange.Step tables table readers) World.fresh exchanges w)
    (hutc : ∀ e ∈ exchanges, e.operation.Utc) (he : e ∈ exchanges) {response : DatasetResponse}
    (hcreated : e.created = some response) {id : UUID} {now : Datetime} {reference : String}
    (hrequest : e.operation.request = .register id now reference)
    {runtime : Runtime} {provider : LocalStorageProvider} {fs : FileSystem}
    (hroot : fs.inode provider.storageRoot = some .directory)
    (hstorage : e.application.storageProvider = provider.port runtime fs) {depth : Nat}
    {path : Path}
    (hleads : fs.Leads depth [] (provider.storageRoot ++ components reference) path) :
    ∃ below contents asset, below ≠ [] ∧ path = provider.storageRoot ++ below ∧
      fs.inode path = some (.file contents) ∧
      asset.uri = PurePath.asUri path ∧ asset.sizeBytes = contents.length ∧
      asset.sha256 = runtime.hash.hexdigest (runtime.hash.update runtime.hash.initial contents) ∧
      response = .modelValidate tables (e.application.datasetService.datasetOf id now asset) ∧
      ∀ self : Application V, self.repository ∈ serving exchanges →
        ∀ operation use, Consumes table self id operation use →
          (∀ fs', self.storageProvider = provider.port runtime fs' →
            FileSystem.SameBelow provider.storageRoot fs fs' →
              (exec (self.serve tables table readers operation) ⟨w, []⟩).1 =
                analysed tables readers operation use response.sourceType asset contents) ∧
          ∀ asset' contents', self.storageProvider.describe reference = .ok asset' →
            self.storageProvider.openBinary reference = .ok contents' →
              (exec (self.serve tables table readers operation) ⟨w, []⟩).1 =
                analysed tables readers operation use response.sourceType asset' contents' := by
  obtain ⟨asset, m, hrep, hdescribe, hbody, hfinds⟩ := exists_finds h hutc he hcreated hrequest
  rw [hstorage] at hdescribe
  have hplain := plain_storageRoot hroot
  obtain ⟨below, contents, hbelow, -, hfile, hresolve, hopen, hasset⟩ :=
    describe_ok hplain hroot hdescribe
  obtain rfl := eq_of_leads hleads hresolve
  refine ⟨below, contents, asset, hbelow, rfl, hfile, ?_, ?_, ?_, hbody, ?_⟩
  · rw [hasset]
    rfl
  · rw [hasset]
    rfl
  · rw [hasset]
    exact congrArg runtime.hash.hexdigest (hashChunks_eq_update runtime _ _)
  · intro self hself operation use huse
    obtain ⟨dataset, hfound, hreference, hsource⟩ := hfinds self hself
    have hserve : ∀ asset' contents', self.storageProvider.describe reference = .ok asset' →
        self.storageProvider.openBinary reference = .ok contents' →
        (exec (self.serve tables table readers operation) ⟨w, []⟩).1 =
          analysed tables readers operation use response.sourceType asset' contents' := by
      intro asset' contents' hdescribe' hopen'
      rw [← hreference] at hdescribe' hopen'
      rw [← hsource]
      exact serve_of_opened hrep hfound hdescribe' hopen' huse
    refine ⟨fun fs' hstorage' hsame => hserve asset contents ?_ ?_, hserve⟩
    · rw [hstorage']
      exact (describe_congr hsame hroot reference).symm.trans hdescribe
    · rw [hstorage']
      exact (openBinary_congr hsame hroot reference).symm.trans hopen

end Exchanges

/-- A process over the sample tree. -/
def sampleLocal (fs : FileSystem) : Application Nat :=
  { sampleApplication 0 with
    storageProvider := (⟨["data"]⟩ : LocalStorageProvider).port sampleRuntime fs }

def sampleRegistering : List (Exchange Nat) × World :=
  serveAll .ascii DatasetQueryService.asciiUpper sampleReaders World.fresh
    [(sampleLocal sampleFileSystem, .startup {}),
      (sampleLocal sampleFileSystem, .register ⟨7⟩ sampleNow {} "sales.csv")]

def sampleSales : StorageAsset where
  reference := "sales.csv"
  name := "sales"
  extension := "csv"
  uri := "file:///data/sales.csv"
  sizeBytes := 2
  sha256 := "8f434346648f6b96df89dda901c5176b10a6d83961dd3c1ac88b59b2dc327aa4"

theorem describe_sampleLocal :
    (sampleLocal sampleFileSystem).storageProvider.describe "sales.csv" = .ok sampleSales := by
  have hfile : sampleFileSystem.inode (["data"] ++ ["sales.csv"]) = some (.file [104, 105]) := by
    decide
  have hresolve :=
    @resolveReference_of_file ⟨["data"]⟩ sampleFileSystem ["sales.csv"] [104, 105] (by decide) hfile
  have hplain :
      ∀ name ∈ (⟨["data"]⟩ : LocalStorageProvider).storageRoot, FileSystem.PlainName name :=
    @plain_storageRoot ⟨["data"]⟩ sampleFileSystem (by decide)
  obtain ⟨contents, hfound, -, hdescribe⟩ := @describe_of_ok sampleRuntime _ _ _ _ hplain hresolve
  obtain rfl : [104, 105] = contents := Inode.file.inj (Option.some.inj (hfile.symm.trans hfound))
  refine hdescribe.trans ?_
  rw [assetOf, hashChunks_eq_update]
  decide

/-- The world of a process that has started. -/
def sampleStarted : World :=
  (exec ((sampleLocal sampleFileSystem).serve .ascii DatasetQueryService.asciiUpper sampleReaders
    (.startup {})) ⟨World.fresh, []⟩).2.world

theorem exists_sampleRegistering :
    ∃ e ∈ sampleRegistering.1, ∃ response, e.created = some response ∧
    e.application = sampleLocal sampleFileSystem ∧
      e.operation.request = .register ⟨7⟩ sampleNow "sales.csv" ∧ response.sourceType = "csv" := by
  have hadd : (exec (askRepository 0 (SQLiteDatasetRepository.add {}
      ((sampleLocal sampleFileSystem).datasetService.datasetOf ⟨7⟩ sampleNow sampleSales)))
      ⟨sampleStarted, [.describe "sales.csv"]⟩).1 = .ok () := by decide +kernel
  have hresult : (exec
      ((sampleLocal sampleFileSystem).serve .ascii DatasetQueryService.asciiUpper sampleReaders
      (.register ⟨7⟩ sampleNow {} "sales.csv")) ⟨sampleStarted, []⟩).1 =
        .ok (.dataset (.modelValidate .ascii
        ((sampleLocal sampleFileSystem).datasetService.datasetOf ⟨7⟩ sampleNow sampleSales))) := by
    have hprovider : (sampleLocal sampleFileSystem).datasetService.storageProvider =
        (sampleLocal sampleFileSystem).storageProvider := rfl
    have hrepository : (sampleLocal sampleFileSystem).datasetService.repository = 0 := rfl
    rw [exec_serve, Application.perform, exec_bind, DatasetService.exec_register, hprovider,
      describe_sampleLocal]
    simp only [hrepository, List.nil_append]
    generalize exec (askRepository 0 (SQLiteDatasetRepository.add {}
      ((sampleLocal sampleFileSystem).datasetService.datasetOf ⟨7⟩ sampleNow sampleSales)))
      ⟨sampleStarted, [.describe "sales.csv"]⟩ = asked at hadd
    obtain ⟨outcome, state⟩ := asked
    obtain rfl : outcome = .ok () := hadd
    rfl
  exact ⟨_, List.mem_cons_of_mem _ List.mem_cons_self, _,
    Exchange.created_eq_some.mpr ⟨⟨_, _, _, _, rfl⟩, hresult⟩, rfl, rfl,
    rfl⟩

theorem sampleRegistering_utc : ∀ e ∈ sampleRegistering.1, e.operation.Utc := by
  have hoperations : ∀ operation ∈ sampleRegistering.1.map Exchange.operation, operation.Utc := by
    rw [sampleRegistering, operations_serveAll]
    simp [Operation.Utc, sampleNow]
  exact fun e he => hoperations _ (List.mem_map_of_mem he)

/-- The process is asked for a profile when a file outside the root has gone. -/
theorem registered_bytes_are_analysed_sample :
    ∃ contents asset, sampleFileSystem.inode ["data", "sales.csv"] = some (.file contents) ∧
      asset.sizeBytes = contents.length ∧
      (exec ((sampleLocal sampleFileSystemElsewhere).serve .ascii DatasetQueryService.asciiUpper
        sampleReaders (.profile ⟨7⟩)) ⟨sampleRegistering.2, []⟩).1 =
      analysed .ascii sampleReaders (.profile ⟨7⟩) (fun result =>
        (((sampleLocal sampleFileSystemElsewhere).profiler result).mapError .profiler).map .profile)
          "csv" asset contents := by
  obtain ⟨e, he, response, hcreated, happlication, hrequest, hsource⟩ := exists_sampleRegistering
  have hserving :
      (sampleLocal sampleFileSystemElsewhere).repository ∈ serving sampleRegistering.1 := by
    decide +kernel
  have hroot :
      sampleFileSystem.inode (⟨["data"]⟩ : LocalStorageProvider).storageRoot = some .directory :=
    by decide
  have hwalk : sampleFileSystem.resolve [] (["data"] ++ components "sales.csv") =
      .ok ["data", "sales.csv"] := by decide
  obtain ⟨depth, hleads⟩ := FileSystem.resolve_eq_ok_iff.mp hwalk
  obtain ⟨below, contents, asset, -, -, hfile, -, hsize, -, -, hanalyses⟩ :=
    registered_bytes_are_analysed (trace_serveAll World.fresh _) sampleRegistering_utc he hcreated
      hrequest hroot (congrArg Application.storageProvider happlication) hleads
  have hprofile :=
    (hanalyses _ hserving _ _ .profile).1 sampleFileSystemElsewhere rfl sameBelow_sample
  rw [hsource] at hprofile
  exact ⟨contents, asset, hfile, hsize, hprofile⟩

end Athena
