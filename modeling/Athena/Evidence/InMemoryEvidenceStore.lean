import Athena.Evidence.CollectEvidence
import Athena.Library.Interleaving
import Athena.Library.Trace

/-!
# The in-memory evidence store

The store keeps one list of items for each dataset, in a dictionary. Its law is about the whole
history: a read answers with the items recorded so far that it asks for, in the order they were
recorded. The batches of any number of profiling runs can therefore be recorded interleaved and told
apart again.
-/

namespace Athena

open Library DatasetProfiler

structure InMemoryEvidenceStore where
  /-- The dictionary; a dataset that nothing was recorded for has no entry. -/
  byDataset : UUID → Option (List Evidence)

namespace InMemoryEvidenceStore

def empty : InMemoryEvidenceStore := ⟨fun _ => none⟩

def record (store : InMemoryEvidenceStore) (evidence : Evidence) : InMemoryEvidenceStore :=
  ⟨Function.update store.byDataset evidence.datasetId
    (some ((store.byDataset evidence.datasetId).getD [] ++ [evidence]))⟩

def forDataset (store : InMemoryEvidenceStore) (datasetId : UUID) : List Evidence :=
  (store.byDataset datasetId).getD []

def forColumn (store : InMemoryEvidenceStore) (datasetId : UUID) (columnName : String) :
    List Evidence :=
  ((store.byDataset datasetId).getD []).filter fun item => item.columnName = some columnName

/-! ### Histories -/

inductive Operation
  | record (evidence : Evidence)
  | forDataset (datasetId : UUID)
  | forColumn (datasetId : UUID) (columnName : String)

/-- What a call answers, and the store after it. -/
def perform (store : InMemoryEvidenceStore) : Operation → List Evidence × InMemoryEvidenceStore
  | .record evidence => ([], store.record evidence)
  | .forDataset datasetId => (store.forDataset datasetId, store)
  | .forColumn datasetId columnName => (store.forColumn datasetId columnName, store)

structure Event where
  operation : Operation
  answer : List Evidence

/-- The history that a sequence of calls makes, and the store after it. -/
def history (store : InMemoryEvidenceStore) : List Operation → List Event × InMemoryEvidenceStore
  | [] => ([], store)
  | operation :: rest =>
      let (answer, store') := store.perform operation
      let (events, store'') := store'.history rest
      (⟨operation, answer⟩ :: events, store'')

def Step (store : InMemoryEvidenceStore) (e : Event) (store' : InMemoryEvidenceStore) : Prop :=
  store.perform e.operation = (e.answer, store')

/-- The items of a history, in the order they were recorded. -/
def recordedBy (events : List Event) : List Evidence :=
  events.filterMap fun e =>
    match e.operation with
    | .record evidence => some evidence
    | _ => none

def ofDataset (datasetId : UUID) (items : List Evidence) : List Evidence :=
  items.filter fun item => item.datasetId = datasetId

def ofColumn (datasetId : UUID) (columnName : String) (items : List Evidence) : List Evidence :=
  (ofDataset datasetId items).filter fun item => item.columnName = some columnName

/-- What the law says an operation answers after the items were recorded. -/
def lawfulAnswer (items : List Evidence) : Operation → List Evidence
  | .record _ => []
  | .forDataset datasetId => ofDataset datasetId items
  | .forColumn datasetId columnName => ofColumn datasetId columnName items

/-- The index holds what was recorded. -/
def Holds (store : InMemoryEvidenceStore) (items : List Evidence) : Prop :=
  ∀ datasetId, store.forDataset datasetId = ofDataset datasetId items

variable {store store' : InMemoryEvidenceStore} {events : List Event}

theorem Holds.record {items : List Evidence} (h : store.Holds items) (evidence : Evidence) :
    (store.record evidence).Holds (items ++ [evidence]) := by
  intro datasetId
  have hbefore := h datasetId
  rw [forDataset] at hbefore ⊢
  rw [ofDataset, List.filter_append, ← ofDataset, ← hbefore, InMemoryEvidenceStore.record]
  by_cases hsame : evidence.datasetId = datasetId
  · subst hsame
    simp
  · simp [Function.update_of_ne (Ne.symm hsame), hsame]

theorem Holds.forColumn {items : List Evidence} (h : store.Holds items) (datasetId : UUID)
    (columnName : String) :
    store.forColumn datasetId columnName = ofColumn datasetId columnName items := by
  rw [ofColumn, ← h datasetId]
  rfl

theorem recordedBy_concat (events : List Event) (e : Event) :
    recordedBy (events ++ [e]) = recordedBy events ++ recordedBy [e] :=
  List.filterMap_append ..

/-- A step answers by the law, and the index follows the history. -/
theorem Step.lawful {e : Event} (h : store.Holds (recordedBy events))
    (hstep : Step store e store') :
    e.answer = lawfulAnswer (recordedBy events) e.operation ∧
      store'.Holds (recordedBy (events ++ [e])) := by
  obtain ⟨operation, answer⟩ := e
  rw [recordedBy_concat]
  cases operation with
  | record evidence =>
      obtain ⟨rfl, rfl⟩ := Prod.mk.inj hstep
      exact ⟨rfl, h.record evidence⟩
  | forDataset datasetId =>
      obtain ⟨rfl, rfl⟩ := Prod.mk.inj hstep
      exact ⟨h datasetId, by simpa [recordedBy] using h⟩
  | forColumn datasetId columnName =>
      obtain ⟨rfl, rfl⟩ := Prod.mk.inj hstep
      exact ⟨h.forColumn datasetId columnName, by simpa [recordedBy] using h⟩

theorem holds_recordedBy (h : Trace Step empty events store) : store.Holds (recordedBy events) :=
  h.invariant (I := fun events store => store.Holds (recordedBy events)) (fun _ => rfl)
    fun _ _ _ _ _ hholds hstep => (hstep.lawful hholds).2

theorem answer_lawful (h : Trace Step empty events store) {before after : List Event} {e : Event}
    (hevents : events = before ++ e :: after) :
    e.answer = lawfulAnswer (recordedBy before) e.operation := by
  rw [hevents] at h
  obtain ⟨store', hbefore, hrest⟩ := h.split
  obtain ⟨store'', hstep, -⟩ := hrest.of_cons
  exact (hstep.lawful (holds_recordedBy hbefore)).1

/-! ### Batches of profiling runs -/

/-- One run of the profiler over a dataset, and what its environment gave it. -/
structure ProfilingRun where
  datasetId : UUID
  analysisRunId : UUID
  now : Datetime
  uuid4 : Nat → UUID
  result : ProfileResult

def ProfilingRun.batch (tables : CaseTables) (run : ProfilingRun) : List Evidence :=
  collectEvidence tables run.now run.uuid4 run.datasetId run.analysisRunId run.result

theorem ProfilingRun.of_mem_batch {tables : CaseTables} {run : ProfilingRun} {item : Evidence}
    (h : item ∈ run.batch tables) :
    item.datasetId = run.datasetId ∧ item.analysisRunId = run.analysisRunId := by
  obtain ⟨n, hn, rfl⟩ := List.mem_mapIdx.mp h
  exact ⟨rfl, rfl⟩

def ofRun (analysisRunId : UUID) (items : List Evidence) : List Evidence :=
  items.filter fun item => item.analysisRunId = analysisRunId

/-- The dataset and the run together tell the items of one batch from those of all others. -/
theorem ofRun_ofDataset {ι : Type} [DecidableEq ι] {tables : CaseTables} {runs : ι → ProfilingRun}
    {items : List Evidence} (h : Interleaving (fun i => (runs i).batch tables) items) {i : ι}
    (hown : ∀ j, (runs j).datasetId = (runs i).datasetId →
      (runs j).analysisRunId = (runs i).analysisRunId → j = i) :
    ofRun (runs i).analysisRunId (ofDataset (runs i).datasetId items) = (runs i).batch tables := by
  rw [ofRun, ofDataset, List.filter_filter]
  apply h.filter_eq
  intro j item hitem
  obtain ⟨hdataset, hrun⟩ := ProfilingRun.of_mem_batch hitem
  simp only [Bool.and_eq_true, decide_eq_true_eq, hdataset, hrun]
  constructor
  · rintro ⟨hsameRun, hsameDataset⟩
    exact hown j hsameDataset hsameRun
  · rintro rfl
    exact ⟨rfl, rfl⟩

theorem columnBlock_observations (tables : CaseTables) (run : ProfilingRun) (columnName : String) :
    ((run.batch tables).filter fun item =>
      item.columnName = some columnName).map Evidence.observation =
      (run.result.columns.filter fun column => column.name = columnName).flatMap
        (columnObservations tables run.result) := by
  have hblock : ∀ column,
      (columnObservations tables run.result column).filter (fun o => o.2.1 = some columnName) =
      if column.name = columnName then columnObservations tables run.result column else [] := by
    intro column
    have hname : ∀ o ∈ columnObservations tables run.result column, o.2.1 = some column.name := by
      intro o ho
      obtain ⟨e, he, rfl⟩ := List.mem_map.mp ho
      exact columnName_of_mem he
    split
    · rename_i hsame
      exact List.filter_eq_self.mpr fun o ho => by simp [hname o ho, hsame]
    · rename_i hother
      exact List.filter_eq_nil_iff.mpr fun o ho => by simp [hname o ho, hother]
  calc
    ((run.batch tables).filter fun item =>
        item.columnName = some columnName).map Evidence.observation
      = (observations tables run.now run.uuid4 run.datasetId run.analysisRunId run.result).filter
          fun o => o.2.1 = some columnName := by rw [observations, List.filter_map]; rfl
    _ = _ := by
        rw [observations_eq,
          List.filter_cons_of_neg (by simp [Emission.observation, datasetEmission]),
          filter_flatten_blocks hblock]

theorem exists_leading (tables : CaseTables) (run : ProfilingRun) :
    ∃ leading rest, run.batch tables = leading :: rest ∧ leading.columnName = none := by
  exact ⟨_, _, List.mapIdx_cons .., rfl⟩

/-- **The store is the history.** Every read of a history answers with the items recorded before it
that it asks for, in order, and so do the reads that come next. Where the items are the batches of
any number of runs, merged in any way, a run that shares its dataset and id with no other finds
exactly its batch, and under a column exactly the blocks of that column; the leading item is under
no column. -/
theorem store_is_history (tables : CaseTables) {events : List Event} {store : InMemoryEvidenceStore}
    (h : Trace Step empty events store) :
    (∀ before e after, events = before ++ e :: after →
      e.answer = lawfulAnswer (recordedBy before) e.operation) ∧
    (∀ datasetId, store.forDataset datasetId = ofDataset datasetId (recordedBy events)) ∧
    (∀ datasetId columnName,
      store.forColumn datasetId columnName = ofColumn datasetId columnName (recordedBy events)) ∧
    ∀ {ι : Type} [DecidableEq ι] (runs : ι → ProfilingRun),
      Interleaving (fun i => (runs i).batch tables) (recordedBy events) → ∀ i,
      (∀ j, (runs j).datasetId = (runs i).datasetId →
        (runs j).analysisRunId = (runs i).analysisRunId → j = i) →
        ofRun (runs i).analysisRunId (store.forDataset (runs i).datasetId) = (runs i).batch tables ∧
        (∀ columnName,
          ofRun (runs i).analysisRunId (store.forColumn (runs i).datasetId columnName) =
            ((runs i).batch tables).filter (fun item => item.columnName = some columnName) ∧
          (ofRun (runs i).analysisRunId (store.forColumn (runs i).datasetId columnName)).map
            Evidence.observation =
            ((runs i).result.columns.filter fun column => column.name = columnName).flatMap
              (columnObservations tables (runs i).result)) ∧
        ∃ leading rest, (runs i).batch tables = leading :: rest ∧
          ∀ datasetId columnName, leading ∉ store.forColumn datasetId columnName := by
  have hholds := holds_recordedBy h
  refine ⟨fun before e after hevents => answer_lawful h hevents, hholds,
    fun d c => hholds.forColumn d c, ?_⟩
  intro ι _ runs hmerged i hown
  have hbatch := ofRun_ofDataset hmerged hown
  have hblock :
      ∀ columnName, ofRun (runs i).analysisRunId (store.forColumn (runs i).datasetId columnName) =
      ((runs i).batch tables).filter fun item => item.columnName = some columnName := by
    intro columnName
    rw [hholds.forColumn, ofColumn, ← hbatch, ofRun, ofRun, List.filter_comm]
  refine ⟨by rw [hholds, hbatch], fun columnName => ⟨hblock columnName, ?_⟩, ?_⟩
  · rw [hblock, columnBlock_observations]
  · obtain ⟨leading, rest, hleading, hname⟩ := exists_leading tables (runs i)
    refine ⟨leading, rest, hleading, fun datasetId columnName hmem => ?_⟩
    have hcolumn := (List.mem_filter.mp hmem).2
    simp [hname] at hcolumn

theorem trace_history (store : InMemoryEvidenceStore) (operations : List Operation) :
    Trace Step store (store.history operations).1 (store.history operations).2 := by
  induction operations generalizing store with
  | nil => exact .nil
  | cons operation operations ih =>
      have hfirst : Trace Step store [⟨operation, (store.perform operation).1⟩]
          (store.perform operation).2 := .single rfl
      exact hfirst.append (ih _)

/-- Two runs over one dataset. -/
def sampleRuns (second : Bool) : ProfilingRun where
  datasetId := ⟨1⟩
  analysisRunId := if second then ⟨3⟩ else ⟨2⟩
  now := sampleNow
  uuid4 := fun n => ⟨BitVec.ofNat 128 n⟩
  result := sampleProfile

/-- Their batches, recorded in turns. -/
def sampleItems : List Evidence :=
  (List.zipWith (fun a b => [a, b]) ((sampleRuns false).batch CaseTables.ascii)
    ((sampleRuns true).batch CaseTables.ascii)).flatten

theorem store_is_history_sample :
    ofRun ⟨3⟩ ((empty.history (sampleItems.map .record)).2.forDataset ⟨1⟩) =
      (sampleRuns true).batch CaseTables.ascii := by
  have hmerged : Interleaving (fun second => (sampleRuns second).batch CaseTables.ascii)
      (recordedBy (empty.history (sampleItems.map .record)).1) := by
    have hparts : (fun second => (sampleRuns second).batch CaseTables.ascii) = fun second =>
        (recordedBy (empty.history (sampleItems.map .record)).1).filter
          fun item => decide (item.analysisRunId = ⟨3⟩) = second := by
      funext second
      cases second <;> decide +kernel
    rw [hparts]
    exact .of_classification _ _
  refine ((store_is_history CaseTables.ascii (trace_history empty _)).2.2.2 sampleRuns hmerged true
    ?_).1
  decide

end InMemoryEvidenceStore

end Athena
