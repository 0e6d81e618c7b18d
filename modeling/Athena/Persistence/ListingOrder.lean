import Athena.Library.Lexicographic
import Athena.Persistence.CatalogRefinement

/-!
# The order of the listing

`list` orders rows by two texts, the serialised `created_at` and the id. Both are ordered as what
they stand for: timestamps as instants, whatever their offsets and with or without a fraction of a
second, and ids as 128-bit numbers. So the listing of any reachable catalog is strictly increasing.
-/

namespace Athena.Persistence

open Library Library.Program SQLiteDatasetRepository

/-! ### Timestamps -/

/-- An earlier instant has a smaller text. -/
theorem serializeCreatedAt_lt_iff {a b : Datetime} {text text' : String}
    (h : serializeCreatedAt a = .ok text)
    (h' : serializeCreatedAt b = .ok text') {i j : Int} (hi : a.instant = some i)
    (hj : b.instant = some j) :
    text < text' ↔ i < j := by
  obtain ⟨utc, rfl, hzero, hinstant⟩ := serializeCreatedAt_eq_isoformat h
  obtain ⟨utc', rfl, hzero', hinstant'⟩ := serializeCreatedAt_eq_isoformat h'
  have hwall : (utc.wall : Int) = i := by
    rw [hi, Datetime.instant, hzero] at hinstant
    simpa using hinstant
  have hwall' : (utc'.wall : Int) = j := by
    rw [hj, Datetime.instant, hzero'] at hinstant'
    simpa using hinstant'
  rw [Datetime.isoformat_lt_iff hzero hzero']
  omega

theorem serializeCreatedAt_eq_iff {a b : Datetime} {text text' : String}
    (h : serializeCreatedAt a = .ok text)
    (h' : serializeCreatedAt b = .ok text') {i j : Int} (hi : a.instant = some i)
    (hj : b.instant = some j) :
    text = text' ↔ i = j := by
  have hlt := serializeCreatedAt_lt_iff h h' hi hj
  have hgt := serializeCreatedAt_lt_iff h' h hj hi
  constructor
  · rintro rfl
    have hnot := lt_irrefl text
    exact le_antisymm (not_lt.mp fun h => hnot (hgt.mpr h)) (not_lt.mp fun h => hnot (hlt.mpr h))
  · rintro rfl
    exact le_antisymm (not_lt.mp fun h => absurd (hgt.mp h) (lt_irrefl i))
      (not_lt.mp fun h => absurd (hlt.mp h) (lt_irrefl i))

/-! ### Rows -/

/-- The order of the rows is that of the bytes of their two texts. -/
theorem Row.before_iff_utf8 (r s : Row) :
    r.before s ↔ utf8 r.createdAt < utf8 s.createdAt ∨
      utf8 r.createdAt = utf8 s.createdAt ∧ ¬utf8 s.id < utf8 r.id := by
  rw [Row.before, Prod.Lex.toLex_le_toLex, utf8_lt_utf8_iff, utf8_lt_utf8_iff, not_lt]
  apply or_congr_right
  apply and_congr_left'
  exact ⟨congrArg utf8, utf8_injective⟩

instance : IsTrans Row Row.before := ⟨fun _ _ _ => le_trans⟩

instance : Std.Total Row.before := ⟨fun _ _ => le_total _ _⟩

/-- Of an earlier instant, or of the same one with a smaller id. -/
def ListedBefore (d e : Dataset) : Prop :=
  ∃ i j, d.createdAt.instant = some i ∧ e.createdAt.instant = some j ∧
    toLex (i, d.id.int.toNat) < toLex (j, e.id.int.toNat)

/-- Rows that `add` wrote, in their order, hold datasets in theirs. -/
theorem listedBefore_of_before {r s : Row} {written written' d e : Dataset}
    (hr : toRow written = .ok r)
    (hs : toRow written' = .ok s) (hd : toDataset r = .ok d) (he : toDataset s = .ok e)
    (hbefore : r.before s) (hid : r.id ≠ s.id) : ListedBefore d e := by
  obtain ⟨hrId, -, -, stored, hread, hstored⟩ := toRow_ok hr
  obtain ⟨hsId, -, -, stored', hread', hstored'⟩ := toRow_ok hs
  obtain rfl : stored = d := Except.ok.inj (hread.symm.trans hd)
  obtain rfl : stored' = e := Except.ok.inj (hread'.symm.trans he)
  obtain ⟨i, hi, -⟩ := (exists_toRow_iff written).mp ⟨r, hr⟩
  obtain ⟨j, hj, -⟩ := (exists_toRow_iff written').mp ⟨s, hs⟩
  have hlt := serializeCreatedAt_lt_iff (toRow_eq_ok hr).1 (toRow_eq_ok hs).1 hi hj
  have heq := serializeCreatedAt_eq_iff (toRow_eq_ok hr).1 (toRow_eq_ok hs).1 hi hj
  have hids : r.id < s.id ↔ stored.id.int.toNat < stored'.id.int.toNat := by
    rw [hrId, hsId, hstored.fields, hstored'.fields]
    exact UUID.str_lt_str_iff _ _
  refine ⟨i, j, hstored.instant.trans hi, hstored'.instant.trans hj, ?_⟩
  rw [Row.before, Prod.Lex.toLex_le_toLex] at hbefore
  rw [Prod.Lex.toLex_lt_toLex]
  rcases hbefore with hearlier | ⟨hsame, hle⟩
  · exact .inl (hlt.mp hearlier)
  · exact .inr ⟨heq.mp hsame, hids.mp (lt_of_le_of_ne hle hid)⟩

/-! ### Every run -/

/-- Every row of the file was written by an `add`. -/
def RowsWritten (w : World) : Prop :=
  ∀ rows, w.database.schema = some rows → ∀ row ∈ rows, ∃ dataset, toRow dataset = .ok row

section Step

variable {w w' : World} {m : CatalogMap} {e : Event} {object : Nat} {response : Response}

theorem rowsWritten_of_initializing (hrep : Represents w m) (h : RowsWritten w)
    {faults : InitializeFaults}
    (hcall : w.call object (.initializing faults) = (response, w')) : RowsWritten w' := by
  by_cases hobject : object ∈ m.initialized
  · have hconnection := hrep.connected object hobject
    simp only [World.call, World.run, hconnection, initializeCatalog_again] at hcall
    obtain ⟨-, rfl⟩ := Prod.mk.inj hcall
    exact h
  · have hconnection := hrep.disconnected object hobject
    rcases initializeCatalog_cases faults w.database with ⟨database', hupgrade, hrun⟩ | ⟨e, hrun⟩
    · simp only [World.call, World.run, hconnection, hrun] at hcall
      obtain ⟨-, rfl⟩ := Prod.mk.inj hcall
      intro rows hrows row hrow
      obtain ⟨-, ⟨hschema, -⟩ | ⟨old, hold, hschema, -⟩⟩ := hrep.file.upgrade_cases hupgrade
      · obtain rfl : [] = rows := Option.some.inj (hschema.symm.trans hrows)
        exact absurd hrow List.not_mem_nil
      · obtain rfl : old = rows := Option.some.inj (hschema.symm.trans hrows)
        exact h old hold row hrow
    · simp only [World.call, World.run, hconnection, hrun] at hcall
      obtain ⟨-, rfl⟩ := Prod.mk.inj hcall
      exact h

theorem rowsWritten_of_add (hrep : Represents w m) (hobject : object ∈ m.initialized)
    (h : RowsWritten w) {faults : AddFaults} {dataset : Dataset}
    (hcall : w.call object (.add faults dataset) = (response, w')) :
    RowsWritten w' := by
  obtain ⟨rows, hschema, -, -⟩ := hrep.file.table_of_initialized hobject
  have hconnection := hrep.connected object hobject
  rcases add_cases faults dataset hschema with ⟨row, htoRow, -, -, hrun⟩ | ⟨e, hrun⟩
  · simp only [World.call, World.run, hconnection, hrun] at hcall
    obtain ⟨-, rfl⟩ := Prod.mk.inj hcall
    intro rows' hrows' row' hrow'
    obtain rfl : rows ++ [row] = rows' := Option.some.inj hrows'
    rcases List.mem_append.mp hrow' with hold | hlast
    · exact h rows hschema row' hold
    · rw [List.mem_singleton.mp hlast]
      exact ⟨dataset, htoRow⟩
  · simp only [World.call, World.run, hconnection, hrun] at hcall
    obtain ⟨-, rfl⟩ := Prod.mk.inj hcall
    exact h

theorem World.Step.rowsWritten (hrep : Represents w m) (h : RowsWritten w)
    (hstep : World.Step w e w') :
    RowsWritten w' := by
  obtain ⟨object, call, response⟩ := e
  change w.call object call = (response, w') at hstep
  by_cases hrefused : call.needsConnection ∧ object ∉ m.initialized
  · rw [hrep.call_unavailable hrefused.2 hrefused.1] at hstep
    obtain ⟨-, rfl⟩ := Prod.mk.inj hstep
    exact h
  · have hobject : call.needsConnection → object ∈ m.initialized := by tauto
    cases call with
    | initializing faults => exact rowsWritten_of_initializing hrep h hstep
    | close =>
        obtain ⟨-, rfl⟩ := Prod.mk.inj hstep
        exact h
    | add faults dataset => exact rowsWritten_of_add hrep (hobject trivial) h hstep
    | get datasetId =>
        rw [hrep.call_get (hobject trivial) datasetId] at hstep
        obtain ⟨-, rfl⟩ := Prod.mk.inj hstep
        exact h
    | list =>
        obtain ⟨datasets, hcall, -⟩ := hrep.call_list (hobject trivial)
        rw [hcall] at hstep
        obtain ⟨-, rfl⟩ := Prod.mk.inj hstep
        exact h

end Step

theorem rowsWritten_of_trace {events : List Event} {w : World}
    (h : Trace World.Step World.fresh events w) :
    RowsWritten w := by
  induction h with
  | nil => exact fun rows hrows => nomatch hrows
  | snoc hprefix hlast ih =>
      obtain ⟨m, -, hrep⟩ := World.refines hprefix
      exact hlast.rowsWritten hrep ih

theorem call_list_pairwise {w : World} {m : CatalogMap} {object : Nat} (hrep : Represents w m)
    (hwritten : RowsWritten w) (hobject : object ∈ m.initialized) :
    ∃ listed, w.call object .list = (.datasets listed, w) ∧ listed.Pairwise ListedBefore := by
  obtain ⟨rows, hschema, -, stored, hstored, hlists⟩ := hrep.file.table_of_initialized hobject
  have hconnection := hrep.connected object hobject
  have hperm := List.perm_insertionSort Row.before rows
  have hids : (rows.map Row.id).Nodup := by
    rw [TableStores.ids_eq hstored]
    exact hlists.ids.map fun _ _ => UUID.str_injective
  have hsorted : (rows.insertionSort Row.before).Pairwise fun r s =>
      (r.before s ∧ r.id ≠ s.id) ∧ r ∈ rows ∧ s ∈ rows := by
    have hdistinct : (rows.insertionSort Row.before).Pairwise fun r s => r.id ≠ s.id :=
      List.pairwise_map.mp ((hperm.map Row.id).symm.nodup hids)
    apply ((List.pairwise_insertionSort Row.before rows).and hdistinct).imp_of_mem
    intro r s hr hs h
    exact ⟨h, hperm.subset hr, hperm.subset hs⟩
  obtain ⟨listed, hread, -⟩ := TableStores.read ⟨stored, hstored, hlists⟩ hperm
  refine ⟨listed, ?_, ?_⟩
  · simp only [World.call, World.run, hconnection, list_of_rows hschema, hread]
    rw [← hconnection, Function.update_eq_self]
  · refine pairwise_of_forall₂ (mapM_eq_ok_iff.mp hread) hsorted ?_
    rintro r s d e hd he ⟨⟨hbefore, hid⟩, hr, hs⟩
    obtain ⟨written, hwrittenR⟩ := hwritten rows hschema r hr
    obtain ⟨written', hwrittenS⟩ := hwritten rows hschema s hs
    exact listedBefore_of_before hwrittenR hwrittenS hd he hbefore hid

/-- **Stored timestamps sort as instants.** Of two aware datetimes that UTC can represent, the texts
compare byte by byte as the instants do, and read back as the instant; and in every reachable
catalog an initialized object lists datasets strictly by instant and id. -/
theorem created_at_order :
    (∀ a b : Datetime, a.UtcRepresentable → b.UtcRepresentable →
      ∃ text text' i j read, serializeCreatedAt a = .ok text ∧ serializeCreatedAt b = .ok text' ∧
        a.instant = some i ∧ b.instant = some j ∧ (utf8 text < utf8 text' ↔ i < j) ∧
        (utf8 text = utf8 text' ↔ i = j) ∧
        (utf8 text' < utf8 text ↔ j < i) ∧ Datetime.fromisoformat text = .ok read ∧
          read.instant = a.instant) ∧
    ∀ events w, Trace World.Step World.fresh events w → ∀ object ∈ initializedBy events,
      ∃ listed, w.call object .list = (.datasets listed, w) ∧ listed.Pairwise ListedBefore := by
  refine ⟨fun a b ha hb => ?_, fun events w htrace object hobject => ?_⟩
  · obtain ⟨text, htext⟩ := (exists_serializeCreatedAt_iff a).mpr ha
    obtain ⟨text', htext'⟩ := (exists_serializeCreatedAt_iff b).mpr hb
    obtain ⟨i, hi, -⟩ := ha
    obtain ⟨j, hj, -⟩ := hb
    obtain ⟨read, hread, -, hinstant⟩ := serializeCreatedAt_ok htext
    refine ⟨text, text', i, j, read, htext, htext', hi, hj, ?_, ?_, ?_, hread, hinstant⟩
    · rw [utf8_lt_utf8_iff]
      exact serializeCreatedAt_lt_iff htext htext' hi hj
    · rw [← serializeCreatedAt_eq_iff htext htext' hi hj]
      exact ⟨utf8_injective, congrArg utf8⟩
    · rw [utf8_lt_utf8_iff]
      exact serializeCreatedAt_lt_iff htext' htext hj hi
  · obtain ⟨m, hcatalog, hrep⟩ := World.refines htrace
    rw [← (CatalogMap.reflects hcatalog).initialized] at hobject
    exact call_list_pairwise hrep (rowsWritten_of_trace htrace) hobject

/-- A microsecond after the sample dataset was created, in UTC. -/
def sampleLater : Datetime :=
  ⟨2026, 8, 11, 5, 30, 0, 1, some 0, sampleDataset.createdAt.validDate,
    by decide, Datetime.validOffset_utc⟩

/-- Registered last, and created an hour before the other. -/
def sampleEarlier : Dataset :=
  { sampleDataset with
    id := ⟨8⟩
    createdAt := ⟨2026, 8, 11, 4, 30, 0, 0, some 0, sampleDataset.createdAt.validDate, by decide,
      Datetime.validOffset_utc⟩ }

def sampleRegistrations : List (Nat × Call) := sampleCalls ++ [(1, .add {} sampleEarlier)]

theorem sampleRegistrations_history :
    1 ∈ initializedBy (World.fresh.perform sampleRegistrations).1 ∧
      (match ((World.fresh.perform sampleRegistrations).2.call 1 .list).1 with
        | .datasets listed => listed.map Dataset.id
        | _ => []) = [⟨8⟩, ⟨7⟩] :=
  ⟨by decide +kernel, by decide +kernel⟩

theorem created_at_order_sample :
    (∃ text text', serializeCreatedAt sampleDataset.createdAt = .ok text ∧
      serializeCreatedAt sampleLater = .ok text' ∧
      utf8 text < utf8 text') ∧
    ∃ listed, ((World.fresh.perform sampleRegistrations).2.call 1 .list).1 = .datasets listed ∧
      listed.map Dataset.id = [⟨8⟩, ⟨7⟩] ∧ listed.Pairwise ListedBefore := by
  constructor
  · have hfirst : sampleDataset.createdAt.UtcRepresentable :=
      ⟨_, rfl, by decide +kernel, by decide +kernel⟩
    have hlater : sampleLater.UtcRepresentable := ⟨_, rfl, by decide +kernel, by decide +kernel⟩
    obtain ⟨text, text', i, j, -, htext, htext', hi, hj, hlt, -⟩ :=
      created_at_order.1 _ _ hfirst hlater
    refine ⟨text, text', htext, htext', hlt.mpr ?_⟩
    have hnext : sampleLater.instant = sampleDataset.createdAt.instant.map (· + 1) := by
      decide +kernel
    rw [hi, hj] at hnext
    have hsucc : j = i + 1 := Option.some.inj hnext
    omega
  · have hrun := created_at_order.2 _ _ (World.fresh.trace_perform sampleRegistrations)
    have hhistory := sampleRegistrations_history
    generalize World.fresh.perform sampleRegistrations = run at hrun hhistory ⊢
    obtain ⟨hobject, hids⟩ := hhistory
    obtain ⟨listed, hcall, hpairs⟩ := hrun 1 hobject
    rw [hcall] at hids
    exact ⟨listed, congrArg Prod.fst hcall, hids, hpairs⟩

end Athena.Persistence
