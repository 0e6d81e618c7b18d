import Athena.Profiling.ColumnAttribution

/-!
# Profiles of growing tables

Appending rows adds the null counts, adds at least the duplicates and at most the distinct values,
and loses none of them. That a column is unique passes to every part of the table, so with more rows
key recommendations can only go, and numeric measures only come.
-/

namespace Athena

open Library

variable {V : Type} [DecidableEq V]

namespace DataFrame

/-! ### Appending rows -/

section Append

variable {frame : DataFrame V} {rows : List (Fin frame.width → Option V)}
  {hrows : frame.width = 0 → rows = []}
  {hboth : frame.width = 0 → frame.rows ++ rows = []} (i : Fin frame.width)

theorem nullCount_append : (frame.withRows (frame.rows ++ rows) hboth).nullCount i =
    frame.nullCount i + (frame.withRows rows hrows).nullCount i := by
  simp only [nullCount, column, List.map_append, List.count_append]

theorem distinctCount_append_le : (frame.withRows (frame.rows ++ rows) hboth).distinctCount i ≤
    frame.distinctCount i + (frame.withRows rows hrows).distinctCount i := by
  simp only [distinctCount, column, List.map_append, List.reduceOption_append]
  exact dedup_length_append_le _ _

theorem le_distinctCount_append_left :
    frame.distinctCount i ≤ (frame.withRows (frame.rows ++ rows) hboth).distinctCount i := by
  simp only [distinctCount, column, List.map_append, List.reduceOption_append]
  exact dedup_length_mono (List.subset_append_left _ _)

theorem le_distinctCount_append_right :
    (frame.withRows rows hrows).distinctCount i ≤
      (frame.withRows (frame.rows ++ rows) hboth).distinctCount i := by
  simp only [distinctCount, column, List.map_append, List.reduceOption_append]
  exact dedup_length_mono (List.subset_append_right _ _)

variable (hrows hboth) in
/-- The rows that `unique` drops add up, and those that occur in both tables come on top. -/
theorem duplicates_append_le : (frame.height - frame.uniqueHeight : Int) +
      ((frame.withRows rows hrows).height - (frame.withRows rows hrows).uniqueHeight) ≤
    (frame.withRows (frame.rows ++ rows) hboth).height -
      (frame.withRows (frame.rows ++ rows) hboth).uniqueHeight := by
  have hunique : (frame.rows ++ rows).dedup.length ≤ frame.rows.dedup.length + rows.dedup.length :=
    dedup_length_append_le frame.rows rows
  simp only [height, uniqueHeight, List.length_append]
  omega

end Append

end DataFrame

namespace DatasetProfiler

/-! ### Parts of a table -/

/-- Unique is a column without nulls in which nothing occurs twice. -/
theorem isUnique_iff (dataframe : DataFrame V) (i : Fin dataframe.width) :
    isUnique dataframe i = true ↔ none ∉ dataframe.column i ∧ (dataframe.column i).Nodup := by
  have hnull : dataframe.nullCount i = 0 ↔ none ∉ dataframe.column i := List.count_eq_zero
  have hheight : (dataframe.column i).length = dataframe.height := List.length_map _
  rw [isUnique, Bool.and_eq_true, decide_eq_true_eq, decide_eq_true_eq, hnull]
  apply and_congr_right
  intro hnone
  rw [← dedup_length_eq_iff, dedup_length_option, if_neg hnone, Nat.add_zero, hheight]
  rfl

section Part

variable {dataframe : DataFrame V} {rows : List (Fin dataframe.width → Option V)}
  {hrows : dataframe.width = 0 → rows = []} {tables : CaseTables} {polars : Polars}

theorem isUnique_of_subperm (h : rows.Subperm dataframe.rows) {i : Fin dataframe.width}
    (hunique : isUnique dataframe i = true) :
    isUnique (dataframe.withRows rows hrows) i = true := by
  obtain ⟨part, hperm, hsublist⟩ := h
  rw [isUnique_iff] at hunique ⊢
  have hcolumn : (part.map (· i)).Sublist (dataframe.column i) := hsublist.map _
  have hsame : (part.map (· i)).Perm ((dataframe.withRows rows hrows).column i) := hperm.map _
  exact ⟨fun hnone => hunique.1 (hcolumn.subset (hsame.symm.subset hnone)),
    hsame.nodup (hcolumn.nodup hunique.2)⟩

theorem isKey_of_subperm (h : rows.Subperm dataframe.rows) {i : Fin dataframe.width}
    (hkey : isKey tables polars dataframe i = true) :
    isKey tables polars (dataframe.withRows rows hrows) i = true := by
  rw [isKey, Bool.and_eq_true] at hkey ⊢
  exact ⟨isUnique_of_subperm h hkey.1, hkey.2⟩

theorem isIdentifier_of_subperm (h : rows.Subperm dataframe.rows) {i : Fin dataframe.width}
    (hidentifier : isIdentifier tables dataframe i = true) :
    isIdentifier tables (dataframe.withRows rows hrows) i = true := by
  rw [isIdentifier, Bool.and_eq_true] at hidentifier ⊢
  exact ⟨isUnique_of_subperm h hidentifier.1, hidentifier.2⟩

theorem recommendations_of_rows {frame : DataFrame V} (h : frame.rows ≠ []) :
    recommendations tables polars frame =
      { potentialPrimaryKeys := columnsWhere frame (isKey tables polars frame)
        identifierColumns := columnsWhere frame (isIdentifier tables frame)
        categoricalColumns := columnsWhere frame fun i =>
          isString polars (frame.dtype i) && frame.distinctCount i ≤ categoricalLimit frame
        numericMeasures := columnsWhere frame fun i =>
          (frame.dtype i).isNumeric && !isKey tables polars frame i && !isIdentifier tables frame i
        dateDimensions := columnsWhere frame fun i => isDateDimension polars (frame.dtype i) } := by
  have hheight : frame.height ≠ 0 := mt List.eq_nil_of_length_eq_zero h
  rw [recommendations, if_neg hheight]

/-- The keys of the whole are keys of a part, the measures of a part are measures of the whole. -/
theorem recommendations_of_subperm (h : rows.Subperm dataframe.rows) (hnonempty : rows ≠ []) :
    let whole := recommendations tables polars dataframe
    let part := recommendations tables polars (dataframe.withRows rows hrows)
    whole.potentialPrimaryKeys.Sublist part.potentialPrimaryKeys ∧
      whole.identifierColumns.Sublist part.identifierColumns ∧
      part.numericMeasures.Sublist whole.numericMeasures := by
  have hwhole : dataframe.rows ≠ [] := by
    intro hnil
    rw [hnil] at h
    exact hnonempty (List.subperm_nil.mp h)
  have hpart : (dataframe.withRows rows hrows).rows ≠ [] := hnonempty
  simp only
  rw [recommendations_of_rows hwhole, recommendations_of_rows hpart]
  refine ⟨columnsWhere_sublist fun i => isKey_of_subperm h,
    columnsWhere_sublist fun i => isIdentifier_of_subperm h,
    columnsWhere_sublist fun i hmeasure => ?_⟩
  simp only [Bool.and_eq_true, Bool.not_eq_true', ← Bool.not_eq_true] at hmeasure ⊢
  obtain ⟨⟨hnumeric, hkey⟩, hidentifier⟩ := hmeasure
  exact ⟨⟨hnumeric, fun hwhole => hkey (isKey_of_subperm h hwhole)⟩,
    fun hwhole => hidentifier (isIdentifier_of_subperm h hwhole)⟩

end Part

/-- What appending does to the profiles of one column. -/
structure ColumnsAdd (ofS ofT ofBoth : ColumnProfile) : Prop where
  nullCount : ofBoth.nullCount = ofS.nullCount + ofT.nullCount
  le_distinctCount : max ofS.distinctCount ofT.distinctCount ≤ ofBoth.distinctCount
  distinctCount_le : ofBoth.distinctCount ≤ ofS.distinctCount + ofT.distinctCount

theorem columnsAdd_describeAs (polars : Polars) (frame : DataFrame V)
    {rows : List (Fin frame.width → Option V)}
    {hrows : frame.width = 0 → rows = []} {hboth : frame.width = 0 → frame.rows ++ rows = []}
    (i : Fin frame.width) :
    ColumnsAdd (describeAs polars frame i i) (describeAs polars (frame.withRows rows hrows) i i)
      (describeAs polars (frame.withRows (frame.rows ++ rows) hboth) i i) where
  nullCount := congrArg Nat.cast (DataFrame.nullCount_append i)
  le_distinctCount := max_le (Int.ofNat_le.mpr (DataFrame.le_distinctCount_append_left i))
    (Int.ofNat_le.mpr (DataFrame.le_distinctCount_append_right i))
  distinctCount_le := Int.ofNat_le.mpr (DataFrame.distinctCount_append_le i)

/-- **More rows.** For tables of one schema with literal names: the profile of two tables appended
adds the null counts and at least the duplicates, with distinct counts between the larger one and
the sum; and from a table to a part of it that is not empty, keys and identifiers stay, and no
measure comes. -/
theorem profile_growth (tables : CaseTables) (polars : Polars) {s t : TabularLoadResult V}
    (hliteral : s.dataframe.LiteralNames) {rows : List (Fin s.dataframe.width → Option V)}
    {hrows : s.dataframe.width = 0 → rows = []}
    (ht : t.dataframe = s.dataframe.withRows rows hrows) :
    ∃ ofS ofT, profile tables polars s = .ok ofS ∧ profile tables polars t = .ok ofT ∧
      Covers ofS s.dataframe ∧ Covers ofT t.dataframe ∧
      (∀ (both : TabularLoadResult V) (hboth : s.dataframe.width = 0 →
        s.dataframe.rows ++ rows = []),
        both.dataframe = s.dataframe.withRows (s.dataframe.rows ++ rows) hboth →
        ∃ ofBoth, profile tables polars both = .ok ofBoth ∧ Covers ofBoth both.dataframe ∧
          ofBoth.columns.map ColumnProfile.name = ofS.columns.map ColumnProfile.name ∧
          ofT.columns.map ColumnProfile.name = ofS.columns.map ColumnProfile.name ∧
          (∀ k (hs : k < ofS.columns.length) (ht : k < ofT.columns.length)
            (hboth : k < ofBoth.columns.length),
            ColumnsAdd ofS.columns[k] ofT.columns[k] ofBoth.columns[k]) ∧
          ofS.dataQuality.duplicateRowCount + ofT.dataQuality.duplicateRowCount ≤
            ofBoth.dataQuality.duplicateRowCount) ∧
      (rows.Subperm s.dataframe.rows → rows ≠ [] →
        ofS.recommendations.potentialPrimaryKeys.Sublist ofT.recommendations.potentialPrimaryKeys ∧
          ofS.recommendations.identifierColumns.Sublist ofT.recommendations.identifierColumns ∧
          ofT.recommendations.numericMeasures.Sublist ofS.recommendations.numericMeasures) := by
  obtain ⟨assetT, frameT, sizeT⟩ := t
  obtain rfl : frameT = s.dataframe.withRows rows hrows := ht
  have hliteralT : (s.dataframe.withRows rows hrows).LiteralNames := hliteral
  refine ⟨_, _, profile_of_literal tables polars hliteral,
    profile_of_literal tables polars hliteralT,
    covers_describedResult tables polars _, covers_describedResult tables polars _, ?_,
      recommendations_of_subperm⟩
  rintro ⟨assetB, frameB, sizeB⟩ hboth hframe
  obtain rfl : frameB = s.dataframe.withRows (s.dataframe.rows ++ rows) hboth := hframe
  have hliteralB : (s.dataframe.withRows (s.dataframe.rows ++ rows) hboth).LiteralNames := hliteral
  refine ⟨_, profile_of_literal tables polars hliteralB, covers_describedResult tables polars _, ?_,
    ?_, ?_, ?_⟩
  · simp only [describedResult, described, List.map_map]
    rfl
  · simp only [describedResult, described, List.map_map]
    rfl
  · intro k hs ht hboth
    simp only [describedResult, described, List.getElem_map, List.getElem_finRange]
    exact columnsAdd_describeAs polars s.dataframe _
  · exact DataFrame.duplicates_append_le hrows hboth

/-- Orders by their identifiers. -/
def ordersTable (rows : List (Fin 1 → Option Nat)) : TabularLoadResult Nat where
  asset := ⟨"orders.csv", "orders", "csv", "file:///orders.csv", 20, ""⟩
  dataframe := .single "order_id" .int64 rows
  estimatedSizeBytes := 16

/-- An order comes once more. -/
theorem profile_growth_sample :
    ∃ ofS ofT ofBoth,
      profile CaseTables.ascii ⟨anchoredLiteral, fun _ => ""⟩
        (ordersTable [fun _ => some 1, fun _ => some 2]) =
        .ok ofS ∧
      profile CaseTables.ascii ⟨anchoredLiteral, fun _ => ""⟩ (ordersTable [fun _ => some 1]) =
        .ok ofT ∧
      profile CaseTables.ascii ⟨anchoredLiteral, fun _ => ""⟩
        (ordersTable [fun _ => some 1, fun _ => some 2, fun _ => some 1]) = .ok ofBoth ∧
      (∃ (hs : 0 < ofS.columns.length) (ht : 0 < ofT.columns.length)
        (hboth : 0 < ofBoth.columns.length),
        ColumnsAdd ofS.columns[0] ofT.columns[0] ofBoth.columns[0]) ∧
      ofS.dataQuality.duplicateRowCount + ofT.dataQuality.duplicateRowCount ≤
        ofBoth.dataQuality.duplicateRowCount ∧
      ofS.recommendations.potentialPrimaryKeys.Sublist ofT.recommendations.potentialPrimaryKeys ∧
      ofT.recommendations.numericMeasures.Sublist ofS.recommendations.numericMeasures := by
  have hliteral : (ordersTable [fun _ => some 1, fun _ => some 2]).dataframe.LiteralNames := by
    decide
  have hpart : (ordersTable [fun _ => some 1]).dataframe =
      (ordersTable [fun _ => some 1, fun _ => some 2]).dataframe.withRows [fun _ => some 1] nofun :=
        rfl
  have hwhole : (ordersTable [fun _ => some 1, fun _ => some 2, fun _ => some 1]).dataframe =
      (ordersTable [fun _ => some 1, fun _ => some 2]).dataframe.withRows
        ([fun _ => some 1, fun _ => some 2] ++ [fun _ => some 1]) nofun := rfl
  obtain ⟨ofS, ofT, hS, hT, hcoversS, hcoversT, happend, hpartial⟩ :=
    profile_growth CaseTables.ascii ⟨anchoredLiteral, fun _ => ""⟩ hliteral hpart
  obtain ⟨ofBoth, hBoth, hcoversBoth, -, -, hcolumns, hduplicates⟩ := happend _ nofun hwhole
  have hsubperm : [fun _ : Fin 1 => some 1].Subperm [fun _ => some 1, fun _ => some 2] :=
    (List.Sublist.cons_cons _ (List.nil_sublist _)).subperm
  obtain ⟨hkeys, -, hmeasures⟩ := hpartial hsubperm (List.cons_ne_nil _ _)
  have hs : 0 < ofS.columns.length := hcoversS.length ▸ Nat.one_pos
  have ht : 0 < ofT.columns.length := hcoversT.length ▸ Nat.one_pos
  have hboth : 0 < ofBoth.columns.length := hcoversBoth.length ▸ Nat.one_pos
  exact ⟨ofS, ofT, ofBoth, hS, hT, hBoth, ⟨hs, ht, hboth, hcolumns 0 hs ht hboth⟩, hduplicates,
    hkeys, hmeasures⟩

end DatasetProfiler

end Athena
