import Mathlib.Tactic.GCongr
import Athena.Library.FloatingPoint
import Athena.Profiling.Counts

/-!
# The percentages as doubles

`_percentage` divides two integers, which Python rounds once, and multiplies by 100, which rounds
again. The profile reports the result of that. It never leaves the range from 0 to 100 and never
reverses an order; it is off by less than `2 ^ -45`; and for tables of less than `2 ^ 54` cells the
two ends of the range still mean none and all.
-/

namespace Athena.DatasetProfiler

open Library

/-- `numerator / denominator * 100` in doubles. -/
def percentage64 (numerator denominator : Int) : ℚ :=
  if denominator = 0 then 0 else binary64.round (binary64.round (numerator / denominator) * 100)

/-! ### Some values -/

theorem round_one : binary64.round 1 = 1 := by decide +kernel

theorem round_hundred : binary64.round 100 = 100 := by decide +kernel

theorem round_least : binary64.round (1 / 2 ^ 54) = 1 / 2 ^ 54 := by decide +kernel

theorem round_least_percentage : binary64.round (1 / 2 ^ 54 * 100) = 1 / 2 ^ 54 * 100 := by
  decide +kernel

theorem round_greatest : binary64.round (1 - 1 / (2 ^ 54 - 1)) = 1 - 1 / 2 ^ 53 := by decide +kernel

theorem round_greatest_percentage : binary64.round ((1 - 1 / 2 ^ 53) * 100) = 100 - 1 / 2 ^ 46 := by
  decide +kernel

section Share

variable {numerator numerator' denominator : Int}

/-! ### A part of its total -/

theorem share_nonneg (hnumerator : 0 ≤ numerator) (hdenominator : 0 < denominator) :
    (0 : ℚ) ≤ numerator / denominator :=
  div_nonneg (by exact_mod_cast hnumerator) (by exact_mod_cast hdenominator.le)

theorem share_le_one (hle : numerator ≤ denominator) (hdenominator : 0 < denominator) :
    (numerator / denominator : ℚ) ≤ 1 := by
  rw [div_le_one (by exact_mod_cast hdenominator)]
  exact_mod_cast hle

theorem percentage64_of_pos (hdenominator : 0 < denominator) :
    percentage64 numerator denominator =
      binary64.round (binary64.round (numerator / denominator) * 100) :=
  if_neg hdenominator.ne'

theorem percentage_of_pos (hdenominator : 0 < denominator) :
    percentage numerator denominator = numerator / denominator * 100 :=
  (percentage_eq numerator denominator).trans (if_neg hdenominator.ne')

/-- Both roundings keep the order. -/
theorem round_twice_mono {x y : ℚ} (hx : 0 ≤ x) (h : x ≤ y) :
    binary64.round (binary64.round x * 100) ≤ binary64.round (binary64.round y * 100) := by
  have hround : binary64.round x ≤ binary64.round y := FloatFormat.round_mono hx h
  have hnonneg : 0 ≤ binary64.round x := FloatFormat.round_nonneg hx
  apply FloatFormat.round_mono
  · linarith
  · linarith

theorem percentage64_nonneg (hnumerator : 0 ≤ numerator) (hdenominator : 0 ≤ denominator) :
    0 ≤ percentage64 numerator denominator := by
  rcases hdenominator.eq_or_lt with hzero | hpos
  · rw [percentage64, if_pos hzero.symm]
  · have hround : 0 ≤ binary64.round (numerator / denominator) :=
      FloatFormat.round_nonneg (share_nonneg hnumerator hpos)
    rw [percentage64_of_pos hpos]
    apply FloatFormat.round_nonneg
    linarith

theorem percentage64_le_hundred (hnumerator : 0 ≤ numerator) (hle : numerator ≤ denominator) :
    percentage64 numerator denominator ≤ 100 := by
  rcases (hnumerator.trans hle).eq_or_lt with hzero | hpos
  · rw [percentage64, if_pos hzero.symm]
    norm_num
  · calc percentage64 numerator denominator
        = binary64.round (binary64.round (numerator / denominator) * 100) :=
          percentage64_of_pos hpos
      _ ≤ binary64.round (binary64.round 1 * 100) :=
        round_twice_mono (share_nonneg hnumerator hpos) (share_le_one hle hpos)
      _ = 100 := by rw [round_one, one_mul, round_hundred]

theorem percentage64_mono (hnumerator : 0 ≤ numerator) (hdenominator : 0 ≤ denominator)
    (h : numerator ≤ numerator') :
    percentage64 numerator denominator ≤ percentage64 numerator' denominator := by
  rcases hdenominator.eq_or_lt with hzero | hpos
  · rw [percentage64, percentage64, if_pos hzero.symm, if_pos hzero.symm]
  · have hshare : (numerator / denominator : ℚ) ≤ numerator' / denominator := by
      apply div_le_div_of_nonneg_right
      · exact_mod_cast h
      · exact_mod_cast hpos.le
    rw [percentage64_of_pos hpos, percentage64_of_pos hpos]
    exact round_twice_mono (share_nonneg hnumerator hpos) hshare

/-- The first rounding is of a number below 2, the second of one below 128. -/
theorem abs_percentage64_sub_lt (hnumerator : 0 ≤ numerator) (hle : numerator ≤ denominator) :
    |percentage64 numerator denominator - percentage numerator denominator| < 1 / 2 ^ 45 := by
  rcases (hnumerator.trans hle).eq_or_lt with hzero | hpos
  · rw [percentage64, percentage_eq, if_pos hzero.symm, if_pos hzero.symm]
    norm_num
  have hnonneg := share_nonneg hnumerator hpos
  have hone := share_le_one hle hpos
  rw [percentage64_of_pos hpos, percentage_of_pos hpos]
  generalize (numerator / denominator : ℚ) = share at hnonneg hone ⊢
  have hround : |binary64.round share - share| ≤ 1 / 2 ^ 53 := by
    have herror := @FloatFormat.abs_round_sub_le_of_lt binary64 share 0 hnonneg
      (by norm_num; linarith) (by decide) le_rfl
    norm_num [binary64] at herror ⊢
    exact herror
  have hrounded : binary64.round share ≤ 1 := round_one ▸ FloatFormat.round_mono hnonneg hone
  have hrounded' : 0 ≤ binary64.round share := FloatFormat.round_nonneg hnonneg
  have hround' :
      |binary64.round (binary64.round share * 100) - binary64.round share * 100| ≤ 1 / 2 ^ 47 := by
    have herror :=
      @FloatFormat.abs_round_sub_le_of_lt binary64 (binary64.round share * 100) 6 (by linarith)
      (by norm_num; linarith) (by decide) (by decide)
    norm_num [binary64] at herror ⊢
    exact herror
  rw [abs_le] at hround hround'
  rw [abs_lt]
  constructor <;> linarith [hround.1, hround.2, hround'.1, hround'.2]

/-! ### None and all -/

theorem percentage64_pos (hnumerator : 0 < numerator) (hle : numerator ≤ denominator)
    (hsmall : denominator < 2 ^ 54) :
    0 < percentage64 numerator denominator := by
  have hpos : 0 < denominator := hnumerator.trans_le hle
  have hshare : (1 / 2 ^ 54 : ℚ) ≤ numerator / denominator := by
    apply div_le_div₀
    · exact_mod_cast hnumerator.le
    · exact_mod_cast hnumerator
    · exact_mod_cast hpos
    · exact_mod_cast hsmall.le
  calc (0 : ℚ) < 1 / 2 ^ 54 * 100 := by norm_num
    _ = binary64.round (binary64.round (1 / 2 ^ 54) * 100) := by
      rw [round_least, round_least_percentage]
    _ ≤ binary64.round (binary64.round (numerator / denominator) * 100) :=
      round_twice_mono (by norm_num) hshare
    _ = percentage64 numerator denominator := (percentage64_of_pos hpos).symm

theorem percentage64_lt_hundred (hnumerator : 0 ≤ numerator) (hlt : numerator < denominator)
    (hsmall : denominator < 2 ^ 54) : percentage64 numerator denominator < 100 := by
  have hpos : 0 < denominator := hnumerator.trans_lt hlt
  have hdenominator : (0 : ℚ) < denominator := by exact_mod_cast hpos
  have hshare : (numerator / denominator : ℚ) ≤ 1 - 1 / (2 ^ 54 - 1) := by
    have hpart : (numerator : ℚ) ≤ denominator - 1 := by exact_mod_cast Int.le_sub_one_of_lt hlt
    have hlast : (1 / (2 ^ 54 - 1) : ℚ) ≤ 1 / denominator := by
      apply one_div_le_one_div_of_le hdenominator
      exact_mod_cast Int.le_sub_one_of_lt hsmall
    calc (numerator / denominator : ℚ) ≤ (denominator - 1) / denominator :=
          div_le_div_of_nonneg_right hpart hdenominator.le
      _ = 1 - 1 / denominator := by rw [sub_div, div_self hdenominator.ne']
      _ ≤ 1 - 1 / (2 ^ 54 - 1) := by linarith
  calc percentage64 numerator denominator
      = binary64.round (binary64.round (numerator / denominator) * 100) := percentage64_of_pos hpos
    _ ≤ binary64.round (binary64.round (1 - 1 / (2 ^ 54 - 1)) * 100) :=
        round_twice_mono (share_nonneg hnumerator hpos) hshare
    _ = 100 - 1 / 2 ^ 46 := by rw [round_greatest, round_greatest_percentage]
    _ < 100 := by norm_num

theorem percentage64_eq_zero_iff (hnumerator : 0 ≤ numerator) (hle : numerator ≤ denominator)
    (hsmall : denominator < 2 ^ 54) : percentage64 numerator denominator = 0 ↔ numerator = 0 := by
  rcases hnumerator.eq_or_lt with hzero | hpos
  · rw [← hzero]
    simp [percentage64, FloatFormat.round_zero]
  · exact iff_of_false (percentage64_pos hpos hle hsmall).ne' hpos.ne'

theorem percentage64_eq_hundred_iff (hnumerator : 0 ≤ numerator) (hle : numerator ≤ denominator)
    (hpos : 0 < denominator) (hsmall : denominator < 2 ^ 54) :
    percentage64 numerator denominator = 100 ↔ numerator = denominator := by
  rcases hle.eq_or_lt with heq | hlt
  · have hall : (denominator / denominator : ℚ) = 1 := div_self (by exact_mod_cast hpos.ne')
    rw [heq, percentage64_of_pos hpos, hall, round_one, one_mul, round_hundred]
    simp
  · exact iff_of_false (percentage64_lt_hundred hnumerator hlt hsmall).ne hlt.ne

/-- From `2 ^ 54` on, all but one can be reported as all. -/
example : percentage64 (2 ^ 54 - 1) (2 ^ 54) = 100 := by decide +kernel

/-- Two shares of a total that differ are further apart than the roundings move them. -/
theorem percentage64_strictMono (hnumerator : 0 ≤ numerator) (hlt : numerator < numerator')
    (hle : numerator' ≤ denominator) (hsmall : denominator ≤ 2 ^ 50) :
    percentage64 numerator denominator < percentage64 numerator' denominator := by
  have hpos : 0 < denominator := by omega
  have hdenominator : (0 : ℚ) < denominator := by exact_mod_cast hpos
  have herror := abs_percentage64_sub_lt hnumerator (hlt.le.trans hle)
  have herror' := abs_percentage64_sub_lt (hnumerator.trans hlt.le) hle
  have hgap :
      percentage numerator denominator + 100 / 2 ^ 50 ≤ percentage numerator' denominator := by
    have hnext : (numerator : ℚ) + 1 ≤ numerator' := by exact_mod_cast hlt
    have hshare : (100 / 2 ^ 50 : ℚ) ≤ 1 / denominator * 100 := by
      have hlast : (1 / 2 ^ 50 : ℚ) ≤ 1 / denominator := by
        apply one_div_le_one_div_of_le hdenominator
        exact_mod_cast hsmall
      linarith
    calc percentage numerator denominator + 100 / 2 ^ 50
        ≤ numerator / denominator * 100 + 1 / denominator * 100 := by
          rw [percentage_of_pos hpos]
          linarith
      _ = (numerator + 1) / denominator * 100 := by rw [add_div, add_mul]
      _ ≤ numerator' / denominator * 100 := by gcongr
      _ = percentage numerator' denominator := (percentage_of_pos hpos).symm
  rw [abs_lt] at herror herror'
  linarith [herror.2, herror'.1]

end Share

/-! ### The profile as it is reported -/

/-- A profile with its percentages in doubles. -/
def inDoubles (profiled : ProfileResult) : ProfileResult :=
  { profiled with
    columns := profiled.columns.map fun column =>
      { column with
        nullPercentage := percentage64 column.nullCount profiled.summary.rowCount
        distinctPercentage := percentage64 column.distinctCount profiled.summary.rowCount }
    dataQuality :=
      { profiled.dataQuality with
        nullPercentage :=
          percentage64 profiled.dataQuality.nullCellCount profiled.dataQuality.totalCellCount
        duplicateRowPercentage :=
          percentage64 profiled.dataQuality.duplicateRowCount profiled.summary.rowCount } }

theorem percentageCalls_inDoubles (profiled : ProfileResult) :
    percentageCalls (inDoubles profiled) =
      (percentageCalls profiled).map fun call =>
        (call.1, call.2.1, percentage64 call.1 call.2.1) := by
  simp [percentageCalls, inDoubles, List.map_flatMap, List.flatMap_map]

theorem total_of_percentageCalls {profiled : ProfileResult} {call : Int × Int × ℚ}
    (h : call ∈ percentageCalls profiled) :
    call.2.1 = profiled.summary.rowCount ∨ call.2.1 = profiled.dataQuality.totalCellCount := by
  rw [percentageCalls, List.mem_append, List.mem_flatMap] at h
  simp only [List.mem_cons, List.not_mem_nil, or_false] at h
  rcases h with ⟨column, -, rfl | rfl⟩ | rfl | rfl
  · exact .inl rfl
  · exact .inl rfl
  · exact .inr rfl
  · exact .inl rfl

/-- What the reported percentages still say of the counts. -/
structure ReportFits (reported : ProfileResult) : Prop where
  in_range : ∀ call ∈ percentageCalls reported, 0 ≤ call.2.2 ∧ call.2.2 ≤ 100
  close : ∀ call ∈ percentageCalls reported, |call.2.2 - percentage call.1 call.2.1| < 1 / 2 ^ 45
  ordered : ∀ call ∈ percentageCalls reported, ∀ call' ∈ percentageCalls reported,
    call.2.1 = call'.2.1 →
    call.1 ≤ call'.1 → call.2.2 ≤ call'.2.2
  none_and_all : reported.dataQuality.totalCellCount < 2 ^ 54 → ∀ call ∈ percentageCalls reported,
    (call.2.2 = 0 ↔ call.1 = 0) ∧ (0 < call.2.1 → (call.2.2 = 100 ↔ call.1 = call.2.1))
  empty_columns : reported.dataQuality.totalCellCount < 2 ^ 54 → 0 < reported.summary.rowCount →
    reported.dataQuality.emptyColumnCount = reported.columns.countP fun column =>
      column.nullPercentage = 100
  distinguished : reported.dataQuality.totalCellCount ≤ 2 ^ 50 → ∀ call ∈ percentageCalls reported,
    ∀ call' ∈ percentageCalls reported, call.2.1 = call'.2.1 → call.1 < call'.1 →
      call.2.2 < call'.2.2

variable {V : Type} [DecidableEq V] (polars : Polars) (tables : CaseTables)
  (result : TabularLoadResult V)

omit [DecidableEq V] in
theorem height_le_cells (dataframe : DataFrame V) :
    (dataframe.height : Int) ≤ dataframe.height * dataframe.width := by
  rcases Nat.eq_zero_or_pos dataframe.height with hnone | hsome
  · rw [hnone]
    simp
  · have hwidth := DataFrame.width_pos_of_height_pos hsome
    exact_mod_cast Nat.le_mul_of_pos_right _ hwidth

/-- Every call is on a part and its total, and no total is above the number of cells. -/
theorem percentageCalls_reported :
    ∀ call ∈ percentageCalls (inDoubles (describedResult tables polars result)),
      0 ≤ call.1 ∧ call.1 ≤ call.2.1 ∧ call.2.2 = percentage64 call.1 call.2.1 ∧
        call.2.1 ≤ (describedResult tables polars result).dataQuality.totalCellCount := by
  intro call hcall
  rw [percentageCalls_inDoubles, List.mem_map] at hcall
  obtain ⟨exact, hexact, rfl⟩ := hcall
  obtain ⟨hnumerator, hle, -⟩ := percentageCalls_describedResult polars tables result exact hexact
  refine ⟨hnumerator, hle, rfl, ?_⟩
  rcases total_of_percentageCalls hexact with htotal | htotal
  · show exact.2.1 ≤ _
    rw [htotal]
    exact height_le_cells result.dataframe
  · exact htotal.le

theorem reportFits : ReportFits (inDoubles (describedResult tables polars result)) where
  in_range := by
    intro call hcall
    obtain ⟨hnumerator, hle, hpercentage, -⟩ :=
      percentageCalls_reported polars tables result call hcall
    rw [hpercentage]
    exact ⟨percentage64_nonneg hnumerator (hnumerator.trans hle),
      percentage64_le_hundred hnumerator hle⟩
  close := by
    intro call hcall
    obtain ⟨hnumerator, hle, hpercentage, -⟩ :=
      percentageCalls_reported polars tables result call hcall
    rw [hpercentage]
    exact abs_percentage64_sub_lt hnumerator hle
  ordered := by
    intro call hcall call' hcall' htotal hle
    obtain ⟨hnumerator, hpart, hpercentage, -⟩ :=
      percentageCalls_reported polars tables result call hcall
    obtain ⟨-, -, hpercentage', -⟩ := percentageCalls_reported polars tables result call' hcall'
    rw [hpercentage, hpercentage', ← htotal]
    exact percentage64_mono hnumerator (hnumerator.trans hpart) hle
  none_and_all := by
    intro hcells call hcall
    obtain ⟨hnumerator, hle, hpercentage, htotal⟩ :=
      percentageCalls_reported polars tables result call hcall
    rw [hpercentage]
    exact ⟨percentage64_eq_zero_iff hnumerator hle (htotal.trans_lt hcells),
      fun hpos => percentage64_eq_hundred_iff hnumerator hle hpos (htotal.trans_lt hcells)⟩
  empty_columns := by
    intro hcells hrows
    have hpositive : 0 < result.dataframe.height := Int.natCast_pos.mp hrows
    show (describedResult tables polars result).dataQuality.emptyColumnCount = _
    rw [emptyColumnCount_describedResult polars tables result hpositive]
    show _ = ((List.countP _ ((described polars result.dataframe).map _) : ℕ) : Int)
    rw [List.countP_map]
    apply congrArg
    apply List.countP_congr
    intro column hcolumn
    obtain ⟨hnull, hdistinct, hle, -, hexact, -⟩ :=
      columnFits_of_mem polars result.dataframe column hcolumn
    have hsmall : (result.dataframe.height : Int) < 2 ^ 54 :=
      (height_le_cells result.dataframe).trans_lt hcells
    have hpart : column.nullCount ≤ result.dataframe.height := by omega
    rw [decide_eq_true_eq, hexact, percentage_eq_hundred_iff (by omega)]
    show _ ↔ decide (percentage64 column.nullCount result.dataframe.height = 100) = true
    rw [decide_eq_true_eq, percentage64_eq_hundred_iff hnull hpart (by omega) hsmall]
  distinguished := by
    intro hcells call hcall call' hcall' htotal hlt
    obtain ⟨hnumerator, -, hpercentage, hsmall⟩ :=
      percentageCalls_reported polars tables result call hcall
    obtain ⟨-, hle, hpercentage', -⟩ := percentageCalls_reported polars tables result call' hcall'
    rw [hpercentage, hpercentage', ← htotal]
    exact percentage64_strictMono hnumerator hlt (htotal ▸ hle) (hsmall.trans hcells)

/-! ### The limit for categories -/

/-- `int(row_count * 0.5)` in doubles. -/
def halfOf64 (rowCount : Int) : Int := ⌊binary64.round (binary64.round rowCount * (1 / 2))⌋

def categoricalLimit64 (dataframe : DataFrame V) : Int :=
  min CATEGORICAL_CARDINALITY_LIMIT (max 1 (halfOf64 dataframe.height))

theorem halfOf64_of_lt : ∀ rowCount < 100, halfOf64 (rowCount : ℕ) = halfOf rowCount := by
  decide +kernel

theorem le_halfOf64 {rowCount : ℕ} (h : 100 ≤ rowCount) : 50 ≤ halfOf64 rowCount := by
  have hround : (100 : ℚ) ≤ binary64.round rowCount := by
    calc (100 : ℚ) = binary64.round 100 := round_hundred.symm
      _ ≤ binary64.round rowCount := FloatFormat.round_mono (by norm_num) (by exact_mod_cast h)
  apply Int.le_floor.mpr
  calc ((50 : Int) : ℚ) = binary64.round 50 := by decide +kernel
    _ ≤ binary64.round (binary64.round rowCount * (1 / 2)) := by
      apply FloatFormat.round_mono
      · norm_num
      · linarith

omit [DecidableEq V] in
/-- The rounding is where the limit is 50 anyway. -/
theorem categoricalLimit64_eq (dataframe : DataFrame V) :
    categoricalLimit64 dataframe = categoricalLimit dataframe := by
  rw [categoricalLimit64, categoricalLimit]
  rcases Nat.lt_or_ge dataframe.height 100 with hfew | hmany
  · rw [halfOf64_of_lt _ hfew]
  · have hhalf := le_halfOf64 hmany
    simp only [halfOf, CATEGORICAL_CARDINALITY_LIMIT]
    omega

/-- **What the reported percentages mean.** For every table with literal column names: the
percentages, computed in doubles as the code computes them, are in range, close to the exact ones
and in their order; with less than `2 ^ 54` cells 0 means none and 100 means all, so that the empty
columns are those with 100 percent of nulls; up to `2 ^ 50` cells, different counts are reported
differently. And the limit for categories is the exact one. -/
theorem profile_in_doubles {result : TabularLoadResult V}
    (hliteral : result.dataframe.LiteralNames) :
    ∃ profiled, profile tables polars result = .ok profiled ∧ ReportFits (inDoubles profiled) ∧
      (∀ call ∈ percentageCalls (inDoubles profiled), call.2.2 = percentage64 call.1 call.2.1) ∧
      categoricalLimit64 result.dataframe = categoricalLimit result.dataframe :=
  ⟨_, profile_of_literal tables polars hliteral, reportFits polars tables result,
    fun call hcall => (percentageCalls_reported polars tables result call hcall).2.2.1,
    categoricalLimit64_eq result.dataframe⟩

theorem profile_in_doubles_sample :
    ∃ profiled, profile CaseTables.ascii ⟨anchoredLiteral, fun _ => ""⟩ sampleTable = .ok profiled ∧
      ReportFits (inDoubles profiled) := by
  obtain ⟨profiled, hprofile, hfits, -⟩ :=
    profile_in_doubles ⟨anchoredLiteral, fun _ => ""⟩ CaseTables.ascii
    (by decide : sampleTable.dataframe.LiteralNames)
  exact ⟨profiled, hprofile, hfits⟩

end Athena.DatasetProfiler
