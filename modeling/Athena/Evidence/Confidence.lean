import Athena.Library.FloatingPoint
import Athena.Python.Exception

/-!
# Confidence

A score and the level it stands for. The thresholds are written as decimals and compared as doubles,
and so is a score; that both are rounded does not show for scores of up to fifteen decimals.
-/

namespace Athena

open Library

/-- A Python `float`. -/
inductive PyFloat
  | finite (value : ℚ)
  | infinite (negative : Bool)
  | nan
  deriving DecidableEq

namespace PyFloat

/-- `x <= y`. -/
def le : PyFloat → PyFloat → Bool
  | .nan, _ => false
  | _, .nan => false
  | .finite x, .finite y => x ≤ y
  | .finite _, .infinite negative => !negative
  | .infinite negative, .finite _ => negative
  | .infinite negative, .infinite negative' => negative || !negative'

/-- `float(text)` for the text of a decimal below `2 ^ 1024`. -/
def ofDecimal (decimal : ℚ) : PyFloat := .finite (binary64.round decimal)

end PyFloat

inductive ConfidenceLevel
  | high
  | medium
  | low
  | speculative
  | insufficient
  deriving DecidableEq, Repr

structure Confidence where
  score : PyFloat
  level : ConfidenceLevel
  deriving DecidableEq

namespace Confidence

def HIGH_THRESHOLD : PyFloat := .ofDecimal (85 / 100)

def MEDIUM_THRESHOLD : PyFloat := .ofDecimal (60 / 100)

def LOW_THRESHOLD : PyFloat := .ofDecimal (35 / 100)

def fromScore (score : PyFloat) : Except PyException Confidence :=
  if !((PyFloat.finite 0).le score && score.le (.finite 1)) then
    .error (.valueError "Confidence score must be within [0.0, 1.0]")
  else
    let level :=
      if HIGH_THRESHOLD.le score then .high
      else if MEDIUM_THRESHOLD.le score then .medium
      else if LOW_THRESHOLD.le score then .low
      else .speculative
    .ok ⟨score, level⟩

def insufficient : Confidence := ⟨.finite 0, .insufficient⟩

/-- The level by the thresholds as they are written. -/
def levelOf (score : ℚ) : ConfidenceLevel :=
  if 85 / 100 ≤ score then .high
  else if 60 / 100 ≤ score then .medium
  else if 35 / 100 ≤ score then .low
  else .speculative

/-! ### Decimals as doubles -/

/-- Doubles tell decimals apart that have fifteen places. -/
theorem round_le_round_iff {m n : ℕ} (hm : m < 2 * 10 ^ 15) :
    binary64.round (m / 10 ^ 15) ≤ binary64.round (n / 10 ^ 15) ↔ m ≤ n := by
  constructor
  · intro hround
    by_contra hlt
    have hgap : (n : ℚ) + 1 ≤ m := by exact_mod_cast not_le.mp hlt
    have hbound : (m : ℚ) < 2 * 10 ^ 15 := by exact_mod_cast hm
    have hstrict : binary64.round (n / 10 ^ 15) < binary64.round (m / 10 ^ 15) := by
      apply @FloatFormat.round_lt_round binary64 (n / 10 ^ 15) (m / 10 ^ 15) 0
      · positivity
      · rw [div_lt_iff₀ (by norm_num)]
        norm_num at hbound ⊢
        exact hbound
      · rw [lt_div_iff₀ (by norm_num), add_mul, div_mul_cancel₀ _ (by norm_num)]
        norm_num [binary64]
        linarith
      · decide
      · exact le_rfl
    exact absurd hround (not_le.mpr hstrict)
  · intro hle
    apply FloatFormat.round_mono
    · positivity
    · apply div_le_div_of_nonneg_right
      · exact_mod_cast hle
      · norm_num

theorem round_le_one_iff {n : ℕ} : binary64.round (n / 10 ^ 15) ≤ 1 ↔ n ≤ 10 ^ 15 := by
  have hone : binary64.round ((10 ^ 15 : ℕ) / 10 ^ 15) = 1 := by decide +kernel
  constructor
  · intro hround
    by_contra hlt
    have hnext : binary64.round ((10 ^ 15 + 1 : ℕ) / 10 ^ 15) ≤ binary64.round (n / 10 ^ 15) := by
      rw [round_le_round_iff (by norm_num)]
      omega
    have hgreater : 1 < binary64.round ((10 ^ 15 + 1 : ℕ) / 10 ^ 15) := by decide +kernel
    linarith
  · intro hle
    have hround : binary64.round (n / 10 ^ 15) ≤ binary64.round ((10 ^ 15 : ℕ) / 10 ^ 15) := by
      apply FloatFormat.round_mono
      · positivity
      · apply div_le_div_of_nonneg_right
        · exact_mod_cast hle
        · norm_num
    exact hone ▸ hround

/-- A threshold with two decimals. -/
theorem threshold_le {t n : ℕ} (ht : t ≤ 100) :
    (PyFloat.ofDecimal (t / 100)).le (.ofDecimal (n / 10 ^ 15)) =
      decide ((t / 100 : ℚ) ≤ n / 10 ^ 15) := by
  have hthreshold : (t / 100 : ℚ) = (t * 10 ^ 13 : ℕ) / 10 ^ 15 := by
    push_cast
    ring
  show decide (binary64.round (t / 100) ≤ binary64.round (n / 10 ^ 15)) = _
  rw [hthreshold, decide_eq_decide, round_le_round_iff (by omega),
    div_le_div_iff_of_pos_right (by norm_num)]
  exact_mod_cast Iff.rfl

theorem fromScore_ofDecimal (n : ℕ) :
    fromScore (.ofDecimal (n / 10 ^ 15)) =
      if n ≤ 10 ^ 15 then .ok ⟨.ofDecimal (n / 10 ^ 15), levelOf (n / 10 ^ 15)⟩
      else .error (.valueError "Confidence score must be within [0.0, 1.0]") := by
  have hnonneg : (PyFloat.finite 0).le (.ofDecimal (n / 10 ^ 15)) = true :=
    decide_eq_true (FloatFormat.round_nonneg (by positivity))
  have hrange : (PyFloat.ofDecimal (n / 10 ^ 15)).le (.finite 1) = decide (n ≤ 10 ^ 15) :=
    decide_eq_decide.mpr round_le_one_iff
  have hhigh :
      HIGH_THRESHOLD.le (.ofDecimal (n / 10 ^ 15)) = decide ((85 / 100 : ℚ) ≤ n / 10 ^ 15) :=
    threshold_le (t := 85) (by decide)
  have hmedium :
      MEDIUM_THRESHOLD.le (.ofDecimal (n / 10 ^ 15)) = decide ((60 / 100 : ℚ) ≤ n / 10 ^ 15) :=
    threshold_le (t := 60) (by decide)
  have hlow : LOW_THRESHOLD.le (.ofDecimal (n / 10 ^ 15)) = decide ((35 / 100 : ℚ) ≤ n / 10 ^ 15) :=
    threshold_le (t := 35) (by decide)
  rw [fromScore, hnonneg, hrange, hhigh, hmedium, hlow, levelOf]
  by_cases hle : n ≤ 10 ^ 15
  · rw [if_pos hle, decide_eq_true hle]
    simp only [Bool.and_true, Bool.not_true, Bool.false_eq_true, if_false, decide_eq_true_eq]
  · rw [if_neg hle, decide_eq_false hle]
    simp only [Bool.and_false, Bool.not_false, if_true]

/-! ### Any score -/

/-- How much a level says. -/
def rank : ConfidenceLevel → ℕ
  | .high => 4
  | .medium => 3
  | .low => 2
  | .speculative => 1
  | .insufficient => 0

theorem fromScore_ok {score : PyFloat} {confidence : Confidence}
    (h : fromScore score = .ok confidence) :
    ∃ value : ℚ, score = .finite value ∧ 0 ≤ value ∧ value ≤ 1 ∧ confidence.score = score ∧
      confidence.level =
        if binary64.round (85 / 100) ≤ value then .high
        else if binary64.round (60 / 100) ≤ value then .medium
        else if binary64.round (35 / 100) ≤ value then .low
        else .speculative := by
  rw [fromScore] at h
  split at h
  · cases h
  rename_i hrange
  obtain ⟨hnonneg, hone⟩ : (PyFloat.finite 0).le score = true ∧ score.le (.finite 1) = true := by
    simpa using hrange
  obtain rfl := Except.ok.inj h
  cases score with
  | nan => cases hnonneg
  | infinite negative =>
      cases negative with
      | true => cases hnonneg
      | false => cases hone
  | finite value =>
      refine ⟨value, rfl, of_decide_eq_true hnonneg, of_decide_eq_true hone, rfl, ?_⟩
      simp only [HIGH_THRESHOLD, MEDIUM_THRESHOLD, LOW_THRESHOLD, PyFloat.ofDecimal, PyFloat.le,
        decide_eq_true_eq]

/-- **The level of a score.** Read as doubles, scores of up to fifteen decimals get the level that
the thresholds give them as decimals, and are refused exactly when they are above 1. Any score that
is accepted is kept as it is, is a number from 0 to 1, and has a level other than the one for
declining to classify; and a greater score never says less. -/
theorem from_score_levels :
    (∀ n : ℕ, fromScore (.ofDecimal (n / 10 ^ 15)) =
      if n ≤ 10 ^ 15 then .ok ⟨.ofDecimal (n / 10 ^ 15), levelOf (n / 10 ^ 15)⟩
      else .error (.valueError "Confidence score must be within [0.0, 1.0]")) ∧
      (∀ score confidence, fromScore score = .ok confidence → confidence.score = score ∧
        (∃ value, score = .finite value ∧ 0 ≤ value ∧ value ≤ 1) ∧
          confidence.level ≠ insufficient.level) ∧
      ∀ score score' confidence confidence', fromScore score = .ok confidence →
      fromScore score' = .ok confidence' →
        score.le score' = true → rank confidence.level ≤ rank confidence'.level := by
  refine ⟨fromScore_ofDecimal, ?_, ?_⟩
  · intro score confidence h
    obtain ⟨value, hvalue, hnonneg, hone, hscore, hlevel⟩ := fromScore_ok h
    refine ⟨hscore, ⟨value, hvalue, hnonneg, hone⟩, ?_⟩
    rw [hlevel]
    split_ifs <;> decide
  · intro score score' confidence confidence' h h' hle
    obtain ⟨value, rfl, -, -, -, hlevel⟩ := fromScore_ok h
    obtain ⟨value', rfl, -, -, -, hlevel'⟩ := fromScore_ok h'
    have hvalue : value ≤ value' := of_decide_eq_true hle
    have hmedium : binary64.round (60 / 100) ≤ binary64.round (85 / 100) := by decide +kernel
    have hlow : binary64.round (35 / 100) ≤ binary64.round (60 / 100) := by decide +kernel
    rw [hlevel, hlevel']
    -- Where the greater score misses a threshold, so does the less.
    split_ifs <;> first | decide | linarith

/-- A score that is just below a threshold as a decimal can be on it as a double. -/
example : (fromScore (.ofDecimal (85 / 100 - 1 / 10 ^ 17))).map level = .ok .high ∧
    levelOf (85 / 100 - 1 / 10 ^ 17) = .medium := by decide +kernel

end Confidence

end Athena
