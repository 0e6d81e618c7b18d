import Mathlib.Algebra.Order.Floor.Ring
import Mathlib.Algebra.Order.Ring.Int
import Mathlib.Data.Int.Log
import Mathlib.Data.Rat.Floor
import Mathlib.Tactic.Linarith
import Mathlib.Tactic.NormNum
import Mathlib.Tactic.Ring

/-!
# Rounding to a binary floating-point format

A number is rounded to the nearest multiple of its last place, and a tie to the even one. The last
place depends on the number: there are `fractionBits` binary digits after the leading one, but no
place below `minExponent`. Everything here follows from one fact: rounding does not cross a multiple
of the number's own last place. A power of two that separates two numbers is such a multiple for
both, so that rounding is monotone.

Numbers are not negative, and small enough not to overflow.
-/

namespace Athena.Library

/-! ### The nearest integer -/

def roundHalfEven (x : ℚ) : ℤ :=
  if Int.fract x < 1 / 2 ∨ (Int.fract x = 1 / 2 ∧ Even ⌊x⌋) then ⌊x⌋ else ⌊x⌋ + 1

theorem roundHalfEven_intCast (n : ℤ) : roundHalfEven n = n := by
  simp [roundHalfEven]

theorem roundHalfEven_cases (x : ℚ) :
    (roundHalfEven x = ⌊x⌋ ∧ (Int.fract x < 1 / 2 ∨ (Int.fract x = 1 / 2 ∧ Even ⌊x⌋))) ∨
      (roundHalfEven x = ⌊x⌋ + 1 ∧ 1 / 2 ≤ Int.fract x ∧ (Int.fract x = 1 / 2 → ¬Even ⌊x⌋)) := by
  by_cases hdown : Int.fract x < 1 / 2 ∨ (Int.fract x = 1 / 2 ∧ Even ⌊x⌋)
  · exact .inl ⟨if_pos hdown, hdown⟩
  · refine .inr ⟨if_neg hdown, ?_, fun htie heven => hdown (.inr ⟨htie, heven⟩)⟩
    exact not_lt.mp fun hlt => hdown (.inl hlt)

theorem abs_roundHalfEven_sub_le (x : ℚ) : |(roundHalfEven x : ℚ) - x| ≤ 1 / 2 := by
  have hsplit := Int.floor_add_fract x
  have hlt := Int.fract_lt_one x
  have hnonneg := Int.fract_nonneg x
  rw [abs_le]
  rcases roundHalfEven_cases x with ⟨hround, hdown | ⟨htie, -⟩⟩ | ⟨hround, hup, -⟩
  · rw [hround]
    constructor <;> linarith
  · rw [hround]
    constructor <;> linarith
  · rw [hround, Int.cast_add, Int.cast_one]
    constructor <;> linarith

theorem roundHalfEven_mono {x y : ℚ} (h : x ≤ y) : roundHalfEven x ≤ roundHalfEven y := by
  have hfloor := Int.floor_mono h
  have hx := Int.floor_add_fract x
  have hy := Int.floor_add_fract y
  rcases hfloor.lt_or_eq with hlt | heq
  · rcases roundHalfEven_cases x with ⟨hround, -⟩ | ⟨hround, -⟩ <;>
      rcases roundHalfEven_cases y with ⟨hround', -⟩ | ⟨hround', -⟩ <;> omega
  · have hfract : Int.fract x ≤ Int.fract y := by
      rw [← heq] at hy
      linarith
    rcases roundHalfEven_cases x with ⟨hround, -⟩ | ⟨hround, hup, htie⟩
    · rcases roundHalfEven_cases y with ⟨hround', -⟩ | ⟨hround', -⟩ <;> omega
    · rcases roundHalfEven_cases y with ⟨hround', hdown⟩ | ⟨hround', -⟩
      · -- Both would be the same tie, which is broken in one way.
        rcases hdown with hlow | ⟨htie', heven⟩
        · linarith
        · rw [← heq] at heven
          exact absurd heven (htie (le_antisymm (htie' ▸ hfract) hup))
      · omega

/-! ### A format -/

structure FloatFormat where
  /-- Binary digits after the leading one. -/
  fractionBits : ℕ
  minExponent : ℤ

/-- IEEE 754 double precision. -/
def binary64 : FloatFormat := ⟨52, -1074⟩

namespace FloatFormat

variable {f : FloatFormat} {x y b : ℚ} {k : ℤ}

/-- The exponent of the last place of `x`. -/
def exponent (f : FloatFormat) (x : ℚ) : ℤ := max (Int.log 2 x - f.fractionBits) f.minExponent

def ulp (f : FloatFormat) (x : ℚ) : ℚ := 2 ^ f.exponent x

def round (f : FloatFormat) (x : ℚ) : ℚ := roundHalfEven (x / f.ulp x) * f.ulp x

theorem ulp_pos (f : FloatFormat) (x : ℚ) : 0 < f.ulp x := by
  rw [ulp]
  exact zpow_pos (by norm_num) _

theorem round_zero (f : FloatFormat) : f.round 0 = 0 := by
  have hround : roundHalfEven 0 = 0 := roundHalfEven_intCast 0
  rw [round, zero_div, hround, Int.cast_zero, zero_mul]

/-- `b` has no digit below the last place of `x`. -/
def OnGrid (f : FloatFormat) (x b : ℚ) : Prop := ∃ n : ℤ, b = n * f.ulp x

theorem onGrid_two_zpow (h : f.exponent x ≤ k) : f.OnGrid x (2 ^ k) := by
  obtain ⟨j, hj⟩ := Int.eq_ofNat_of_zero_le (Int.sub_nonneg_of_le h)
  refine ⟨2 ^ j, ?_⟩
  rw [ulp, Int.cast_pow, Int.cast_ofNat, ← zpow_natCast, ← zpow_add₀ (by norm_num)]
  congr 1
  omega

theorem OnGrid.div (h : f.OnGrid x b) : ∃ n : ℤ, b / f.ulp x = n ∧ b = n * f.ulp x := by
  obtain ⟨n, hn⟩ := h
  exact ⟨n, by rw [hn, mul_div_cancel_right₀ _ (ulp_pos f x).ne'], hn⟩

/-! ### Rounding does not cross the grid -/

theorem OnGrid.round_le (hgrid : f.OnGrid x b) (h : x ≤ b) : f.round x ≤ b := by
  obtain ⟨n, hn, hb⟩ := hgrid.div
  have hround : roundHalfEven (x / f.ulp x) ≤ n := by
    calc roundHalfEven (x / f.ulp x) ≤ roundHalfEven (b / f.ulp x) :=
          roundHalfEven_mono (div_le_div_of_nonneg_right h (ulp_pos f x).le)
      _ = n := by rw [hn, roundHalfEven_intCast]
  rw [round, hb]
  exact mul_le_mul_of_nonneg_right (by exact_mod_cast hround) (ulp_pos f x).le

theorem OnGrid.le_round (hgrid : f.OnGrid x b) (h : b ≤ x) : b ≤ f.round x := by
  obtain ⟨n, hn, hb⟩ := hgrid.div
  have hround : n ≤ roundHalfEven (x / f.ulp x) := by
    calc n = roundHalfEven (b / f.ulp x) := by rw [hn, roundHalfEven_intCast]
      _ ≤ roundHalfEven (x / f.ulp x) :=
        roundHalfEven_mono (div_le_div_of_nonneg_right h (ulp_pos f x).le)
  rw [round]
  exact hb ▸ mul_le_mul_of_nonneg_right (by exact_mod_cast hround) (ulp_pos f x).le

theorem round_nonneg (hx : 0 ≤ x) : 0 ≤ f.round x := by
  have hgrid : f.OnGrid x 0 := ⟨0, by rw [Int.cast_zero, zero_mul]⟩
  exact hgrid.le_round hx

theorem exponent_mono (hx : 0 < x) (h : x ≤ y) : f.exponent x ≤ f.exponent y := by
  have hlog : Int.log 2 x ≤ Int.log 2 y := Int.log_mono_right hx h
  rw [exponent, exponent]
  omega

theorem round_mono (hx : 0 ≤ x) (h : x ≤ y) : f.round x ≤ f.round y := by
  rcases hx.eq_or_lt with hzero | hpos
  · rw [← hzero, round_zero]
    exact round_nonneg (hx.trans h)
  have hy : 0 < y := hpos.trans_le h
  rcases (exponent_mono (f := f) hpos h).lt_or_eq with hlt | heq
  · -- The leading digit of `y` is on the grids of both, and between them.
    have hexponent : f.exponent y = Int.log 2 y - f.fractionBits ∧
        Int.log 2 x + 1 ≤ Int.log 2 y := by
      have hlog : Int.log 2 x ≤ Int.log 2 y := Int.log_mono_right hpos h
      simp only [exponent] at hlt ⊢
      omega
    obtain ⟨hexponent, hlog⟩ := hexponent
    have hbelow : x ≤ (2 : ℚ) ^ Int.log 2 y := by
      calc x ≤ (2 : ℚ) ^ (Int.log 2 x + 1) := by
            exact_mod_cast (Int.lt_zpow_succ_log_self (by norm_num) x).le
        _ ≤ (2 : ℚ) ^ Int.log 2 y := zpow_le_zpow_right₀ (by norm_num) hlog
    have habove : (2 : ℚ) ^ Int.log 2 y ≤ y := by
      exact_mod_cast Int.zpow_log_le_self (by norm_num) hy
    have hgrid : f.OnGrid x (2 ^ Int.log 2 y) := onGrid_two_zpow (by omega)
    have hgrid' : f.OnGrid y (2 ^ Int.log 2 y) := onGrid_two_zpow (by omega)
    exact (hgrid.round_le hbelow).trans (hgrid'.le_round habove)
  · have hulp : f.ulp x = f.ulp y := by rw [ulp, ulp, heq]
    have hround : roundHalfEven (x / f.ulp y) ≤ roundHalfEven (y / f.ulp y) :=
      roundHalfEven_mono (div_le_div_of_nonneg_right h (ulp_pos f y).le)
    rw [round, round, hulp]
    exact mul_le_mul_of_nonneg_right (by exact_mod_cast hround) (ulp_pos f y).le

/-! ### The error -/

theorem abs_round_sub_le (f : FloatFormat) (x : ℚ) : |f.round x - x| ≤ f.ulp x / 2 := by
  have hulp := ulp_pos f x
  have hscaled : f.round x - x = (roundHalfEven (x / f.ulp x) - x / f.ulp x) * f.ulp x := by
    rw [round, sub_mul, div_mul_cancel₀ _ hulp.ne']
  calc |f.round x - x| = |(roundHalfEven (x / f.ulp x) : ℚ) - x / f.ulp x| * f.ulp x := by
        rw [hscaled, abs_mul, abs_of_pos hulp]
    _ ≤ 1 / 2 * f.ulp x := mul_le_mul_of_nonneg_right (abs_roundHalfEven_sub_le _) hulp.le
    _ = f.ulp x / 2 := by ring

theorem exponent_le (hx : 0 ≤ x) (h : x < 2 ^ (k + 1)) (hk : f.minExponent ≤ k - f.fractionBits)
    (hzero : 0 ≤ k) :
    f.exponent x ≤ k - f.fractionBits := by
  have hlog : Int.log 2 x ≤ k := by
    rcases hx.eq_or_lt with rfl | hpos
    · rw [Int.log_zero_right]
      exact hzero
    · exact Int.lt_add_one_iff.mp
        ((Int.lt_zpow_iff_log_lt (by norm_num) hpos).mp (by exact_mod_cast h))
  rw [exponent]
  omega

/-- Below `2 ^ (k + 1)` the error is half a last place of a number in that range. -/
theorem abs_round_sub_le_of_lt (hx : 0 ≤ x) (h : x < 2 ^ (k + 1))
    (hk : f.minExponent ≤ k - f.fractionBits)
    (hzero : 0 ≤ k) : |f.round x - x| ≤ 2 ^ (k - f.fractionBits) / 2 := by
  have hulp : f.ulp x ≤ 2 ^ (k - f.fractionBits) :=
    zpow_le_zpow_right₀ (by norm_num) (exponent_le hx h hk hzero)
  exact (abs_round_sub_le f x).trans (by linarith)

/-- Numbers that are further apart than a last place keep their order strictly. -/
theorem round_lt_round (hx : 0 ≤ x) (hy : y < 2 ^ (k + 1)) (h : x + 2 ^ (k - f.fractionBits) < y)
    (hk : f.minExponent ≤ k - f.fractionBits) (hzero : 0 ≤ k) : f.round x < f.round y := by
  have hplace : (0 : ℚ) < 2 ^ (k - f.fractionBits) := zpow_pos (by norm_num) _
  have herror := abs_round_sub_le_of_lt hx (by linarith) hk hzero
  have herror' := abs_round_sub_le_of_lt (by linarith) hy hk hzero
  rw [abs_le] at herror herror'
  linarith [herror.2, herror'.1]

end FloatFormat

end Athena.Library
