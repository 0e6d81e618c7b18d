import Mathlib.Data.Nat.Basic
import Mathlib.Tactic.Common

/-!
# The proleptic Gregorian calendar

Days are numbered from 1 January of year 1, which is day 1. `ymdToOrdinal` counts the days before a
date; `ordinalToYmd` divides a day number into cycles of 400, 100, 4 and 1 years and estimates the
month. The two agree on every day, which is what makes a conversion between civil fields and
instants lossless.
-/

namespace Athena.Library.Calendar

def isLeap (year : Nat) : Bool := year % 4 == 0 && (year % 100 != 0 || year % 400 == 0)

def daysInMonth (leap : Bool) (month : Nat) : Nat :=
  if month == 2 && leap then 29
  else [0, 31, 28, 31, 30, 31, 30, 31, 31, 30, 31, 30, 31].getD month 0

def daysBeforeMonth (leap : Bool) (month : Nat) : Nat :=
  [0, 0, 31, 59, 90, 120, 151, 181, 212, 243, 273, 304, 334].getD month 0 +
    (if month > 2 && leap then 1 else 0)

def daysBeforeYear (year : Nat) : Nat :=
  (year - 1) * 365 + (year - 1) / 4 - (year - 1) / 100 + (year - 1) / 400

def ymdToOrdinal (year month day : Nat) : Nat :=
  daysBeforeYear year + daysBeforeMonth (isLeap year) month + day

/-- The month and the day of the month, from the days `n` passed since the year began. -/
def monthAndDay (leap : Bool) (n : Nat) : Nat × Nat :=
  let month := (n + 50) / 32
  if daysBeforeMonth leap month ≤ n then (month, n - daysBeforeMonth leap month + 1)
  else (month - 1, n - daysBeforeMonth leap (month - 1) + 1)

def ordinalToYmd (ordinal : Nat) : Nat × Nat × Nat :=
  let n := ordinal - 1
  let n400 := n / 146097
  let n100 := n % 146097 / 36524
  let n4 := n % 146097 % 36524 / 1461
  let n1 := n % 146097 % 36524 % 1461 / 365
  let rest := n % 146097 % 36524 % 1461 % 365
  let year := n400 * 400 + n100 * 100 + n4 * 4 + n1 + 1
  if n1 = 4 ∨ n100 = 4 then (year - 1, 12, 31)
  else (year, monthAndDay (n1 == 3 && (n4 != 24 || n100 == 3)) rest)

def ValidYmd (year month day : Nat) : Prop :=
  1 ≤ year ∧ 1 ≤ month ∧ month ≤ 12 ∧ 1 ≤ day ∧ day ≤ daysInMonth (isLeap year) month

instance (year month day : Nat) : Decidable (ValidYmd year month day) :=
  inferInstanceAs (Decidable
    (1 ≤ year ∧ 1 ≤ month ∧ month ≤ 12 ∧ 1 ≤ day ∧ day ≤ daysInMonth (isLeap year) month))

theorem daysInMonth_le (leap : Bool) {month : Nat} (hmonth : month ≤ 12) :
    daysInMonth leap month ≤ 31 := by
  have hall : ∀ leap : Bool, ∀ month : Fin 13, daysInMonth leap month ≤ 31 := by decide
  exact hall leap ⟨month, by omega⟩

theorem monthAndDay_spec (leap : Bool) (n : Nat) (hn : n < 365 + leap.toNat) :
    1 ≤ (monthAndDay leap n).1 ∧ (monthAndDay leap n).1 ≤ 12 ∧ 1 ≤ (monthAndDay leap n).2 ∧
      (monthAndDay leap n).2 ≤ daysInMonth leap (monthAndDay leap n).1 ∧
      daysBeforeMonth leap (monthAndDay leap n).1 + (monthAndDay leap n).2 = n + 1 := by
  have hall : ∀ leap : Bool, ∀ n : Fin (365 + leap.toNat),
      1 ≤ (monthAndDay leap n).1 ∧ (monthAndDay leap n).1 ≤ 12 ∧ 1 ≤ (monthAndDay leap n).2 ∧
        (monthAndDay leap n).2 ≤ daysInMonth leap (monthAndDay leap n).1 ∧
        daysBeforeMonth leap (monthAndDay leap n).1 + (monthAndDay leap n).2 = n + 1 := by
    decide +kernel
  exact hall leap ⟨n, hn⟩

/-- The leap rule, read off the position of a year in its 400-year cycle. -/
theorem isLeap_cycle {n400 n100 n4 n1 : Nat} (h100 : n100 < 4) (h4 : n4 ≤ 24) (h1 : n1 < 4) :
    isLeap (n400 * 400 + n100 * 100 + n4 * 4 + n1 + 1) = (n1 == 3 && (n4 != 24 || n100 == 3)) := by
  rw [Bool.eq_iff_iff]
  simp only [isLeap, Bool.and_eq_true, Bool.or_eq_true, beq_iff_eq, bne_iff_ne, ne_eq]
  omega

theorem daysBeforeYear_cycle {n400 n100 n4 n1 : Nat} (h100 : n100 < 4) (h4 : n4 ≤ 24)
    (h1 : n1 < 4) :
    daysBeforeYear (n400 * 400 + n100 * 100 + n4 * 4 + n1 + 1) =
      n400 * 146097 + n100 * 36524 + n4 * 1461 + n1 * 365 := by
  simp only [daysBeforeYear]
  omega

/-- The last day of a leap year, which the division finds one past the end of its cycle. -/
theorem lastDay_spec {n400 n100 n4 n1 : Nat} (h100 : n100 < 4) (h4 : n4 ≤ 24) (h1 : n1 = 3)
    (hleap : n4 ≠ 24 ∨ n100 = 3) :
    ValidYmd (n400 * 400 + n100 * 100 + n4 * 4 + n1 + 1) 12 31 ∧
      ymdToOrdinal (n400 * 400 + n100 * 100 + n4 * 4 + n1 + 1) 12 31 =
        n400 * 146097 + n100 * 36524 + n4 * 1461 + 1461 := by
  have hyear : isLeap (n400 * 400 + n100 * 100 + n4 * 4 + n1 + 1) = true := by
    rw [isLeap_cycle h100 h4 (by omega)]
    simpa [h1] using hleap
  have hdecember : daysBeforeMonth true 12 = 335 := by decide
  simp only [ValidYmd, ymdToOrdinal, hyear, daysBeforeYear_cycle h100 h4 (by omega : n1 < 4),
    hdecember]
  exact ⟨⟨by omega, by decide, by decide, by decide, by decide⟩, by omega⟩

/-- **Every day has one date.** Dividing a day number into a date and counting the days back is the
identity, and the date is a valid one. -/
theorem ordinalToYmd_spec {ordinal : Nat} (hordinal : 1 ≤ ordinal) :
    ValidYmd (ordinalToYmd ordinal).1 (ordinalToYmd ordinal).2.1 (ordinalToYmd ordinal).2.2 ∧
      ymdToOrdinal (ordinalToYmd ordinal).1 (ordinalToYmd ordinal).2.1 (ordinalToYmd ordinal).2.2 =
        ordinal := by
  obtain ⟨n, rfl⟩ : ∃ n, ordinal = n + 1 := ⟨ordinal - 1, by omega⟩
  obtain ⟨n400, hn400⟩ : ∃ a, a = n / 146097 := ⟨_, rfl⟩
  obtain ⟨n100, hn100⟩ : ∃ a, a = n % 146097 / 36524 := ⟨_, rfl⟩
  obtain ⟨n4, hn4⟩ : ∃ a, a = n % 146097 % 36524 / 1461 := ⟨_, rfl⟩
  obtain ⟨n1, hn1⟩ : ∃ a, a = n % 146097 % 36524 % 1461 / 365 := ⟨_, rfl⟩
  obtain ⟨rest, hrest⟩ : ∃ a, a = n % 146097 % 36524 % 1461 % 365 := ⟨_, rfl⟩
  have hdays : n = n400 * 146097 + n100 * 36524 + n4 * 1461 + n1 * 365 + rest := by omega
  have h4 : n4 ≤ 24 := by omega
  simp only [ordinalToYmd, Nat.add_sub_cancel, ← hn400, ← hn100, ← hn4, ← hn1, ← hrest]
  split
  · rename_i hlast
    rcases hlast with h1 | h100
    · have hlastday := @lastDay_spec n400 n100 n4 3 (by omega) h4 rfl (by omega)
      have hyear : n400 * 400 + n100 * 100 + n4 * 4 + n1 =
          n400 * 400 + n100 * 100 + n4 * 4 + 3 + 1 := by omega
      have hcount : n + 1 = n400 * 146097 + n100 * 36524 + n4 * 1461 + 1461 := by omega
      rw [hyear, hcount]
      exact hlastday
    · have hlastday := @lastDay_spec n400 3 24 3 (by omega) (by omega) rfl (by omega)
      have hyear :
          n400 * 400 + n100 * 100 + n4 * 4 + n1 = n400 * 400 + 3 * 100 + 24 * 4 + 3 + 1 := by omega
      have hcount : n + 1 = n400 * 146097 + 3 * 36524 + 24 * 1461 + 1461 := by omega
      rw [hyear, hcount]
      exact hlastday
  · rename_i hinside
    have h100 : n100 < 4 := by omega
    have h1 : n1 < 4 := by omega
    have hmonth := monthAndDay_spec (n1 == 3 && (n4 != 24 || n100 == 3)) rest (by omega)
    obtain ⟨hm1, hm12, hd1, hdle, hsum⟩ := hmonth
    simp only [ValidYmd, ymdToOrdinal, isLeap_cycle h100 h4 h1, daysBeforeYear_cycle h100 h4 h1]
    exact ⟨⟨by omega, hm1, hm12, hd1, hdle⟩, by omega⟩

/-! ### Later dates have greater numbers -/

/-- Both sides repeat every 400 years. -/
theorem daysBeforeYear_succ {year : Nat} (hyear : 1 ≤ year) :
    daysBeforeYear (year + 1) = daysBeforeYear year + 365 + (isLeap year).toNat := by
  have hcycle : ∀ n :
      Fin 400, daysBeforeYear (n + 2) = daysBeforeYear (n + 1) + 365 + (isLeap (n + 1)).toNat := by
    decide +kernel
  obtain ⟨cycles, n, hn, rfl⟩ : ∃ cycles n, n < 400 ∧ year = 400 * cycles + (n + 1) :=
    ⟨(year - 1) / 400, (year - 1) % 400, Nat.mod_lt _ (by decide), by omega⟩
  have hone : daysBeforeYear (n + 1 + 1) = daysBeforeYear (n + 1) + 365 + (isLeap (n + 1)).toNat :=
    hcycle ⟨n, hn⟩
  have hleap : isLeap (400 * cycles + (n + 1)) = isLeap (n + 1) := by
    rw [Bool.eq_iff_iff]
    simp only [isLeap, Bool.and_eq_true, Bool.or_eq_true, beq_iff_eq, bne_iff_ne, ne_eq]
    omega
  have hshift : ∀ k, 1 ≤ k →
      daysBeforeYear (400 * cycles + k) = 146097 * cycles + daysBeforeYear k := by
    intro k hk
    simp only [daysBeforeYear]
    omega
  rw [Nat.add_assoc, hshift (n + 1 + 1) (by omega), hshift (n + 1) (by omega), hleap]
  omega

theorem daysBeforeYear_mono {year year' : Nat} (hyear : 1 ≤ year) (h : year ≤ year') :
    daysBeforeYear year ≤ daysBeforeYear year' := by
  induction year', h using Nat.le_induction with
  | base => exact Nat.le_refl _
  | succ later hlater ih =>
      rw [daysBeforeYear_succ (Nat.le_trans hyear hlater)]
      omega

theorem daysBeforeMonth_add_le (leap : Bool) {month month' : Nat} (hmonth : 1 ≤ month)
    (hlt : month < month') (hmonth' : month' ≤ 12) :
    daysBeforeMonth leap month + daysInMonth leap month ≤ daysBeforeMonth leap month' := by
  have hall : ∀ leap : Bool, ∀ month month' : Fin 13, 1 ≤ month.val → month.val < month'.val →
      daysBeforeMonth leap month + daysInMonth leap month ≤ daysBeforeMonth leap month' := by decide
  exact hall leap ⟨month, by omega⟩ ⟨month', by omega⟩ hmonth hlt

theorem daysBeforeMonth_add_le_year (leap : Bool) {month : Nat} (hmonth : month ≤ 12) :
    daysBeforeMonth leap month + daysInMonth leap month ≤ 365 + leap.toNat := by
  have hall : ∀ leap : Bool, ∀ month : Fin 13,
      daysBeforeMonth leap month + daysInMonth leap month ≤ 365 + leap.toNat := by decide
  exact hall leap ⟨month, by omega⟩

theorem ymdToOrdinal_lt {year month day year' month' day' : Nat} (h : ValidYmd year month day)
    (h' : ValidYmd year' month' day')
    (hlt : year < year' ∨ year = year' ∧ (month < month' ∨ month = month' ∧ day < day')) :
    ymdToOrdinal year month day < ymdToOrdinal year' month' day' := by
  obtain ⟨hyear, hmonth, htwelve, -, hlast⟩ := h
  obtain ⟨-, -, htwelve', hday', -⟩ := h'
  rw [ymdToOrdinal, ymdToOrdinal]
  rcases hlt with hearlier | ⟨rfl, hearlier | ⟨rfl, hearlier⟩⟩
  · have hend := daysBeforeMonth_add_le_year (isLeap year) htwelve
    have hnext := daysBeforeYear_succ hyear
    have hyears : daysBeforeYear (year + 1) ≤ daysBeforeYear year' :=
      daysBeforeYear_mono (by omega) hearlier
    omega
  · have hend := daysBeforeMonth_add_le (isLeap year) hmonth hearlier htwelve'
    omega
  · omega

end Athena.Library.Calendar
