import Mathlib.Order.Basic
import Athena.Library.Calendar
import Athena.Library.Numeral
import Athena.Python.Exception

/-!
# `datetime.datetime`

A datetime is a civil date and time, and for an aware one the offset from UTC that its `tzinfo`
reports for it, in microseconds. Python keeps the year between 1 and 9999 and the offset strictly
below 24 hours; both are part of the type. `isoformat` writes the fraction of a second only when it
is not zero, and `fromisoformat` is modelled on the extended form that `isoformat` writes, with the
separator, the fraction and the offset as free as CPython has them.

What a stored timestamp needs is at the end of the module: moving an instant to UTC and writing it
as text loses nothing.
-/

namespace Athena

open Library Library.Calendar

def microsPerDay : Nat := 86400000000

structure Datetime where
  year : Nat
  month : Nat
  day : Nat
  hour : Nat
  minute : Nat
  second : Nat
  microsecond : Nat
  /-- Microseconds east of UTC; a naive datetime has none. -/
  utcoffset : Option Int
  validDate : ValidYmd year month day ∧ year ≤ 9999
  validTime : hour < 24 ∧ minute < 60 ∧ second < 60 ∧ microsecond < 1000000
  validOffset : ∀ offset ∈ utcoffset, -microsPerDay < offset ∧ offset < microsPerDay
  deriving DecidableEq

namespace Datetime

def timeOfDay (t : Datetime) : Nat :=
  ((t.hour * 60 + t.minute) * 60 + t.second) * 1000000 + t.microsecond

/-- The wall clock as microseconds, counted from day 0. -/
def wall (t : Datetime) : Nat := ymdToOrdinal t.year t.month t.day * microsPerDay + t.timeOfDay

/-- The moment an aware datetime denotes, on the same scale in UTC. -/
def instant (t : Datetime) : Option Int := t.utcoffset.map fun offset => (t.wall : Int) - offset

/-- The last day of year 9999. -/
def maxOrdinal : Nat := 3652059

theorem ordinalToYmd_year_le {ordinal : Nat} (hmax : ordinal ≤ maxOrdinal) :
    (ordinalToYmd ordinal).1 ≤ 9999 := by
  unfold maxOrdinal at hmax
  simp only [ordinalToYmd]
  split <;> simp only <;> omega

theorem timeOfDay_fields (n : Nat) (hn : n < microsPerDay) :
    n / 3600000000 < 24 ∧ n / 60000000 % 60 < 60 ∧ n / 1000000 % 60 < 60 ∧
      n % 1000000 < 1000000 := by
  unfold microsPerDay at hn
  omega

theorem validOffset_utc :
    ∀ offset ∈ some (0 : Int), -microsPerDay < offset ∧ offset < microsPerDay := by
  simp [microsPerDay]

/-- The UTC datetime with a given wall clock, when its year is between 1 and 9999. -/
def ofWallUtc (wall : Nat) : Option Datetime :=
  if h : 1 ≤ wall / microsPerDay ∧ wall / microsPerDay ≤ maxOrdinal then
    let date := ordinalToYmd (wall / microsPerDay)
    let time := wall % microsPerDay
    some {
      year := date.1, month := date.2.1, day := date.2.2
      hour := time / 3600000000, minute := time / 60000000 % 60
      second := time / 1000000 % 60, microsecond := time % 1000000
      utcoffset := some 0
      validDate := ⟨(ordinalToYmd_spec h.1).1, ordinalToYmd_year_le h.2⟩
      validTime := timeOfDay_fields _ (Nat.mod_lt _ (by decide))
      validOffset := validOffset_utc }
  else none

/-- `t.astimezone(UTC)` for a datetime whose offset is `offset`. -/
def astimezoneUtc (t : Datetime) (offset : Int) : Except PyException Datetime :=
  let wall := (t.wall : Int) - offset
  match ofWallUtc wall.toNat with
  | some utc => .ok utc
  | none => .error (.overflowError "date value out of range")

theorem ofWallUtc_spec {wall : Nat} {t : Datetime} (h : ofWallUtc wall = some t) :
    t.wall = wall ∧ t.utcoffset = some 0 := by
  unfold ofWallUtc at h
  split at h
  · rename_i hrange
    obtain rfl := Option.some.inj h
    refine ⟨?_, rfl⟩
    have hdate := (ordinalToYmd_spec hrange.1).2
    have hdays := Nat.div_add_mod' wall microsPerDay
    simp only [Datetime.wall, timeOfDay, hdate]
    omega
  · simp at h

theorem isSome_ofWallUtc (wall : Nat) :
    (ofWallUtc wall).isSome ↔ 1 ≤ wall / microsPerDay ∧ wall / microsPerDay ≤ maxOrdinal := by
  unfold ofWallUtc
  split <;> simp_all

/-- Moving an instant to UTC keeps it, and fails only outside the years 1 to 9999. -/
theorem astimezoneUtc_ok {t utc : Datetime} {offset : Int} (hoffset : t.utcoffset = some offset)
    (h : t.astimezoneUtc offset = .ok utc) : utc.utcoffset = some 0 ∧ utc.instant = t.instant := by
  unfold astimezoneUtc at h
  cases hutc : ofWallUtc ((t.wall : Int) - offset).toNat with
  | none => simp [hutc] at h
  | some t' =>
      obtain rfl : t' = utc := by simpa [hutc] using h
      obtain ⟨hwall, hzero⟩ := ofWallUtc_spec hutc
      refine ⟨hzero, ?_⟩
      have hpos : 0 < t'.wall := by
        have hday := t'.validDate.1.2.2.2.1
        simp only [wall, ymdToOrdinal, microsPerDay]
        omega
      have hmoved : (t'.wall : Int) - 0 = (t.wall : Int) - offset := by omega
      rw [instant, instant, hzero, hoffset, Option.map_some, Option.map_some, hmoved]

/-- The instants that have a year between 1 and 9999 in UTC. -/
def UtcRepresentable (t : Datetime) : Prop :=
  ∃ i, t.instant = some i ∧ microsPerDay ≤ i ∧ i < (maxOrdinal + 1) * microsPerDay

theorem exists_astimezoneUtc_iff {t : Datetime} {offset : Int}
    (hoffset : t.utcoffset = some offset) :
    (∃ utc, t.astimezoneUtc offset = .ok utc) ↔ t.UtcRepresentable := by
  have hinstant : t.instant = some ((t.wall : Int) - offset) := by
    rw [instant, hoffset, Option.map_some]
  have hrange : (ofWallUtc ((t.wall : Int) - offset).toNat).isSome ↔ t.UtcRepresentable := by
    simp only [isSome_ofWallUtc, UtcRepresentable, hinstant, Option.some.injEq, exists_eq_left',
      microsPerDay, maxOrdinal]
    omega
  rw [← hrange, astimezoneUtc]
  cases ofWallUtc ((t.wall : Int) - offset).toNat <;> simp

/-! ### Text -/

def isoFraction (microsecond : Nat) : List Char :=
  if microsecond = 0 then [] else '.' :: numeral 10 6 microsecond

def isoOffset : Option Int → List Char
  | none => []
  | some offset =>
      let micros := offset.natAbs
      let seconds := micros / 1000000 % 60
      (if offset < 0 then '-' else '+') :: numeral 10 2 (micros / 3600000000) ++
        ':' :: numeral 10 2 (micros / 60000000 % 60) ++
        (if micros % 60000000 = 0 then []
          else ':' :: numeral 10 2 seconds ++ isoFraction (micros % 1000000))

def isoformat (t : Datetime) : String :=
  String.ofList
    (numeral 10 4 t.year ++ '-' :: (numeral 10 2 t.month ++ '-' :: (numeral 10 2 t.day ++
    'T' :: (numeral 10 2 t.hour ++ ':' :: (numeral 10 2 t.minute ++ ':' :: (numeral 10 2 t.second ++
      (isoFraction t.microsecond ++ isoOffset t.utcoffset)))))))

def readField (width : Nat) (text : List Char) : Option (Nat × List Char) :=
  if text.length < width then none
  else (readNumeral 10 (text.take width)).map fun n => (n, text.drop width)

def readLiteral (expected : Char) : List Char → Option (List Char)
  | [] => none
  | c :: rest => if c = expected then some rest else none

/-- The digits after a point or comma: the first six count, padded to microseconds. -/
def readFraction : List Char → Option (Nat × List Char)
  | [] => some (0, [])
  | c :: rest =>
      if c = '.' ∨ c = ',' then
        let digits := rest.takeWhile Char.isDigit
        if digits = [] then none
        else (readNumeral 10 ((digits ++ List.replicate 6 '0').take 6)).map fun n =>
          (n, rest.dropWhile Char.isDigit)
      else some (0, c :: rest)

def readOffset : List Char → Option (Option Int)
  | [] => some none
  | ['Z'] => some (some 0)
  | sign :: rest => do
      let (hours, rest) ← readField 2 rest
      let rest ← readLiteral ':' rest
      let (minutes, rest) ← readField 2 rest
      let (seconds, rest) ←
        match readLiteral ':' rest with
        | some rest => readField 2 rest
        | none => some (0, rest)
      let (micros, rest) ← readFraction rest
      let offset : Int := (((hours * 60 + minutes) * 60 + seconds) * 1000000 + micros : Nat)
      match rest, sign with
      | [], '+' => some (some offset)
      | [], '-' => some (some (-offset))
      | _, _ => none

def readIso (text : List Char) : Option Datetime := do
  let (year, text) ← readField 4 text
  let text ← readLiteral '-' text
  let (month, text) ← readField 2 text
  let text ← readLiteral '-' text
  let (day, text) ← readField 2 text
  let (hour, text) ← readField 2 (text.drop 1)
  let text ← readLiteral ':' text
  let (minute, text) ← readField 2 text
  let text ← readLiteral ':' text
  let (second, text) ← readField 2 text
  let (microsecond, text) ← readFraction text
  let utcoffset ← readOffset text
  if h : (ValidYmd year month day ∧ year ≤ 9999) ∧
      (hour < 24 ∧ minute < 60 ∧ second < 60 ∧ microsecond < 1000000) ∧
      ∀ offset ∈ utcoffset, -microsPerDay < offset ∧ offset < microsPerDay then
    some ⟨year, month, day, hour, minute, second, microsecond, utcoffset, h.1, h.2.1, h.2.2⟩
  else none

/-- `datetime.fromisoformat(text)`. -/
def fromisoformat (text : String) : Except PyException Datetime :=
  match readIso text.toList with
  | some t => .ok t
  | none => .error (.valueError ("Invalid isoformat string: '" ++ text ++ "'"))

/-! ### Reading back what was written -/

theorem readField_numeral {width n : Nat} (hn : n < 10 ^ width) (rest : List Char) :
    readField width (numeral 10 width n ++ rest) = some (n, rest) := by
  have hlength := numeral_length 10 width n
  have htake : (numeral 10 width n ++ rest).take width = numeral 10 width n := by
    rw [List.take_append_of_le_length hlength.ge, List.take_of_length_le hlength.le]
  have hdrop : (numeral 10 width n ++ rest).drop width = rest := by
    rw [List.drop_append_of_le_length hlength.ge, List.drop_of_length_le hlength.le,
      List.nil_append]
  rw [readField, if_neg (by simp [hlength]), htake, hdrop, readNumeral_numeral (by decide) hn]
  rfl

@[simp] theorem readLiteral_cons (c : Char) (rest : List Char) :
    readLiteral c (c :: rest) = some rest :=
  if_pos rfl

theorem isDigit_of_mem_numeral {width n : Nat} {c : Char} (hc : c ∈ numeral 10 width n) :
    c.isDigit = true := by
  obtain ⟨d, hd, rfl⟩ := exists_digit_of_mem_numeral (by decide) hc
  have hall : ∀ d : Fin 10, (Nat.digitChar d).isDigit = true := by decide
  exact hall ⟨d, hd⟩

theorem readFraction_isoFraction {microsecond : Nat} (hmicro : microsecond < 1000000) {c : Char}
    (hpoint : c ≠ '.' ∧ c ≠ ',') (hdigit : c.isDigit = false) (rest : List Char) :
    readFraction (isoFraction microsecond ++ c :: rest) = some (microsecond, c :: rest) := by
  by_cases hzero : microsecond = 0
  · rw [isoFraction, if_pos hzero, List.nil_append, readFraction, if_neg (by simpa using hpoint),
      hzero]
  · have hdigits : ∀ d ∈ numeral 10 6 microsecond, d.isDigit = true :=
      fun d => isDigit_of_mem_numeral
    have hlength := numeral_length 10 6 microsecond
    have htakeWhile : (numeral 10 6 microsecond ++ c :: rest).takeWhile Char.isDigit =
        numeral 10 6 microsecond := by
      rw [List.takeWhile_append_of_pos hdigits]
      simp [hdigit]
    have hdropWhile :
        (numeral 10 6 microsecond ++ c :: rest).dropWhile Char.isDigit = c :: rest := by
      rw [List.dropWhile_append_of_pos hdigits]
      simp [hdigit]
    have hne : numeral 10 6 microsecond ≠ [] := by
      intro hnil
      simp [hnil] at hlength
    rw [isoFraction, if_neg hzero, List.cons_append, readFraction, if_pos (.inl rfl)]
    simp only [htakeWhile, hdropWhile, if_neg hne]
    rw [List.take_append_of_le_length hlength.ge, List.take_of_length_le hlength.le,
      readNumeral_numeral (by decide) hmicro]
    rfl

/-- A UTC datetime survives being written and read. -/
theorem fromisoformat_isoformat {t : Datetime} (hutc : t.utcoffset = some 0) :
    fromisoformat t.isoformat = .ok t := by
  obtain ⟨year, month, day, hour, minute, second, microsecond, utcoffset, hdate, htime, hoffset⟩ :=
    t
  obtain rfl : utcoffset = some 0 := hutc
  have hday := daysInMonth_le (isLeap year) hdate.1.2.2.1
  have hyear : year < 10 ^ 4 := by omega
  have hmonth : month < 10 ^ 2 := by have := hdate.1; unfold ValidYmd at this; omega
  have hday : day < 10 ^ 2 := by have := hdate.1; unfold ValidYmd at this; omega
  have hread :
      readIso (isoformat ⟨year, month, day, hour, minute, second, microsecond, some 0, hdate, htime,
      hoffset⟩).toList = some ⟨year, month, day, hour, minute, second, microsecond, some 0, hdate,
        htime, hoffset⟩ := by
    rw [isoformat, String.toList_ofList, readIso]
    refine Option.bind_eq_some_iff.mpr ⟨_, readField_numeral hyear _, ?_⟩
    refine Option.bind_eq_some_iff.mpr ⟨_, readLiteral_cons _ _, ?_⟩
    refine Option.bind_eq_some_iff.mpr ⟨_, readField_numeral hmonth _, ?_⟩
    refine Option.bind_eq_some_iff.mpr ⟨_, readLiteral_cons _ _, ?_⟩
    refine Option.bind_eq_some_iff.mpr ⟨_, readField_numeral hday _, ?_⟩
    -- Any character may stand between the date and the time.
    refine Option.bind_eq_some_iff.mpr ⟨_, readField_numeral (show hour < 10 ^ 2 by omega) _, ?_⟩
    refine Option.bind_eq_some_iff.mpr ⟨_, readLiteral_cons _ _, ?_⟩
    refine Option.bind_eq_some_iff.mpr ⟨_, readField_numeral (show minute < 10 ^ 2 by omega) _, ?_⟩
    refine Option.bind_eq_some_iff.mpr ⟨_, readLiteral_cons _ _, ?_⟩
    refine Option.bind_eq_some_iff.mpr ⟨_, readField_numeral (show second < 10 ^ 2 by omega) _, ?_⟩
    have hzone : isoOffset (some 0) = '+' :: ['0', '0', ':', '0', '0'] := by decide
    rw [hzone]
    refine Option.bind_eq_some_iff.mpr ⟨_,
      readFraction_isoFraction htime.2.2.2 (by decide) (by decide) _, ?_⟩
    have hzero : readOffset ('+' :: ['0', '0', ':', '0', '0']) = some (some 0) := by decide
    refine Option.bind_eq_some_iff.mpr ⟨_, hzero, ?_⟩
    exact dif_pos ⟨hdate, htime, hoffset⟩
  rw [fromisoformat, hread]

/-! ### The order of the texts -/

theorem timeOfDay_lt_microsPerDay (t : Datetime) : t.timeOfDay < microsPerDay := by
  have htime := t.validTime
  rw [timeOfDay, microsPerDay]
  omega

/-- The fields of `s` come before those of `t`. -/
def Earlier (s t : Datetime) : Prop :=
  s.year < t.year ∨
    s.year = t.year ∧ (s.month < t.month ∨ s.month = t.month ∧ (s.day < t.day ∨ s.day = t.day ∧
    (s.hour < t.hour ∨ s.hour = t.hour ∧ (s.minute < t.minute ∨ s.minute = t.minute ∧
      (s.second < t.second ∨ s.second = t.second ∧ s.microsecond < t.microsecond)))))

theorem Earlier.wall_lt {s t : Datetime} (h : s.Earlier t) : s.wall < t.wall := by
  have hs := s.timeOfDay_lt_microsPerDay
  by_cases hdate : s.year = t.year ∧ s.month = t.month ∧ s.day = t.day
  · obtain ⟨hyear, hmonth, hday⟩ := hdate
    have htime : s.timeOfDay < t.timeOfDay := by
      have htimeS := s.validTime
      have htimeT := t.validTime
      simp only [Earlier] at h
      simp only [timeOfDay]
      omega
    rw [wall, wall, hyear, hmonth, hday]
    exact Nat.add_lt_add_left htime _
  · have hordinal : ymdToOrdinal s.year s.month s.day < ymdToOrdinal t.year t.month t.day := by
      apply ymdToOrdinal_lt s.validDate.1 t.validDate.1
      simp only [Earlier] at h
      omega
    simp only [wall, microsPerDay] at hs ⊢
    omega

theorem wall_lt_iff (s t : Datetime) : s.wall < t.wall ↔ s.Earlier t := by
  refine ⟨fun hlt => ?_, Earlier.wall_lt⟩
  by_cases hearlier : s.Earlier t
  · exact hearlier
  · by_cases hlater : t.Earlier s
    · exact absurd hlater.wall_lt (Nat.not_lt_of_lt hlt)
    · have hsame : s.wall = t.wall := by
        simp only [Earlier] at hearlier hlater
        have hfields : s.year = t.year ∧ s.month = t.month ∧ s.day = t.day ∧
            s.timeOfDay = t.timeOfDay := by
          simp only [timeOfDay]
          omega
        rw [wall, wall, hfields.1, hfields.2.1, hfields.2.2.1, hfields.2.2.2]
      omega

theorem eq_of_wall {s t : Datetime} (hoffset : s.utcoffset = t.utcoffset)
    (hwall : s.wall = t.wall) : s = t := by
  have hnot : ¬s.Earlier t := fun h => absurd h.wall_lt (by omega)
  have hnot' : ¬t.Earlier s := fun h => absurd h.wall_lt (by omega)
  simp only [Earlier] at hnot hnot'
  obtain ⟨year, month, day, hour, minute, second, microsecond, offset⟩ := s
  obtain ⟨year', month', day', hour', minute', second', microsecond', offset'⟩ := t
  simp only [Datetime.mk.injEq]
  simp only at hoffset hnot hnot'
  refine ⟨?_, ?_, ?_, ?_, ?_, ?_, ?_, hoffset⟩ <;> omega

/-- A moment has one datetime in UTC. -/
theorem eq_of_instant {s t : Datetime} (hs : s.utcoffset = some 0) (ht : t.utcoffset = some 0)
    (hinstant : s.instant = t.instant) : s = t := by
  apply eq_of_wall (hs.trans ht.symm)
  rw [instant, instant, hs, ht, Option.map_some, Option.map_some, Option.some.injEq] at hinstant
  omega

theorem isoFraction_lt_iff {m n : Nat} (hm : m < 1000000) (hn : n < 1000000) (rest : List Char) :
    isoFraction m ++ '+' :: rest < isoFraction n ++ '+' :: rest ↔ m < n := by
  rw [isoFraction, isoFraction]
  split
  · rename_i hzero
    split
    · rename_i hzero'
      rw [hzero, hzero']
      simp only [List.lt_irrefl, Nat.lt_irrefl]
    · -- The plus sign comes before the point.
      rename_i hpos
      rw [List.nil_append, List.cons_append, List.cons_lt_cons_iff]
      refine iff_of_true (.inl (by decide)) (by omega)
  · split
    · rename_i hpos hzero
      rw [List.nil_append, List.cons_append, List.cons_lt_cons_iff]
      refine iff_of_false ?_ (by omega)
      rintro (hlt | ⟨heq, -⟩)
      · exact absurd hlt (by decide)
      · exact absurd heq (by decide)
    · rw [List.cons_append, List.cons_append, List.cons_lt_cons_self,
        numeral_append_lt_iff (by decide) hm hn]
      simp only [List.lt_irrefl, and_false, or_false]

/-- The texts of UTC datetimes are ordered as the datetimes are, with or without a fraction. -/
theorem isoformat_lt_iff {s t : Datetime} (hs : s.utcoffset = some 0) (ht : t.utcoffset = some 0) :
    s.isoformat < t.isoformat ↔ s.wall < t.wall := by
  have hzone : isoOffset (some 0) = '+' :: ['0', '0', ':', '0', '0'] := by decide
  have hsDay := daysInMonth_le (isLeap s.year) s.validDate.1.2.2.1
  have htDay := daysInMonth_le (isLeap t.year) t.validDate.1.2.2.1
  obtain ⟨⟨-, -, hsMonth, -, hsLast⟩, hsYear⟩ := s.validDate
  obtain ⟨⟨-, -, htMonth, -, htLast⟩, htYear⟩ := t.validDate
  obtain ⟨hsHour, hsMinute, hsSecond, hsMicro⟩ := s.validTime
  obtain ⟨htHour, htMinute, htSecond, htMicro⟩ := t.validTime
  rw [wall_lt_iff, Earlier, String.lt_iff_toList_lt, isoformat, isoformat, String.toList_ofList,
    String.toList_ofList, hs, ht, hzone,
    numeral_append_lt_iff (by decide) (by omega) (by omega), List.cons_lt_cons_self,
    numeral_append_lt_iff (by decide) (by omega) (by omega), List.cons_lt_cons_self,
    numeral_append_lt_iff (by decide) (by omega) (by omega), List.cons_lt_cons_self,
    numeral_append_lt_iff (by decide) (by omega) (by omega), List.cons_lt_cons_self,
    numeral_append_lt_iff (by decide) (by omega) (by omega), List.cons_lt_cons_self,
    numeral_append_lt_iff (by decide) (by omega) (by omega), isoFraction_lt_iff hsMicro htMicro]

end Datetime

end Athena
