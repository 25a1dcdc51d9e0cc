import GigListings.Calendar.Instant
import GigListings.Calendar.Zone
import Mathlib.Tactic.IntervalCases

namespace GigListings

/-! Dates and day numbers determine each other. A year that begins in March is placed by the
centuries, the spans of four years and the single years before it in its era of 400. -/

/-- A day of an era, counted from the first of March of the era's first year. -/
structure EraDay (number : Int) where
  century : Int
  olympiad : Int
  year : Int
  day : Int
  century_bounds : 0 ≤ century ∧ century ≤ 3
  olympiad_bounds : 0 ≤ olympiad ∧ olympiad ≤ 24
  year_bounds : 0 ≤ year ∧ year ≤ 3
  day_bounds : 0 ≤ day ∧ day ≤ 365
  leap : day = 365 → year = 3 ∧ (olympiad ≠ 24 ∨ century = 3)
  number_eq : number = 36524 * century + 1461 * olympiad + 365 * year + day

namespace EraDay

def yearOfEra (parts : EraDay number) : Int :=
  100 * parts.century + 4 * parts.olympiad + parts.year

theorem yearOfEra_eq (parts : EraDay number) :
    (number - number / 1460 + number / 36524 - number / 146096) / 365 = parts.yearOfEra := by
  obtain ⟨c, q, r, d, hc, hq, hr, hd, leap, number_eq⟩ := parts
  simp only [yearOfEra]
  have fours : number / 1460 =
      25 * c + q + if 1460 ≤ 24 * c + q + 365 * r + d then 1 else 0 := by
    split <;> omega
  have centuries : number / 36524 - number / 146096 = c := by
    by_cases last : number = 146096
    · omega
    · have before : number < 36524 * (c + 1) := by omega
      omega
  rw [Int.add_sub_assoc, centuries, fours]
  split <;> omega

theorem dayOfYear_eq (parts : EraDay number) :
    number - (365 * parts.yearOfEra + parts.yearOfEra / 4 - parts.yearOfEra / 100) =
      parts.day := by
  obtain ⟨c, q, r, d, hc, hq, hr, hd, leap, number_eq⟩ := parts
  simp only [yearOfEra]
  omega

theorem number_bounds (parts : EraDay number) : 0 ≤ number ∧ number < 146097 := by
  obtain ⟨c, q, r, d, hc, hq, hr, hd, leap, number_eq⟩ := parts
  omega

def ofNumber (number : Int) (least : 0 ≤ number) (most : number < 146097) : EraDay number :=
  let century := min 3 (number / 36524)
  let inCentury := number - 36524 * century
  let olympiad := inCentury / 1461
  let inOlympiad := inCentury - 1461 * olympiad
  let year := min 3 (inOlympiad / 365)
  { century, olympiad, year
    day := inOlympiad - 365 * year
    century_bounds := by omega
    olympiad_bounds := by omega
    year_bounds := by omega
    day_bounds := by omega
    leap := by omega
    number_eq := by omega }

end EraDay

/-! Months counted from March. -/

def marchLength (month : Int) : Int :=
  if month = 1 ∨ month = 3 ∨ month = 6 ∨ month = 8 then 30 else if month = 11 then 29 else 31

def marchStart (month : Int) : Int := (153 * month + 2) / 5

theorem marchMonth_eq {month day : Int} (month_bounds : 0 ≤ month ∧ month ≤ 11)
    (day_bounds : 1 ≤ day ∧ day ≤ marchLength month) :
    (5 * (marchStart month + day - 1) + 2) / 153 = month := by
  obtain ⟨least, most⟩ := month_bounds
  simp only [marchLength, marchStart] at *
  interval_cases month <;> omega

theorem exists_marchMonth (day : Int) (least : 0 ≤ day) (most : day ≤ 365) :
    ∃ month number, 0 ≤ month ∧ month ≤ 11 ∧ 1 ≤ number ∧ number ≤ marchLength month ∧
      day = marchStart month + number - 1 := by
  refine ⟨(5 * day + 2) / 153, day - marchStart ((5 * day + 2) / 153) + 1, by omega, by omega,
    ?_, ?_, by omega⟩
  · simp only [marchStart]
    omega
  · simp only [marchLength, marchStart]
    have bounds : 0 ≤ (5 * day + 2) / 153 ∧ (5 * day + 2) / 153 ≤ 11 := by omega
    generalize equation : (5 * day + 2) / 153 = month at bounds ⊢
    obtain ⟨low, high⟩ := bounds
    interval_cases month <;> omega

namespace Date

def marchYear (year : Int) (month : Nat) : Int := if month ≤ 2 then year - 1 else year

def marchMonth (month : Nat) : Int := if month ≤ 2 then (month : Int) + 9 else (month : Int) - 3

theorem month_bounds {year : Int} {month day : Nat} (isDay : IsDay year month day) :
    1 ≤ month ∧ month ≤ 12 := by
  obtain ⟨least, most⟩ := isDay
  unfold daysInMonth at most
  split at most <;> omega

theorem isDay_iff {year : Int} {month day : Nat} (month_bounds : 1 ≤ month ∧ month ≤ 12) :
    IsDay year month day ↔
      1 ≤ (day : Int) ∧ (day : Int) ≤ marchLength (marchMonth month) ∧
        (marchMonth month = 11 → day = 29 → isLeapYear year) := by
  obtain ⟨low, high⟩ := month_bounds
  simp only [IsDay, marchLength, marchMonth]
  interval_cases month <;> simp [daysInMonth]
  -- February is left.
  by_cases leap : isLeapYear year = true
  · simp [leap]
  · simp [leap]
    omega

theorem dayNumberOf_eq (year : Int) (month day : Nat) :
    dayNumberOf year month day =
      marchYear year month / 400 * 146097 +
        (marchYear year month % 400 * 365 + marchYear year month % 400 / 4 -
          marchYear year month % 400 / 100 + (marchStart (marchMonth month) + day - 1)) - 719468 :=
  rfl

theorem isLeapYear_iff (year : Int) :
    isLeapYear year = true ↔ year % 4 = 0 ∧ (year % 100 ≠ 0 ∨ year % 400 = 0) := by
  simp [isLeapYear]

theorem marchMonth_bounds {month : Nat} (bounds : 1 ≤ month ∧ month ≤ 12) :
    0 ≤ marchMonth month ∧ marchMonth month ≤ 11 := by
  unfold marchMonth
  omega

def eraDay (date : Date) :
    EraDay (marchYear date.year date.month % 400 * 365 +
      marchYear date.year date.month % 400 / 4 - marchYear date.year date.month % 400 / 100 +
        (marchStart (marchMonth date.month) + date.day - 1)) :=
  let year := marchYear date.year date.month
  have bounds := month_bounds date.isDay
  have day_bounds := (isDay_iff bounds).mp date.isDay
  have month_eq := marchMonth_bounds bounds
  have most : marchStart (marchMonth date.month) + date.day - 1 ≤ 365 ∧
      (marchStart (marchMonth date.month) + date.day - 1 = 365 →
        marchMonth date.month = 11 ∧ date.day = 29) := by
    obtain ⟨least, most, -⟩ := day_bounds
    obtain ⟨low, high⟩ := month_eq
    generalize marchMonth date.month = month at *
    simp only [marchLength, marchStart] at *
    interval_cases month <;> simp at most ⊢ <;> omega
  { century := year % 400 / 100
    olympiad := year % 400 % 100 / 4
    year := year % 4
    day := marchStart (marchMonth date.month) + date.day - 1
    century_bounds := by omega
    olympiad_bounds := by omega
    year_bounds := by omega
    day_bounds := by
      simp only [marchStart] at most ⊢
      omega
    leap := by
      intro last
      obtain ⟨february, leapDay⟩ := most.2 last
      have leap := (isLeapYear_iff _).mp (day_bounds.2.2 february leapDay)
      simp only [year, marchYear]
      simp only [marchMonth] at february
      split <;> omega
    number_eq := by omega }

def ofMarch (year month day : Int) : Date :=
  let calendarMonth := if month < 10 then month + 3 else month - 9
  (ofYmd? (if calendarMonth ≤ 2 then year + 1 else year) calendarMonth.toNat day.toNat).getD epoch

theorem ofDayNumber_eraDay (era : Int) (parts : EraDay number) :
    ofDayNumber (era * 146097 + number - 719468) =
      ofMarch (era * 400 + parts.yearOfEra) ((5 * parts.day + 2) / 153)
        (parts.day - marchStart ((5 * parts.day + 2) / 153) + 1) := by
  have bounds := parts.number_bounds
  have era_eq : (era * 146097 + number - 719468 + 719468) / 146097 = era := by omega
  have inEra : (era * 146097 + number - 719468 + 719468) % 146097 = number := by omega
  simp only [ofDayNumber, era_eq, inEra, parts.yearOfEra_eq, parts.dayOfYear_eq]
  rfl

theorem ofMarch_march (date : Date) :
    ofMarch (marchYear date.year date.month) (marchMonth date.month) date.day = date := by
  have bounds := month_bounds date.isDay
  have month_eq : (if marchMonth date.month < 10 then marchMonth date.month + 3
      else marchMonth date.month - 9) = date.month := by
    unfold marchMonth
    split <;> split <;> omega
  have year_eq : (if (date.month : Int) ≤ 2 then marchYear date.year date.month + 1
      else marchYear date.year date.month) = date.year := by
    unfold marchYear
    split <;> split <;> omega
  simp only [ofMarch, month_eq, year_eq, Int.toNat_natCast, ofYmd?, date.isDay, dif_pos,
    Option.getD_some]

theorem ofDayNumber_dayNumber (date : Date) : ofDayNumber date.dayNumber = date := by
  have bounds := month_bounds date.isDay
  have day_bounds := (isDay_iff bounds).mp date.isDay
  have month_eq := marchMonth_eq (marchMonth_bounds bounds) ⟨day_bounds.1, day_bounds.2.1⟩
  have year_eq : date.eraDay.yearOfEra = marchYear date.year date.month % 400 := by
    simp only [eraDay, EraDay.yearOfEra]
    omega
  have day_eq : date.eraDay.day = marchStart (marchMonth date.month) + date.day - 1 := rfl
  have shifted : marchYear date.year date.month / 400 * 400 +
      marchYear date.year date.month % 400 = marchYear date.year date.month := by omega
  rw [dayNumber, dayNumberOf_eq, ofDayNumber_eraDay _ date.eraDay, year_eq, day_eq, month_eq,
    shifted]
  have day_eq : marchStart (marchMonth date.month) + date.day - 1 -
      marchStart (marchMonth date.month) + 1 = (date.day : Int) := by omega
  rw [day_eq]
  exact ofMarch_march date

theorem dayNumber_ofMarch {era year month day number : Int}
    (year_bounds : 0 ≤ year ∧ year < 400) (month_bounds : 0 ≤ month ∧ month ≤ 11)
    (day_bounds : 1 ≤ day ∧ day ≤ marchLength month)
    (leap : month = 11 → day = 29 → isLeapYear (year + 1)) 
    (number_eq : number = year * 365 + year / 4 - year / 100 + (marchStart month + day - 1)) :
    (ofMarch (era * 400 + year) month day).dayNumber = era * 146097 + number - 719468 := by
  have calendar : 1 ≤ (if month < 10 then month + 3 else month - 9).toNat ∧
      (if month < 10 then month + 3 else month - 9).toNat ≤ 12 := by omega
  have march : marchMonth (if month < 10 then month + 3 else month - 9).toNat = month := by
    unfold marchMonth
    omega
  have isDay : IsDay (if (if month < 10 then month + 3 else month - 9) ≤ 2
      then era * 400 + year + 1 else era * 400 + year)
      (if month < 10 then month + 3 else month - 9).toNat day.toNat := by
    rw [isDay_iff calendar, march]
    refine ⟨by omega, by omega, fun february leapDay => ?_⟩
    have leap := (isLeapYear_iff _).mp (leap february (by omega))
    rw [isLeapYear_iff]
    omega
  have march_year : marchYear (if (if month < 10 then month + 3 else month - 9) ≤ 2
      then era * 400 + year + 1 else era * 400 + year)
      (if month < 10 then month + 3 else month - 9).toNat = era * 400 + year := by
    unfold marchYear
    omega
  simp only [ofMarch, ofYmd?, isDay, dif_pos, Option.getD_some, dayNumber, dayNumberOf_eq, march,
    march_year]
  omega

theorem dayNumber_ofDayNumber (number : Int) : (ofDayNumber number).dayNumber = number := by
  let parts := EraDay.ofNumber ((number + 719468) % 146097) (by omega) (by omega)
  obtain ⟨month, day, low, high, least, most, day_eq⟩ :=
    exists_marchMonth parts.day parts.day_bounds.1 parts.day_bounds.2
  have month_eq := marchMonth_eq ⟨low, high⟩ ⟨least, most⟩
  have number_eq := parts.number_eq
  have century := parts.century_bounds
  have olympiad := parts.olympiad_bounds
  have year := parts.year_bounds
  have split : number = (number + 719468) / 146097 * 146097 +
      (number + 719468) % 146097 - 719468 := by omega
  have first : marchStart month + day - 1 - marchStart month + 1 = day := by omega
  rw [split, ofDayNumber_eraDay _ parts, day_eq, month_eq, first]
  apply dayNumber_ofMarch
  · simp only [EraDay.yearOfEra]
    omega
  · exact ⟨low, high⟩
  · exact ⟨least, most⟩
  · intro february leapDay
    have leap := parts.leap (by rw [day_eq, february, leapDay]; rfl)
    simp only [isLeapYear_iff, EraDay.yearOfEra]
    omega
  · have fours : parts.yearOfEra / 4 = 25 * parts.century + parts.olympiad := by
      simp only [EraDay.yearOfEra]
      omega
    have centuries : parts.yearOfEra / 100 = parts.century := by
      simp only [EraDay.yearOfEra]
      omega
    rw [fours, centuries]
    simp only [EraDay.yearOfEra]
    omega

end Date

/-! Clocks that are set by whole seconds. -/

namespace WallClock

theorem seconds_ofSeconds (seconds : Int) (nanos : Nat) (bound : nanos < 2 * nanosPerSecond) :
    (ofSeconds seconds nanos bound).seconds = seconds := by
  simp only [WallClock.seconds, ofSeconds, Date.dayNumber_ofDayNumber, secondsPerDay]
  omega

theorem ofSeconds_seconds (clock : WallClock) :
    ofSeconds clock.seconds clock.time.nanos clock.time.nanos_lt = clock := by
  obtain ⟨date, seconds, nanos, seconds_lt, nanos_lt⟩ := clock
  have day : (date.dayNumber * secondsPerDay + seconds) / secondsPerDay = date.dayNumber := by
    simp only [secondsPerDay] at *
    omega
  have rest : ((date.dayNumber * secondsPerDay + seconds) % secondsPerDay).toNat = seconds := by
    simp only [secondsPerDay] at *
    omega
  simp only [ofSeconds, WallClock.seconds, day, rest, Date.ofDayNumber_dayNumber]

theorem ext_seconds {a b : WallClock} (seconds : a.seconds = b.seconds)
    (nanos : a.time.nanos = b.time.nanos) : a = b := by
  rw [← ofSeconds_seconds a, ← ofSeconds_seconds b]
  simp only [seconds, nanos]

@[simp] theorem seconds_shift (clock : WallClock) (seconds : Int) :
    (clock.shift seconds).seconds = clock.seconds + seconds :=
  seconds_ofSeconds _ _ _

theorem shift_zero (clock : WallClock) : clock.shift 0 = clock := by
  apply ext_seconds
  · rw [seconds_shift, Int.add_zero]
  · rfl

end WallClock

end GigListings
