namespace GigListings

/-! Dates of the proleptic Gregorian calendar. The type knows no first or last year; the
years that a text may name are bounded where texts are read. -/

def isLeapYear (year : Int) : Bool := year % 4 = 0 && (year % 100 ≠ 0 || year % 400 = 0)

def daysInMonth (year : Int) (month : Nat) : Nat :=
  match month with
  | 1 | 3 | 5 | 7 | 8 | 10 | 12 => 31
  | 4 | 6 | 9 | 11 => 30
  | 2 => if isLeapYear year then 29 else 28
  | _ => 0

/-- A month outside 1 to 12 has no days. -/
def IsDay (year : Int) (month day : Nat) : Prop := 1 ≤ day ∧ day ≤ daysInMonth year month

instance : Decidable (IsDay year month day) := inferInstanceAs (Decidable (_ ∧ _))

structure Date where
  year : Int
  month : Nat
  day : Nat
  isDay : IsDay year month day
deriving DecidableEq

namespace Date

def epoch : Date := ⟨1970, 1, 1, by decide⟩

instance : Inhabited Date := ⟨epoch⟩

def ofYmd? (year : Int) (month day : Nat) : Option Date :=
  if h : IsDay year month day then some ⟨year, month, day, h⟩ else none

/-- The least and the greatest year that a text may name. -/
def firstYear : Int := -262143

def lastYear : Int := 262142

def InCalendar (date : Date) : Prop := firstYear ≤ date.year ∧ date.year ≤ lastYear

instance (date : Date) : Decidable date.InCalendar := inferInstanceAs (Decidable (_ ∧ _))

def named? (year : Int) (month day : Nat) : Option Date :=
  (ofYmd? year month day).filter fun date => decide date.InCalendar

/-! Days are counted from 1970-01-01. Years are taken to begin in March, so that the leap
day comes last. -/

def dayNumberOf (year : Int) (month day : Nat) : Int :=
  let shifted := if month ≤ 2 then year - 1 else year
  let monthIndex : Int := if month ≤ 2 then (month : Int) + 9 else (month : Int) - 3
  let yearOfEra := shifted % 400
  let dayOfYear := (153 * monthIndex + 2) / 5 + day - 1
  shifted / 400 * 146097 + (yearOfEra * 365 + yearOfEra / 4 - yearOfEra / 100 + dayOfYear) -
    719468

def dayNumber (date : Date) : Int := dayNumberOf date.year date.month date.day

def ofDayNumber (number : Int) : Date :=
  let shifted := number + 719468
  let dayOfEra := shifted % 146097
  let yearOfEra := (dayOfEra - dayOfEra / 1460 + dayOfEra / 36524 - dayOfEra / 146096) / 365
  let dayOfYear := dayOfEra - (365 * yearOfEra + yearOfEra / 4 - yearOfEra / 100)
  let monthIndex := (5 * dayOfYear + 2) / 153
  let day := dayOfYear - (153 * monthIndex + 2) / 5 + 1
  let month := if monthIndex < 10 then monthIndex + 3 else monthIndex - 9
  let year := shifted / 146097 * 400 + yearOfEra
  (ofYmd? (if month ≤ 2 then year + 1 else year) month.toNat day.toNat).getD epoch

def addDays (date : Date) (days : Int) : Date := ofDayNumber (date.dayNumber + days)

def next (date : Date) : Date := date.addDays 1

instance : LE Date := ⟨fun a b => a.dayNumber ≤ b.dayNumber⟩

instance : LT Date := ⟨fun a b => a.dayNumber < b.dayNumber⟩

instance (a b : Date) : Decidable (a ≤ b) :=
  inferInstanceAs (Decidable (a.dayNumber ≤ b.dayNumber))

instance (a b : Date) : Decidable (a < b) :=
  inferInstanceAs (Decidable (a.dayNumber < b.dayNumber))

end Date

/-- At least `width` decimal digits. -/
def padded (width n : Nat) : List Char :=
  let digits := Nat.toDigits 10 n
  List.replicate (width - digits.length) '0' ++ digits

/-- Four digits, or a sign and as many as are needed outside the years 0 to 9999. -/
def yearChars (year : Int) : List Char :=
  if 0 ≤ year ∧ year ≤ 9999 then padded 4 year.toNat
  else (if year < 0 then '-' else '+') :: padded 4 year.natAbs

namespace Date

def chars (date : Date) : List Char :=
  yearChars date.year ++ '-' :: padded 2 date.month ++ '-' :: padded 2 date.day

/-- The date as `2025-08-13`. -/
def text (date : Date) : String := String.ofList date.chars

end Date

end GigListings
