import GigListings.Calendar.Date

namespace GigListings

/-! Times of day to the nanosecond. A leap second is the last second of its minute with
more than a second's worth of nanoseconds. -/

def secondsPerDay : Nat := 86400

def nanosPerSecond : Nat := 1000000000

structure TimeOfDay where
  seconds : Nat
  nanos : Nat
  seconds_lt : seconds < secondsPerDay
  nanos_lt : nanos < 2 * nanosPerSecond
deriving DecidableEq

namespace TimeOfDay

def noon : TimeOfDay := ⟨43200, 0, by decide, by decide⟩

instance : Inhabited TimeOfDay := ⟨noon⟩

def ofSeconds? (seconds nanos : Nat) : Option TimeOfDay :=
  if h : seconds < secondsPerDay ∧ nanos < 2 * nanosPerSecond then
    some ⟨seconds, nanos, h.1, h.2⟩
  else none

/-- A time whose second may be 60, the leap second. -/
def ofClock? (hour minute second nanos : Nat) : Option TimeOfDay :=
  if hour < 24 ∧ minute < 60 then
    if second < 60 then ofSeconds? (hour * 3600 + minute * 60 + second) nanos
    else if second = 60 then
      ofSeconds? (hour * 3600 + minute * 60 + 59) (nanos + nanosPerSecond)
    else none
  else none

def ofHourMinute? (hour minute : Nat) : Option TimeOfDay := ofClock? hour minute 0 0

def hour (time : TimeOfDay) : Nat := time.seconds / 3600

def minute (time : TimeOfDay) : Nat := time.seconds / 60 % 60

/-- The second as it is written, 60 in a leap second. -/
def second (time : TimeOfDay) : Nat :=
  time.seconds % 60 + time.nanos / nanosPerSecond

def hourMinuteChars (time : TimeOfDay) : List Char :=
  padded 2 time.hour ++ ':' :: padded 2 time.minute

def chars (time : TimeOfDay) : List Char :=
  time.hourMinuteChars ++ ':' :: padded 2 time.second

/-- The time as `19:30`. -/
def hourMinute (time : TimeOfDay) : String := String.ofList time.hourMinuteChars

/-- The fraction in as few groups of three digits as it needs. -/
def fractionChars (time : TimeOfDay) : List Char :=
  let fraction := time.nanos % nanosPerSecond
  if fraction = 0 then []
  else if fraction % 1000000 = 0 then '.' :: padded 3 (fraction / 1000000)
  else if fraction % 1000 = 0 then '.' :: padded 6 (fraction / 1000)
  else '.' :: padded 9 fraction

/-- The time as `19:30:00`, with its fraction if there is one. -/
def text (time : TimeOfDay) : String := String.ofList (time.chars ++ time.fractionChars)

end TimeOfDay

end GigListings
