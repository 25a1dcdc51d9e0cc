import GigListings.Calendar.TimeOfDay

namespace GigListings

/-! Wall clocks and instants. Both count seconds from the start of 1970: a wall clock in its
own place, an instant in universal time. -/

structure WallClock where
  date : Date
  time : TimeOfDay
deriving DecidableEq, Inhabited

namespace WallClock

def seconds (clock : WallClock) : Int :=
  clock.date.dayNumber * secondsPerDay + clock.time.seconds

def ofSeconds (seconds : Int) (nanos : Nat) (h : nanos < 2 * nanosPerSecond) : WallClock where
  date := Date.ofDayNumber (seconds / secondsPerDay)
  time := ⟨(seconds % secondsPerDay).toNat, nanos, by simp only [secondsPerDay]; omega, h⟩

/-- A leap second keeps its place when the clock is set by whole minutes. -/
def shift (clock : WallClock) (seconds : Int) : WallClock :=
  ofSeconds (clock.seconds + seconds) clock.time.nanos clock.time.nanos_lt

/-- An hour later; a leap second counts as the second before it. -/
def hourLater (clock : WallClock) : WallClock :=
  ofSeconds (clock.seconds + 3600) (clock.time.nanos % nanosPerSecond)
    (by have := Nat.mod_lt clock.time.nanos (show 0 < nanosPerSecond by decide); omega)

end WallClock

structure Instant where
  utc : WallClock
deriving DecidableEq, Inhabited

namespace Instant

def seconds (instant : Instant) : Int := instant.utc.seconds

def ofMillis (millis : Int) : Instant :=
  ⟨WallClock.ofSeconds (millis / 1000) ((millis % 1000).toNat * 1000000)
    (by simp only [nanosPerSecond]; omega)⟩

def millisChars (instant : Instant) : List Char :=
  padded 3 (instant.utc.time.nanos % nanosPerSecond / 1000000)

def isoChars (instant : Instant) : List Char :=
  instant.utc.date.chars ++ 'T' :: instant.utc.time.chars ++ '.' :: instant.millisChars ++ ['Z']

/-- The timestamp as `2025-08-13T12:00:00.000Z`. -/
def iso (instant : Instant) : String := String.ofList instant.isoChars

end Instant

/-! Spans of time in milliseconds, and moments in names of files. -/

/-- Whole seconds and what is left of a second, without needless zeros. -/
def secondsText (millis : Nat) : String :=
  let fraction := ((padded 3 (millis % 1000)).reverse.dropWhile (· == '0')).reverse
  let whole := toString (millis / 1000)
  (if fraction.isEmpty then whole else whole ++ "." ++ String.ofList fraction) ++ "s"

/-- Spans from a second on are given in seconds, shorter ones in milliseconds. -/
def millisText (millis : Nat) : String :=
  if millis = 0 then "0ns"
  else if millis < 1000 then toString millis ++ "ms"
  else secondsText millis

namespace Instant

/-- The moment as `20250813_201502`. -/
def secondStamp (instant : Instant) : String :=
  let date := instant.utc.date
  let time := instant.utc.time
  String.ofList (yearChars date.year ++ padded 2 date.month ++ padded 2 date.day ++ '_' ::
    padded 2 time.hour ++ padded 2 time.minute ++ padded 2 time.second)

/-- The moment as `20250813_201502_117`. -/
def milliStamp (instant : Instant) : String :=
  instant.secondStamp ++ "_" ++ String.ofList instant.millisChars

end Instant

end GigListings
