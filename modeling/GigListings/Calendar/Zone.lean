import GigListings.Calendar.Instant
import GigListings.Calendar.Reckoning
import GigListings.Calendar.ZoneTable
import GigListings.Calendar.ZoneAliases
import GigListings.Text.Ranges

namespace GigListings

/-! A time zone is the offset it begins with and its later changes in order, each with the
instant from which the new offset, in seconds east of universal time, holds. -/

structure ZoneChange where
  since : Int
  offset : Int
deriving DecidableEq, Inhabited

structure Zone where
  initial : Int
  changes : List ZoneChange
deriving DecidableEq, Inhabited

namespace Zone

def universal : Zone := ⟨0, []⟩

/-- The offset that holds `seconds` after the start of 1970, begun with `offset`. -/
def offsetAfter (offset : Int) (seconds : Int) : List ZoneChange → Int
  | [] => offset
  | change :: changes =>
      if seconds < change.since then offset else offsetAfter change.offset seconds changes

def offsetAt (zone : Zone) (instant : Instant) : Int :=
  offsetAfter zone.initial instant.seconds zone.changes

def wallClock (zone : Zone) (instant : Instant) : WallClock :=
  instant.utc.shift (zone.offsetAt instant)

/-- The first offset under which the local second `seconds` occurs; the span under
consideration began at `start`. -/
def localOffset? (seconds : Int) (start : Option Int) (offset : Int) :
    List ZoneChange → Option Int
  | [] =>
      if start.all (fun start => start + offset ≤ seconds) then some offset else none
  | change :: changes =>
      if start.all (fun start => start + offset ≤ seconds) && seconds < change.since + offset then
        some offset
      else localOffset? seconds (some change.since) change.offset changes

/-- The earliest instant at which a clock in the zone shows `clock`. -/
def earliest? (zone : Zone) (clock : WallClock) : Option Instant :=
  (localOffset? clock.seconds none zone.initial zone.changes).map fun offset =>
    ⟨clock.shift (-offset)⟩

section Reckoning

variable (m : Type → Type) [Monad m] [Reckoning m]

/-- The earliest instant of a wall clock, if universal time has it as well. -/
def earliestIn? (zone : Zone) (clock : WallClock) : Option Instant :=
  (zone.earliest? clock).filter fun instant => Reckoning.reaches m instant.utc.date

/-- The earliest instant of a wall clock. One that the zone skips is put an hour later, and
read as universal time if that is skipped as well. -/
def instantIn (zone : Zone) (clock : WallClock) : m Instant :=
  match zone.earliestIn? m clock with
  | some instant => pure instant
  | none => do
      let later ← Reckoning.on clock.hourLater.date clock.hourLater
      return (zone.earliestIn? m later).getD ⟨clock⟩

end Reckoning

def instant (zone : Zone) (clock : WallClock) : Instant := zone.instantIn Id clock

theorem instant_eq (zone : Zone) (clock : WallClock) :
    zone.instant clock =
      match zone.earliest? clock with
      | some instant => instant
      | none => (zone.earliest? clock.hourLater).getD ⟨clock⟩ := by
  have endless (clock : WallClock) : zone.earliestIn? Id clock = zone.earliest? clock := by
    unfold earliestIn?
    cases zone.earliest? clock <;> rfl
  rw [instant, instantIn, endless]
  cases zone.earliest? clock with
  | some instant => rfl
  | none => exact congrArg (Option.getD · ⟨clock⟩) (endless clock.hourLater)

def earliestInCalendar? (zone : Zone) (clock : WallClock) : Option Instant :=
  zone.earliestIn? (Except CalendarFault) clock

theorem earliestInCalendar?_eq (zone : Zone) (clock : WallClock) :
    zone.earliestInCalendar? clock =
      (zone.earliest? clock).filter fun instant => decide instant.utc.date.InCalendar := rfl

def checkedInstant (zone : Zone) (clock : WallClock) : Except CalendarFault Instant :=
  zone.instantIn (Except CalendarFault) clock

theorem checkedInstant_eq (zone : Zone) (clock : WallClock) :
    zone.checkedInstant clock =
      match zone.earliestInCalendar? clock with
      | some instant => .ok instant
      | none => do
          let later ← checkedOn clock.hourLater.date clock.hourLater
          return (zone.earliestInCalendar? later).getD ⟨clock⟩ := rfl

/-! Reading the zone table. -/

structure YearlyChange where
  month : Nat
  week : Nat
  weekday : Nat
  second : Int
  offset : Int

/-- The day of the month's `week`-th weekday, the last one if there are fewer. -/
def YearlyChange.day (change : YearlyChange) (year : Int) : Int :=
  let first := Date.dayNumberOf year change.month 1
  let leading := (change.weekday - (first + 4)) % 7
  let day := first + leading + 7 * (change.week - 1)
  if day < first + daysInMonth year change.month then day else day - 7

def YearlyChange.inYear (change : YearlyChange) (year : Int) : ZoneChange :=
  ⟨change.day year * secondsPerDay + change.second, change.offset⟩

/-- The last year for which recurring changes are laid down. -/
def lastRuleYear : Nat := 2099

def readChanges (offsets : List Int) (last : Int) : List (List Char) → List ZoneChange
  | [] => []
  | token :: tokens =>
      let letter := token.getLastD 'A'
      let time := last + Text.hexInt token.dropLast
      ⟨time, offsets.getD (letter.toNat - 'A'.toNat) 0⟩ :: readChanges offsets time tokens

def readRule : List (List Char) → List ZoneChange
  | [year, m, w, d, s, o, m', w', d', s', o'] =>
      let first := Text.hexValue year
      let one : YearlyChange :=
        ⟨Text.hexValue m, Text.hexValue w, Text.hexValue d, Text.hexInt s, Text.hexInt o⟩
      let two : YearlyChange :=
        ⟨Text.hexValue m', Text.hexValue w', Text.hexValue d', Text.hexInt s', Text.hexInt o'⟩
      (List.range (lastRuleYear + 1 - first)).flatMap fun years =>
        [one.inYear (first + years : Nat), two.inYear (first + years : Nat)]
  | _ => []

def ofEntry (entry : String) : Zone :=
  let tokens := Text.tableTokens entry
  match tokens with
  | [] => universal
  | offsets :: tokens =>
      let offsets := (Text.splitOn (· == ',') offsets).map Text.hexInt
      let listed := tokens.takeWhile (· ≠ ['/'])
      ⟨offsets.headD 0,
        readChanges offsets 0 listed ++ readRule (tokens.drop (listed.length + 1))⟩

/-- The zone of an IANA name, written exactly as it is registered. -/
def named? (name : String) : Option Zone :=
  let target := (Calendar.zoneAliases.lookup name).getD name
  (Calendar.zoneTable.lookup target).map ofEntry

end Zone

end GigListings
