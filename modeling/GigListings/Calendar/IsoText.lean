import GigListings.Calendar.Zone
import GigListings.Text.Scan

namespace GigListings

open Text

/-! Reading timestamps: the internet profile of ISO 8601, and looser dates and times without
an offset. -/

def readMark (mark : Char) : List Char → Option (List Char)
  | c :: rest => if c = mark then some rest else none
  | [] => none

/-- The nanoseconds of a fraction; digits past the ninth are dropped. -/
def readNanos : List Char → Option (Nat × List Char)
  | '.' :: rest =>
      match takeUpTo isAsciiDigit 9 rest with
      | ([], _) => none
      | (digits, rest) =>
          (number? digits).map fun value =>
            (value * Nat.pow 10 (9 - digits.length), rest.dropWhile isAsciiDigit)
  | text => some (0, text)

/-- The offset after its sign, in seconds; the sign may be a true minus. -/
def readOffset : List Char → Option Int
  | ['Z'] => some 0
  | ['z'] => some 0
  | sign :: rest =>
      if sign = '+' ∨ sign = '-' ∨ sign = '−' then do
        let (hours, rest) ← readNumber 2 2 rest
        let rest ← readMark ':' rest
        let (minutes, rest) ← readNumber 2 2 rest
        if rest.isEmpty ∧ hours < 24 ∧ minutes < 60 then
          let seconds : Int := (hours * 3600 + minutes * 60 : Nat)
          some (if sign = '+' then seconds else -seconds)
        else none
      else none
  | [] => none

def isDateTimeMark (c : Char) : Bool := c == 'T' || c == 't' || c == ' '

namespace Instant

/-- A full date, a full time and an offset; blanks around them do not matter. -/
def ofIso? (text : List Char) : Option Instant := do
  let (year, rest) ← readNumber 4 4 (trim text)
  let rest ← readMark '-' rest
  let (month, rest) ← readNumber 2 2 rest
  let rest ← readMark '-' rest
  let (day, rest) ← readNumber 2 2 rest
  let rest ← match rest with
    | c :: rest => if isDateTimeMark c then some rest else none
    | [] => none
  let (hour, rest) ← readNumber 2 2 rest
  let rest ← readMark ':' rest
  let (minute, rest) ← readNumber 2 2 rest
  let rest ← readMark ':' rest
  let (second, rest) ← readNumber 2 2 rest
  let (nanos, rest) ← readNanos rest
  let offset ← readOffset rest
  let date ← Date.ofYmd? year month day
  let time ← TimeOfDay.ofClock? hour minute second nanos
  return ⟨(WallClock.mk date time).shift (-offset)⟩

end Instant

/-- A year: up to four digits, or a sign and any number of digits. -/
def readYear (text : List Char) : Option (Int × List Char) :=
  match skipBlanks text with
  | '-' :: rest => (readNumber 1 rest.length rest).map fun (year, rest) => (-(year : Int), rest)
  | '+' :: rest => (readNumber 1 rest.length rest).map fun (year, rest) => ((year : Int), rest)
  | rest => (readNumber 1 4 rest).map fun (year, rest) => ((year : Int), rest)

/-- One or two digits behind any blanks. -/
def readPair (text : List Char) : Option (Nat × List Char) := readNumber 1 2 (skipBlanks text)

/-- `2025-08-13` and what follows it. -/
def readLooseDate (text : List Char) : Option (Date × List Char) := do
  let (year, rest) ← readYear text
  let rest ← readMark '-' rest
  let (month, rest) ← readPair rest
  let rest ← readMark '-' rest
  let (day, rest) ← readPair rest
  let date ← Date.named? year month day
  return (date, rest)

/-- `19:30` and what follows it. -/
def readHourMinute (text : List Char) : Option ((Nat × Nat) × List Char) := do
  let (hour, rest) ← readPair text
  let rest ← readMark ':' rest
  let (minute, rest) ← readPair rest
  return ((hour, minute), rest)

namespace WallClock

def ofHourMinute? (date : Date) (text : List Char) : Option WallClock :=
  match readHourMinute text with
  | some ((hour, minute), []) => (TimeOfDay.ofClock? hour minute 0 0).map (WallClock.mk date)
  | _ => none

def ofClock? (date : Date) (text : List Char) : Option WallClock := do
  let ((hour, minute), rest) ← readHourMinute text
  let rest ← readMark ':' rest
  let (second, rest) ← readPair rest
  if rest.isEmpty then (TimeOfDay.ofClock? hour minute second 0).map (WallClock.mk date) else none

/-- A date and a time with or without seconds, joined by `T`, or without seconds behind
blanks. -/
def ofLoose? (text : List Char) : Option WallClock :=
  match readLooseDate text with
  | none => none
  | some (date, rest) =>
      match readMark 'T' rest with
      | some rest => ofClock? date rest <|> ofHourMinute? date rest
      | none => ofHourMinute? date (skipBlanks rest)

end WallClock

namespace Date

def ofLoose? (text : List Char) : Option Date :=
  match readLooseDate text with
  | some (date, []) => some date
  | _ => none

end Date

end GigListings
