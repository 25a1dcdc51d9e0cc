import GigListings.Calendar.IsoText
import GigListings.Printed.TimeText
import GigListings.Printed.Year

namespace GigListings

open Text

structure PrintedDate where
  date : Date
  time : Option TimeOfDay
deriving DecidableEq

/-- What reading a date needs to know: the date that counts as today, and the venue's zone. -/
structure DateContext where
  today : Date
  zone : Option Zone

namespace DateContext

/-- The instant of a venue's wall clock, which is taken as universal time without a zone. -/
def instantIn (m : Type → Type) [Monad m] [Reckoning m] (context : DateContext)
    (clock : WallClock) : m Instant :=
  match context.zone with
  | some zone => zone.instantIn m clock
  | none => pure ⟨clock⟩

def instant (context : DateContext) (clock : WallClock) : Instant := context.instantIn Id clock

theorem instant_eq (context : DateContext) (clock : WallClock) :
    context.instant clock =
      match context.zone with
      | some zone => zone.instant clock
      | none => ⟨clock⟩ := rfl

def checkedInstant (context : DateContext) (clock : WallClock) : Except CalendarFault Instant :=
  context.instantIn (Except CalendarFault) clock

theorem checkedInstant_eq (context : DateContext) (clock : WallClock) :
    context.checkedInstant clock =
      match context.zone with
      | some zone => zone.checkedInstant clock
      | none => .ok ⟨clock⟩ := rfl

def wallClock (context : DateContext) (instant : Instant) : WallClock :=
  match context.zone with
  | some zone => zone.wallClock instant
  | none => instant.utc

end DateContext

namespace PrintedDate

/-- A time printed with the date is kept. -/
def orTime (printed : PrintedDate) (time : Option TimeOfDay) : PrintedDate :=
  ⟨printed.date, printed.time.or time⟩

section Reckoning

variable (m : Type → Type) [Monad m] [Reckoning m]

/-- A date without a time stands for noon in universal time. -/
def instantIn (printed : PrintedDate) (context : DateContext) : m Instant :=
  match printed.time with
  | some time => context.instantIn m ⟨printed.date, time⟩
  | none => pure ⟨⟨printed.date, TimeOfDay.noon⟩⟩

def isoIn (printed : PrintedDate) (context : DateContext) : m String :=
  Instant.iso <$> printed.instantIn m context

end Reckoning

def instant (printed : PrintedDate) (context : DateContext) : Instant :=
  printed.instantIn Id context

theorem instant_eq (printed : PrintedDate) (context : DateContext) :
    printed.instant context =
      match printed.time with
      | some time => context.instant ⟨printed.date, time⟩
      | none => ⟨⟨printed.date, TimeOfDay.noon⟩⟩ := rfl

def iso (printed : PrintedDate) (context : DateContext) : String := printed.isoIn Id context

theorem iso_eq (printed : PrintedDate) (context : DateContext) :
    printed.iso context = (printed.instant context).iso := rfl

def checkedInstant (printed : PrintedDate) (context : DateContext) :
    Except CalendarFault Instant :=
  printed.instantIn (Except CalendarFault) context

theorem checkedInstant_eq (printed : PrintedDate) (context : DateContext) :
    printed.checkedInstant context =
      match printed.time with
      | some time => context.checkedInstant ⟨printed.date, time⟩
      | none => .ok ⟨⟨printed.date, TimeOfDay.noon⟩⟩ := rfl

def checkedIso (printed : PrintedDate) (context : DateContext) : Except CalendarFault String :=
  printed.isoIn (Except CalendarFault) context

theorem checkedIso_eq (printed : PrintedDate) (context : DateContext) :
    printed.checkedIso context = (printed.checkedInstant context).map Instant.iso := rfl

end PrintedDate

namespace DateText

/-! Dates as listings print them: `Today`, `Monday 11th August`, `Wed.13.Aug.25`. -/

def months : List (List Char) :=
  ["january", "february", "march", "april", "may", "june", "july", "august", "september",
    "october", "november", "december"].map String.toList

def weekdays : List (List Char) :=
  ["monday", "tuesday", "wednesday", "thursday", "friday", "saturday", "sunday"].map
    String.toList

def dropPoints (name : List Char) : List Char := (name.reverse.dropWhile (· == '.')).reverse

/-- Names may be cut to three letters, counted in UTF-8 bytes. -/
def isLongEnough (name : List Char) : Bool := 3 ≤ (String.ofList name).utf8ByteSize

def month? (name : List Char) : Option Nat :=
  let name := dropPoints name
  if isLongEnough name then
    (months.findIdx? fun month => (afterLead? name month).isSome).map (· + 1)
  else none

def isWeekday (name : List Char) : Bool :=
  let name := dropPoints name
  isLongEnough name && weekdays.any fun weekday => (afterLead? name weekday).isSome

/-- The rest behind an ordinal ending that closes a word. -/
def afterOrdinal? : List Char → Option (List Char)
  | a :: b :: rest =>
      if [['s', 't'], ['n', 'd'], ['r', 'd'], ['t', 'h']].contains [a, b] ∧
          startsWithWord rest = false then
        some rest
      else none
  | _ => none

/-- How many characters an ordinal ending takes away behind one or two digits. -/
def ordinalAt? (text : List Char) : Option (List Char × List Char) :=
  let (digits, rest) := takeUpTo isDigit 2 text
  if digits = [] then none else (afterOrdinal? rest).map (digits, ·)

/-- Drops `st`, `nd`, `rd` and `th` behind one or two digits that begin a word; `skip`
characters still belong to an ending. -/
def stripOrdinalsAfter : (insideWord : Bool) → (skip : Nat) → List Char → List Char
  | _, _, [] => []
  | _, skip + 1, c :: rest => stripOrdinalsAfter (isWord c) skip rest
  | insideWord, 0, c :: rest =>
      if insideWord then c :: stripOrdinalsAfter (isWord c) 0 rest
      else match ordinalAt? (c :: rest) with
        | some ([_], _) => c :: stripOrdinalsAfter true 2 rest
        | some (_, _) => match rest with
          | d :: rest => c :: d :: stripOrdinalsAfter true 2 rest
          | [] => [c]
        | none => c :: stripOrdinalsAfter (isWord c) 0 rest

def stripOrdinals (text : List Char) : List Char := stripOrdinalsAfter false 0 text

/-- Lower case, without commas and ordinal endings, blanks collapsed. -/
def normalize (text : List Char) : List Char :=
  collapse (stripOrdinals ((lower text).map fun c => if c == ',' then ' ' else c))

def isIntroducer (c : Char) : Bool := c == '@' || c == '|' || isBlank c

/-- The time behind a date. Both ends of a range are discarded. -/
def trailingTime? (text : List Char) : Option TimeOfDay :=
  match text.dropWhile isIntroducer with
  | [] => none
  | rest => match TimeText.splitRange rest with
    | ([], some finish) => TimeText.time? finish
    | (_, some _) => none
    | (single, none) => TimeText.time? single

/-- A printed year; two digits mean this century. -/
def year? (digits : List Char) : Option Int :=
  (number? digits).map fun year =>
    if (String.ofList digits).utf8ByteSize = 2 then 2000 + (year : Int) else year

/-- One or two digits, the name of the month and the year as printed, and the rest. -/
structure Parts where
  day : List Char
  month : List Char
  year : Option (List Char)
  rest : List Char

/-- Letters, at least one. -/
def word? (text : List Char) : Option (List Char × List Char) :=
  match takeRun isAsciiLower text with
  | ([], _) => none
  | found => some found

def dayDigits? (text : List Char) : Option (List Char × List Char) :=
  match takeUpTo isDigit 2 text with
  | ([], _) => none
  | found => some found

/-- Four digits that close a word. -/
def yearDigits? (text : List Char) : Option (List Char × List Char) :=
  match takeUpTo isDigit 4 text with
  | ([a, b, c, d], rest) => if startsWithWord rest then none else some ([a, b, c, d], rest)
  | _ => none

/-- An optional year behind blanks, where a word has to end. -/
def yearOrNot? (insideWord : Bool) (text : List Char) :
    Option (Option (List Char) × List Char) :=
  match (afterBlanks? text).bind yearDigits? with
  | some (year, rest) => some (some year, rest)
  | none => if insideWord = startsWithWord text then none else some (none, text)

def monthAndYear? (text : List Char) :
    Option (List Char × Option (List Char) × List Char) := do
  let (month, rest) ← word? text
  match rest with
  | '.' :: after =>
      match yearOrNot? false after with
      | some (year, after) => some (month, year, after)
      | none => some (month, none, rest)
  | _ => (yearOrNot? true rest).map (month, ·)

/-- A weekday or month name in front, an optional point and blanks. -/
def leadingWord? (text : List Char) : Option (List Char × List Char) := do
  let (name, rest) ← word? text
  let rest ← afterBlanks? (skipOne (· == '.') rest)
  return (name, rest)

/-- `11 august`, `11 aug. 2025`. -/
def dayThenMonth? (text : List Char) : Option Parts := do
  let (day, rest) ← dayDigits? text
  let rest ← afterBlanks? rest
  let (month, year, rest) ← monthAndYear? rest
  return ⟨day, month, year, skipBlanks rest⟩

/-- `aug 29`, `aug. 29 2025`. -/
def monthThenDay? (text : List Char) : Option Parts := do
  let (month, rest) ← leadingWord? text
  let (day, rest) ← dayDigits? rest
  let (year, rest) ← yearOrNot? true rest
  return ⟨day, month, year, skipBlanks rest⟩

def Parts.resolve? (parts : Parts) (today : Date) : Option PrintedDate := do
  let day ← number? parts.day
  let month ← month? parts.month
  let date ← resolveDate? (parts.year.bind year?) month day today
  return ⟨date, trailingTime? parts.rest⟩

/-- `Today`, `Tonight 8pm`, `Tomorrow 19:30`. -/
def relative? (text : List Char) (today : Date) : Option PrintedDate :=
  let text := normalize text
  let found (word : String) (date : Date) : Option PrintedDate :=
    (TimeText.afterWord? word.toList text).map fun rest => ⟨date, trailingTime? (skipBlanks rest)⟩
  found "today" today <|> found "tonight" today <|> found "tomorrow" today.next

/-- `Monday 11th August`, `Mon 11 Aug 19:30`. -/
def weekdayDayMonth? (text : List Char) (today : Date) : Option PrintedDate := do
  let (name, rest) ← leadingWord? (normalize text)
  let parts ← dayThenMonth? rest
  if isWeekday name then parts.resolve? today else none

/-- `11 August`, `11th Aug 2025`, and with the month first `Aug 29`. -/
def dayMonth? (text : List Char) (today : Date) : Option PrintedDate :=
  let text := normalize text
  (dayThenMonth? text <|> monthThenDay? text).bind (·.resolve? today)

/-- A letter in caseless comparison with the ASCII letters. -/
def isFoldedLetter (c : Char) : Bool := isAsciiLower (foldChar c)

def foldedWord? (text : List Char) : Option (List Char × List Char) :=
  match takeRun isFoldedLetter text with
  | ([], _) => none
  | found => some found

def afterPoint? : List Char → Option (List Char)
  | '.' :: rest => some rest
  | _ => none

/-- Four digits or two that close a word. -/
def compactYear? (text : List Char) : Option (List Char × List Char) :=
  match yearDigits? text with
  | some found => some found
  | none => match takeUpTo isDigit 2 text with
    | ([a, b], rest) => if startsWithWord rest then none else some ([a, b], rest)
    | _ => none

/-- `wed.13.aug.25` on one line. -/
def compactParts? (text : List Char) : Option Parts := do
  let text := skipBlanks text
  let text ← match foldedWord? text with
    | some (_, rest) => (afterPoint? rest).map skipBlanks
    | none => some text
  let (day, rest) ← dayDigits? text
  let rest ← afterPoint? rest
  let (month, rest) ← foldedWord? rest
  let rest ← afterPoint? rest
  let (year, rest) ← compactYear? rest
  let rest := skipBlanks rest
  if rest.contains '\n' then none else some ⟨day, month, some year, rest⟩

/-- `Wed.13.Aug.25`; a year of two digits that lies too far ahead is inferred. -/
def compact? (text : List Char) (today : Date) : Option PrintedDate := do
  let parts ← compactParts? text
  let day ← number? parts.day
  let month ← month? (lower parts.month)
  let digits ← parts.year
  let year ← number? digits
  let date ←
    if (String.ofList digits).utf8ByteSize = 2 then resolveShortYear? year month day today
    else Date.named? year month day
  return ⟨date, trailingTime? parts.rest⟩

/-- `12 aug 2025`, perhaps behind another word. -/
def explicitYearParts? (text : List Char) : Option Parts := do
  let text := match leadingWord? text with
    | some (_, rest) => rest
    | none => text
  let (day, rest) ← dayDigits? text
  let rest ← afterBlanks? rest
  let (month, rest) ← word? rest
  let rest ← afterBlanks? (skipOne (· == '.') rest)
  let (year, rest) ← yearDigits? rest
  return ⟨day, month, some year, skipBlanks rest⟩

/-- `12 Aug 2025`; a time given apart wins over one behind the date. -/
def explicitYear? (text : List Char) (doors : Option (List Char)) : Option PrintedDate := do
  let parts ← explicitYearParts? (normalize text)
  let day ← number? parts.day
  let month ← month? parts.month
  let year ← parts.year.bind number?
  let date ← Date.named? year month day
  return ⟨date, (doors.bind TimeText.time?).or (trailingTime? parts.rest)⟩

/-- `2025-08-13`, `2025-08-13 19:30`, or a timestamp, read on the venue's wall clock. -/
def iso? (text : List Char) (context : DateContext) : Option PrintedDate :=
  let text := trim text
  match Instant.ofIso? text with
  | some instant =>
      let clock := context.wallClock instant
      some ⟨clock.date, some clock.time⟩
  | none => match WallClock.ofLoose? text with
    | some clock => some ⟨clock.date, some clock.time⟩
    | none => (Date.ofLoose? text).map (⟨·, none⟩)

/-- Every shape that needs no hint, the most specific first. -/
def auto? (text : List Char) (context : DateContext) : Option PrintedDate :=
  relative? text context.today <|> iso? text context <|> compact? text context.today <|>
    weekdayDayMonth? text context.today <|> dayMonth? text context.today

end DateText

end GigListings
