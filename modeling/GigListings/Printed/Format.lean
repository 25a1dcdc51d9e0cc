import GigListings.Dict
import GigListings.Printed.DateText

namespace GigListings

/-! Date formats by name. A site may give names of its own to the built-in formats. -/

inductive DateFormat where
  | auto
  | relative
  | weekdayDayMonth
  | dayMonth
  | compact
  | explicitYear
  | iso
deriving DecidableEq, Repr

inductive DateFault where
  | notIn (format : DateFormat)
  | unknownFormat (name : String)
deriving DecidableEq

namespace DateFormat

def all : List DateFormat :=
  [auto, relative, weekdayDayMonth, dayMonth, compact, explicitYear, iso]

def name : DateFormat → String
  | auto => "auto"
  | relative => "relative"
  | weekdayDayMonth => "weekday-day-month"
  | dayMonth => "day-month"
  | compact => "compact"
  | explicitYear => "explicit-year"
  | iso => "iso"

def ofName? (name : String) : Option DateFormat := all.find? (·.name = name)

def builtinNames : List String := all.map name

/-- The date that a text shows. Only a date with an explicit year looks at the time that was
printed apart, which then wins. -/
def read? (format : DateFormat) (text : List Char) (time : Option (List Char))
    (context : DateContext) : Option PrintedDate :=
  match format with
  | auto => DateText.auto? text context
  | relative => DateText.relative? text context.today
  | weekdayDayMonth => DateText.weekdayDayMonth? text context.today
  | dayMonth => DateText.dayMonth? text context.today
  | compact => DateText.compact? text context.today
  | explicitYear => DateText.explicitYear? text time
  | iso => DateText.iso? text context

/-- A time printed apart applies when the date's text has none of its own. -/
def parse (format : DateFormat) (text : String) (time : Option String) (context : DateContext) :
    Except DateFault PrintedDate :=
  let time := time.map String.toList
  match format.read? text.toList time context with
  | some printed => .ok (printed.orTime (time.bind TimeText.time?))
  | none => .error (.notIn format)

end DateFormat

namespace DateFault

def reason : DateFault → String
  | notIn format => "not a '" ++ format.name ++ "' date"
  | unknownFormat name => "unknown date format '" ++ name ++ "'"

end DateFault

/-- An alias whose target is no known format. -/
structure AliasFault where
  name : String
  target : String
deriving DecidableEq

def AliasFault.message (fault : AliasFault) : String :=
  "date format alias '" ++ fault.name ++ "' targets unknown format '" ++ fault.target ++ "'"

abbrev DateReader :=
  String → (time : Option String) → DateContext → Except DateFault PrintedDate

structure FormatRegistry where
  formats : Dict DateReader

namespace FormatRegistry

def builtin : FormatRegistry :=
  ⟨Dict.ofList (DateFormat.all.map fun format => (format.name, format.parse))⟩

instance : Inhabited FormatRegistry := ⟨builtin⟩

def get? (registry : FormatRegistry) (name : String) : Option DateReader :=
  registry.formats.get? name

def register (registry : FormatRegistry) (name : String) (format : DateReader) :
    FormatRegistry :=
  ⟨registry.formats.insert name format⟩

def addAlias (registry : FormatRegistry) (name target : String) :
    Except AliasFault FormatRegistry :=
  match registry.get? target with
  | some format => .ok (registry.register name format)
  | none => .error ⟨name, target⟩

def addAliases (registry : FormatRegistry) : List (String × String) →
    Except AliasFault FormatRegistry
  | [] => .ok registry
  | (name, target) :: rest =>
      match registry.addAlias name target with
      | .ok registry => registry.addAliases rest
      | .error fault => .error fault

/-- The built-in formats and a site's aliases, taken in the order of their names. -/
def ofAliases (aliases : Dict String) : Except AliasFault FormatRegistry :=
  builtin.addAliases aliases

/-- Reads a date in the named format, `auto` if no name is given. -/
def parse (registry : FormatRegistry) (format : Option String) (text : String)
    (time : Option String) (context : DateContext) : Except DateFault PrintedDate :=
  let name := format.getD "auto"
  match registry.get? name with
  | some format => format text time context
  | none => .error (.unknownFormat name)

/-- Tomorrow is a sum, and so is the day that the venue's clock shows at the instant of a
timestamp. -/
def parseIn (m : Type → Type) [Monad m] [Reckoning m] (registry : FormatRegistry)
    (format : Option String) (text : String) (time : Option String) (context : DateContext) :
    m (Except DateFault PrintedDate) :=
  match registry.parse format text time context with
  | .ok printed => Reckoning.on printed.date (.ok printed)
  | .error fault => pure (.error fault)

theorem parseIn_endless (registry : FormatRegistry) (format : Option String) (text : String)
    (time : Option String) (context : DateContext) :
    registry.parseIn Id format text time context = registry.parse format text time context := by
  unfold parseIn
  cases registry.parse format text time context <;> rfl

def checkedParse (registry : FormatRegistry) (format : Option String) (text : String)
    (time : Option String) (context : DateContext) :
    Except CalendarFault (Except DateFault PrintedDate) :=
  registry.parseIn (Except CalendarFault) format text time context

theorem checkedParse_eq (registry : FormatRegistry) (format : Option String) (text : String)
    (time : Option String) (context : DateContext) :
    registry.checkedParse format text time context =
      match registry.parse format text time context with
      | .ok printed => checkedOn printed.date (.ok printed)
      | .error fault => .ok (.error fault) := rfl

end FormatRegistry

end GigListings
