import GigListings.Link.Resolve
import GigListings.Pattern.Replace
import GigListings.Printed.Format
import GigListings.Text.Basic
import GigListings.Transform.Args

namespace GigListings

open Text

/-! Transforms of single texts. A transform may leave no value. -/

inductive Transform where
  | trim
  | lowercase
  | uppercase
  | slug
  | extractText
  | regex
  | timeRangeStart
  | timeRangeEnd
  | url
  | parseDate
  | parseTime
  | dateTime
deriving DecidableEq, Repr

structure TransformContext where
  baseUrl : String
  dates : DateContext
  formats : FormatRegistry

namespace Transform

def all : List Transform :=
  [trim, lowercase, uppercase, slug, extractText, regex, timeRangeStart, timeRangeEnd, url,
    parseDate, parseTime, dateTime]

def name : Transform → String
  | trim => "trim"
  | lowercase => "lowercase"
  | uppercase => "uppercase"
  | slug => "slug"
  | extractText => "extract-text"
  | regex => "regex"
  | timeRangeStart => "time-range-start"
  | timeRangeEnd => "time-range-end"
  | url => "url"
  | parseDate => "parse-date"
  | parseTime => "parse-time"
  | dateTime => "date-time"

def ofName? (name : String) : Option Transform := all.find? (·.name = name)

/-- The first match of a pattern, or what one of its groups captured: the first group unless
another is asked for. Without a pattern the text stays. -/
def extract? (text : String) (args : Args) : Option String :=
  match args.text? "pattern" with
  | none => some text
  | some pattern => do
      let pattern ← CompiledPattern.ofText? pattern
      let captures ← pattern.first? text.toList
      let group := (args.count? "group").getD (min pattern.groups 1)
      let captured ← captures.group? group
      return String.ofList (Text.trim captured)

/-- Every match of a pattern replaced, or removed without a replacement. -/
def replace? (text : String) (args : Args) : Option String :=
  match args.text? "pattern" with
  | none => some text
  | some pattern => (CompiledPattern.ofText? pattern).map fun pattern =>
      let replacement := (args.text? "replacement").getD ""
      String.ofList (pattern.replaceAll replacement.toList text.toList)

def slug? (text : String) : Option String :=
  match Text.slug text.toList with
  | [] => none
  | joined => some (String.ofList joined)

def url? (text : String) (args : Args) (context : TransformContext) : Option String :=
  (Link.resolve? text.toList context.baseUrl.toList
    ((args.text? "fragmentPath").map String.toList)).map String.ofList

/-! Dates and times. -/

def rangeStart? (text : String) : Option String :=
  (TimeText.range? text.toList).map fun (start, _) => start.hourMinute

/-- A lone time is its own end. -/
def rangeEnd? (text : String) : Option String :=
  (TimeText.range? text.toList).map fun (start, finish) => (finish.getD start).hourMinute

def time? (text : String) : Option String :=
  (TimeText.time? text.toList).map TimeOfDay.hourMinute

/-- A range's end on the date of its start, or on the next day if its hour comes earlier. -/
def endDate (date : Date) (start finish : TimeOfDay) : Date :=
  if finish.hour < start.hour then date.next else date

/-- A time, or one end of a range, on a date. -/
def timeOn? (date : Date) (text : String) (isEnd : Bool) : Option PrintedDate := do
  let (start, finish) ← TimeText.range? text.toList
  if isEnd then finish.map fun finish => ⟨endDate date start finish, some finish⟩
  else some ⟨date, some start⟩

section Reckoning

variable (m : Type → Type) [Monad m] [Reckoning m]

def dateIn? (text : String) (args : Args) (context : TransformContext) : m (Option String) := do
  match ← context.formats.parseIn m (args.text? "format") text (args.text? "time")
      context.dates with
  | .ok printed => some <$> printed.isoIn m context.dates
  | .error _ => return none

/-- A time on a date that was found apart. The day after that of a range's start is a sum. -/
def dateTimeIn? (text : String) (args : Args) (context : TransformContext) :
    m (Option String) := do
  match args.text? "date" with
  | none => return none
  | some dateText =>
      match ← context.formats.parseIn m (args.text? "format") dateText none context.dates with
      | .error _ => return none
      | .ok printed =>
          match timeOn? printed.date text (args.flag "isEndTime") with
          | none => return none
          | some dated => do
              let dated ← Reckoning.on dated.date dated
              some <$> dated.isoIn m context.dates

def applyIn (transform : Transform) (text : String) (args : Args) (context : TransformContext) :
    m (Option String) :=
  match transform with
  | trim => pure (some (String.ofList (collapse text.toList)))
  | lowercase => pure (some (String.ofList (lower text.toList)))
  | uppercase => pure (some (String.ofList (upper text.toList)))
  | slug => pure (slug? text)
  | extractText => pure (extract? text args)
  | regex => pure (replace? text args)
  | timeRangeStart => pure (rangeStart? text)
  | timeRangeEnd => pure (rangeEnd? text)
  | url => pure (url? text args context)
  | parseDate => dateIn? m text args context
  | parseTime => pure (time? text)
  | dateTime => dateTimeIn? m text args context

end Reckoning

def apply (transform : Transform) (text : String) (args : Args) (context : TransformContext) :
    Option String :=
  transform.applyIn Id text args context

def checkedApply (transform : Transform) (text : String) (args : Args)
    (context : TransformContext) : Except CalendarFault (Option String) :=
  transform.applyIn (Except CalendarFault) text args context

/-! Transforms of dates without an end. -/

theorem apply_parseDate (text : String) (args : Args) (context : TransformContext) :
    parseDate.apply text args context =
      match context.formats.parse (args.text? "format") text (args.text? "time")
        context.dates with
      | .ok printed => some (printed.iso context.dates)
      | .error _ => none := by
  change dateIn? Id text args context = _
  rw [dateIn?, FormatRegistry.parseIn_endless]
  rfl

theorem apply_dateTime (text : String) (args : Args) (context : TransformContext) :
    dateTime.apply text args context =
      match args.text? "date" with
      | none => none
      | some dateText =>
          match context.formats.parse (args.text? "format") dateText none context.dates with
          | .ok printed =>
              (timeOn? printed.date text (args.flag "isEndTime")).map (·.iso context.dates)
          | .error _ => none := by
  change dateTimeIn? Id text args context = _
  unfold dateTimeIn?
  cases args.text? "date" with
  | none => rfl
  | some dateText =>
      dsimp only
      rw [FormatRegistry.parseIn_endless]
      cases context.formats.parse (args.text? "format") dateText none context.dates with
      | error fault => rfl
      | ok printed =>
          change (match timeOn? printed.date text (args.flag "isEndTime") with
            | none => none
            | some dated => some (dated.iso context.dates)) = Option.map _ _
          cases timeOn? printed.date text (args.flag "isEndTime") <;> rfl

/-! Transforms of dates as far as the calendar goes. -/

theorem checkedApply_parseDate (text : String) (args : Args) (context : TransformContext) :
    parseDate.checkedApply text args context = (do
      match ← context.formats.checkedParse (args.text? "format") text (args.text? "time")
          context.dates with
      | .ok printed => (printed.checkedIso context.dates).map some
      | .error _ => .ok none) := rfl

theorem checkedApply_dateTime (text : String) (args : Args) (context : TransformContext) :
    dateTime.checkedApply text args context =
      match args.text? "date" with
      | none => .ok none
      | some dateText => (do
          match ← context.formats.checkedParse (args.text? "format") dateText none
              context.dates with
          | .error _ => .ok none
          | .ok printed =>
              match timeOn? printed.date text (args.flag "isEndTime") with
              | none => .ok none
              | some dated => do
                  let dated ← checkedOn dated.date dated
                  (dated.checkedIso context.dates).map some) := rfl

end Transform

/-- Transforms a value entry by entry, and drops entries without a result. -/
def FieldValue.transformIn (m : Type → Type) [Monad m] (value : FieldValue)
    (transform : String → m (Option String)) : m (Option FieldValue) :=
  match value with
  | .single text => (Option.map .single) <$> transform text
  | .many texts => (fun results => some (.many (results.filterMap id))) <$> texts.mapM transform

theorem FieldValue.transformIn_single (text : String) (transform : String → Id (Option String)) :
    (single text).transformIn Id transform = (transform text).map single := rfl

abbrev TextTransform := String → Args → TransformContext → Option String

structure TransformRegistry where
  transforms : Dict TextTransform

namespace TransformRegistry

def builtin : TransformRegistry :=
  ⟨Dict.ofList (Transform.all.map fun transform => (transform.name, transform.apply))⟩

def get? (registry : TransformRegistry) (name : String) : Option TextTransform :=
  registry.transforms.get? name

def register (registry : TransformRegistry) (name : String) (transform : TextTransform) :
    TransformRegistry :=
  ⟨registry.transforms.insert name transform⟩

/-- An unknown transform leaves the value as it is. -/
def apply (registry : TransformRegistry) (name : String) (value : FieldValue) (args : Args)
    (context : TransformContext) : Option FieldValue :=
  match registry.get? name with
  | none => some value
  | some transform => value.transformIn Id (transform · args context)

end TransformRegistry

end GigListings
