import GigListings.Gig.Normalizer
import GigListings.Proofs.Printed.Format
import GigListings.Proofs.Printed.Reread

namespace GigListings

open Text

/-! The two ways of a gig's start: a field's text read as it is, and the same text read by the
transform for dates, printed, and read again. -/

theorem Transform.get?_builtin (transform : Transform) :
    TransformRegistry.builtin.get? transform.name = some transform.apply := by
  cases transform <;> rfl

namespace DateText

/-- The timestamp printed for a text: of the timestamp that it is, or of the date in it. -/
def printedStart? (text : List Char) (context : DateContext) : Option String :=
  if trim text = [] then none
  else match Instant.ofIso? (trim text) with
    | some instant => some instant.iso
    | none => (auto? (trim text) context).map (·.iso context)

theorem printedStart?_isoChars (instant : Instant) (context : DateContext) :
    printedStart? instant.isoChars context =
      if IsFourDigitYear instant.year then some instant.iso else none := by
  have nonempty : instant.isoChars ≠ [] := by
    rw [Instant.isoChars_eq, Instant.behindYear]
    simp
  rw [printedStart?, Instant.trim_isoChars, if_neg nonempty]
  by_cases small : IsFourDigitYear instant.year
  · obtain ⟨printed, read, same⟩ := Instant.ofIso?_isoChars small
    rw [read, if_pos small, ← same]
  · rw [Instant.ofIso?_signed small, auto?_signed small, if_neg small]
    rfl

def rereadStart? (text : List Char) (context : DateContext) : Option String :=
  (auto? text context).bind fun printed =>
    printedStart? (printed.instant context).isoChars context

/-- The start that a text shows is the same once it has been printed. For a timestamp, its year
has four digits and the venue's clock did not show the same before; for other texts the printed
year has four digits, and a date that is cut off at its line break is read alike without it. -/
def SurvivesPrinting (text : List Char) (context : DateContext) : Prop :=
  match Instant.ofIso? (trim text) with
  | some instant => IsFourDigitYear instant.year ∧ context.IsFirstReading instant
  | none =>
      ∀ printed, auto? (trim text) context = some printed →
        IsFourDigitYear (printed.instant context).year ∧
          (IsCut text → ∃ other, otherThanCompact? (trim text) context = some other ∧
            other.iso context = printed.iso context)

theorem not_isCut_of_trim_eq_nil {text : List Char} (empty : trim text = []) : ¬IsCut text := by
  rintro ⟨parts, found, -⟩
  rw [empty] at found
  exact absurd found
    (by simp [compactParts?, skipBlanks, foldedWord?, takeRun, dayDigits?, takeUpTo])

theorem otherThanCompact?_of_auto?_eq_none {text : List Char} {context : DateContext}
    (unread : auto? text context = none) : otherThanCompact? text context = none := by
  simp only [auto?, otherThanCompact?, Option.orElse_eq_orElse, Option.orElse_eq_or,
    Option.or_eq_none_iff] at *
  exact ⟨unread.1, unread.2.1, unread.2.2.2⟩

theorem auto?_of_trim_eq_nil {text : List Char} (empty : trim text = []) (context : DateContext) :
    auto? text context = none := by
  rw [auto?_trim (not_isCut_of_trim_eq_nil empty), empty]
  exact auto?_nil context

theorem rereadStart?_eq_iff_of_timestamp {text : List Char} {instant : Instant}
    (read : Instant.ofIso? (trim text) = some instant) {context : DateContext}
    (ordered : context.IsOrdered) :
    printedStart? text context = rereadStart? text context ↔
      IsFourDigitYear instant.year ∧ context.IsFirstReading instant := by
  have nonempty : trim text ≠ [] := by
    intro empty
    obtain ⟨c, rest, trimmed, -⟩ := exists_digit_of_ofIso? read
    rw [trim_trim, empty] at trimmed
    exact List.cons_ne_nil c rest trimmed.symm
  rw [printedStart?, if_neg nonempty, read, rereadStart?, auto?_of_ofIso? read, Option.bind_some,
    printedStart?_isoChars, instant_shown]
  constructor
  · intro equal
    by_cases small : IsFourDigitYear (context.instant (context.wallClock instant)).year
    · rw [if_pos small] at equal
      have chars := Instant.isoChars_of_iso (Option.some.inj equal)
      have nanos := context.nanos_instant_wallClock instant
      have same := Instant.isoChars_inj nanos.symm chars
      rw [← same] at small
      exact ⟨small, (DateContext.instant_wallClock_eq_iff ordered instant).mp same.symm⟩
    · rw [if_neg small] at equal
      cases equal
  · rintro ⟨small, first⟩
    rw [(DateContext.instant_wallClock_eq_iff ordered instant).mpr first, if_pos small]

def readable? (context : DateContext) (printed : PrintedDate) : Option String :=
  if IsFourDigitYear (printed.instant context).year then some (printed.iso context) else none

theorem readable?_eq_some_iff {context : DateContext} {printed : PrintedDate} {start : String} :
    readable? context printed = some start ↔
      IsFourDigitYear (printed.instant context).year ∧ printed.iso context = start := by
  simp [readable?]

theorem readable_iff_of_whole (found : Option PrintedDate) (context : DateContext) :
    found.map (·.iso context) = found.bind (readable? context) ↔
      ∀ printed, found = some printed → IsFourDigitYear (printed.instant context).year := by
  cases found with
  | none => simp
  | some printed =>
      rw [Option.map_some, Option.bind_some, eq_comm, readable?_eq_some_iff]
      simp

theorem year_of_iso {a b : PrintedDate} {context : DateContext}
    (equal : a.iso context = b.iso context) :
    (a.instant context).year = (b.instant context).year :=
  Instant.year_eq_of_isoChars (Instant.isoChars_of_iso equal)

theorem readable_iff_of_cut {found other : Option PrintedDate} (context : DateContext)
    (fewer : found = none → other = none) :
    found.map (·.iso context) = other.bind (readable? context) ↔
      ∀ printed, found = some printed → IsFourDigitYear (printed.instant context).year ∧
        ∃ another, other = some another ∧ another.iso context = printed.iso context := by
  cases found with
  | none => simp [fewer rfl]
  | some printed =>
      rw [Option.map_some, eq_comm, Option.bind_eq_some_iff]
      constructor
      · rintro ⟨another, isOther, readable⟩
        obtain ⟨small, same⟩ := readable?_eq_some_iff.mp readable
        rintro _ ⟨⟩
        rw [year_of_iso same] at small
        exact ⟨small, another, isOther, same⟩
      · intro each
        obtain ⟨small, another, isOther, same⟩ := each printed rfl
        rw [← year_of_iso same] at small
        exact ⟨another, isOther, readable?_eq_some_iff.mpr ⟨small, same⟩⟩

theorem rereadStart?_eq_iff {text : List Char} {context : DateContext}
    (ordered : context.IsOrdered) :
    printedStart? text context = rereadStart? text context ↔ SurvivesPrinting text context := by
  unfold SurvivesPrinting
  cases read : Instant.ofIso? (trim text) with
  | some instant => exact rereadStart?_eq_iff_of_timestamp read ordered
  | none =>
      by_cases empty : trim text = []
      · simp [printedStart?, empty, rereadStart?, auto?_of_trim_eq_nil empty, auto?_nil]
      · rw [printedStart?, if_neg empty, read, rereadStart?]
        simp only [printedStart?_isoChars]
        by_cases cut : IsCut text
        · rw [auto?_of_isCut cut]
          simp only [cut, forall_const]
          exact readable_iff_of_cut context otherThanCompact?_of_auto?_eq_none
        · rw [auto?_trim cut]
          simp only [cut, false_implies, and_true]
          exact readable_iff_of_whole _ context

end DateText

namespace Normalizer

def withDateStart (normalizer : Normalizer) (mapping : MappingValue) : Normalizer :=
  { normalizer with
    config := { normalizer.config with
      mapping := { normalizer.config.mapping with dateStart := mapping } } }

/-- The start of the gig that an item gives under a mapping, if it gives one. -/
def dateStart? (normalizer : Normalizer) (mapping : MappingValue) (item : Item) : Option String :=
  ((normalizer.withDateStart mapping).gig? item).map (·.dateStart)

theorem date?_withDateStart (normalizer : Normalizer) (start : MappingValue) (item : Item)
    (mapping : Option MappingValue) :
    (normalizer.withDateStart start).date? item mapping = normalizer.date? item mapping := rfl

theorem dateStart?_eq (normalizer : Normalizer) (mapping : MappingValue) (item : Item) :
    normalizer.dateStart? mapping item = normalizer.date? item (some mapping) := by
  rw [dateStart?, gig?, date?_withDateStart, Option.map_map]
  exact Option.map_id'

def asField (name : String) : MappingValue := .field name

/-- A field's text through the transform for dates, without parameters. -/
def throughParseDate (name : String) : MappingValue :=
  .transformed ⟨name, Transform.parseDate.name, none⟩

variable {normalizer : Normalizer} {item : Item} {name text : String}

theorem resolve?_field (holds : Dict.get? item name = some (.single text)) :
    normalizer.resolve? item (asField name) = some (.single text) := by
  simp only [resolve?, asField, MappingValue.fieldName, holds, Option.bind_eq_bind,
    Option.bind_some]
  rfl

theorem resolve?_throughParseDate (formats : normalizer.formats = .builtin)
    (transforms : normalizer.transforms = .builtin)
    (holds : Dict.get? item name = some (.single text)) :
    normalizer.resolve? item (throughParseDate name) =
      (DateText.auto? text.toList normalizer.dates).map fun printed =>
        .single (printed.iso normalizer.dates) := by
  have noFormat : Args.text? (Args.resolve none item fun name => Dict.contains item name) "format" =
      none := rfl
  have noTime : Args.text? (Args.resolve none item fun name => Dict.contains item name) "time" =
      none := rfl
  simp only [resolve?, throughParseDate, MappingValue.fieldName, holds, Option.bind_eq_bind,
    Option.bind_some, TransformRegistry.apply, transforms, Transform.get?_builtin,
    FieldValue.transformIn_single, Transform.apply_parseDate, Normalizer.context, formats,
    noFormat, noTime, FormatRegistry.parse_builtin_default]
  cases DateText.auto? text.toList normalizer.dates <;> rfl

theorem date?_of_resolve? (formats : normalizer.formats = .builtin) {mapping : MappingValue}
    (resolved : normalizer.resolve? item mapping = some (.single text)) :
    normalizer.date? item (some mapping) =
      DateText.printedStart? text.toList normalizer.dates := by
  have blank : trimText text = "" ↔ trim text.toList = [] := by
    rw [trimText, ← String.toList_inj, String.toList_ofList]
    rfl
  simp only [date?, text?, resolved, Option.bind_eq_bind, Option.bind_some, FieldValue.first?,
    DateText.printedStart?, blank]
  by_cases empty : trim text.toList = []
  · rw [if_pos empty, if_pos empty]
    rfl
  · rw [if_neg empty, if_neg empty]
    simp only [Option.bind_some, trimText, String.toList_ofList, formats,
      FormatRegistry.parse_builtin_default]
    cases Instant.ofIso? (trim text.toList) with
    | some instant => rfl
    | none => cases DateText.auto? (trim text.toList) normalizer.dates <;> rfl

theorem date?_throughParseDate (formats : normalizer.formats = .builtin)
    (transforms : normalizer.transforms = .builtin)
    (holds : Dict.get? item name = some (.single text)) :
    normalizer.date? item (some (throughParseDate name)) =
      DateText.rereadStart? text.toList normalizer.dates := by
  have resolved := resolve?_throughParseDate formats transforms holds
  rw [DateText.rereadStart?]
  cases read : DateText.auto? text.toList normalizer.dates with
  | none =>
      rw [read] at resolved
      simp [date?, text?, resolved]
  | some printed =>
      rw [read] at resolved
      rw [date?_of_resolve? formats resolved, Option.bind_some, PrintedDate.iso_eq, Instant.iso,
        String.toList_ofList]

theorem dateStart?_asField (formats : normalizer.formats = .builtin)
    (holds : Dict.get? item name = some (.single text)) :
    normalizer.dateStart? (asField name) item =
      DateText.printedStart? text.toList normalizer.dates := by
  rw [dateStart?_eq, date?_of_resolve? formats (resolve?_field holds)]

theorem dateStart?_throughParseDate (formats : normalizer.formats = .builtin)
    (transforms : normalizer.transforms = .builtin)
    (holds : Dict.get? item name = some (.single text)) :
    normalizer.dateStart? (throughParseDate name) item =
      DateText.rereadStart? text.toList normalizer.dates := by
  rw [dateStart?_eq, date?_throughParseDate formats transforms holds]

/-- A timestamp that is read as a date in either format names its instant exactly if the venue's
clock did not show the same before. -/
theorem parse_timestamp_iso_eq_iff {context : DateContext} (ordered : context.IsOrdered)
    {instant : Instant} (read : Instant.ofIso? text.toList = some instant) {format : DateFormat}
    (either : format = .auto ∨ format = .iso) :
    ∃ printed, FormatRegistry.builtin.parse (some format.name) text none context = .ok printed ∧
      (printed.iso context = instant.iso ↔ context.IsFirstReading instant) := by
  have trimmed : Instant.ofIso? (trim text.toList) = some instant := by
    rw [Instant.ofIso?, trim_trim]
    exact read
  refine ⟨DateText.shown context instant, ?_, ?_⟩
  · rw [FormatRegistry.parse_builtin, DateFormat.read?_timestamp either trimmed]
  · rw [← DateContext.instant_wallClock_eq_iff ordered, PrintedDate.iso_eq, DateText.instant_shown]
    constructor
    · intro equal
      exact Instant.isoChars_inj (context.nanos_instant_wallClock instant)
        (Instant.isoChars_of_iso equal)
    · intro same
      rw [same]

/-- A start that is printed and read again is the start of the text as it is, or both give no
gig, exactly if the text's date survives printing. -/
theorem dateStart?_asField_eq_throughParseDate_iff (ordered : normalizer.dates.IsOrdered)
    (formats : normalizer.formats = .builtin) (transforms : normalizer.transforms = .builtin)
    (holds : Dict.get? item name = some (.single text)) :
    (normalizer.dateStart? (asField name) item =
        normalizer.dateStart? (throughParseDate name) item ↔
      DateText.SurvivesPrinting text.toList normalizer.dates) ∧
    ∀ instant, Instant.ofIso? text.toList = some instant →
      ∀ format : DateFormat, format = .auto ∨ format = .iso →
        ∃ printed, normalizer.formats.parse (some format.name) text none normalizer.dates =
            .ok printed ∧
          (printed.iso normalizer.dates = instant.iso ↔
            normalizer.dates.IsFirstReading instant) := by
  constructor
  · rw [dateStart?_asField formats holds, dateStart?_throughParseDate formats transforms holds]
    exact DateText.rereadStart?_eq_iff ordered
  · intro instant read format either
    rw [formats]
    exact parse_timestamp_iso_eq_iff ordered read either

/-! A venue in London in the year 2025. -/

/-- The clock is an hour ahead from 30 March at 01:00 to 26 October at 01:00. -/
def london : DateContext where
  today := ⟨2025, 6, 1, by decide⟩
  zone := some ⟨0, [⟨1743296400, 3600⟩, ⟨1761440400, 0⟩]⟩

/-- Items with a title, a start and a venue. -/
def ofDates (dates : DateContext) : Normalizer where
  config :=
    { site := ⟨"Venue", "venue", "https://venue.example", none⟩
      browser := default
      rateLimit := default
      workflow := []
      mapping := ⟨.field "title", none, ⟨"venue", none, none, none, none, none⟩, .field "start",
        none, none, none, none, none, none, none, none, none⟩
      validation := default
      debug := default
      dateFormats := [] }
  transforms := .builtin
  formats := .builtin
  dates
  now := .ofMillis 0

/-- Half past one in summer time, which the clock shows again an hour later. -/
theorem dateStart?_asField_eq_throughParseDate_summer :
    (ofDates london).dateStart? (asField "start") [("start", .single "2025-10-26T00:30:00Z")] =
      (ofDates london).dateStart? (throughParseDate "start")
        [("start", .single "2025-10-26T00:30:00Z")] := by
  have ordered : london.IsOrdered := by
    rintro zone ⟨⟩
    decide
  have read : Instant.ofIso? (trim "2025-10-26T00:30:00Z".toList) =
      some (.ofMillis 1761438600000) := by decide +kernel
  have first : london.IsFirstReading (.ofMillis 1761438600000) :=
    (DateContext.instant_wallClock_eq_iff ordered _).mp (by decide +kernel)
  have survives : DateText.SurvivesPrinting "2025-10-26T00:30:00Z".toList london := by
    rw [DateText.SurvivesPrinting, read]
    exact ⟨by decide +kernel, first⟩
  exact (@dateStart?_asField_eq_throughParseDate_iff (ofDates london) _ _ _ ordered rfl rfl
    rfl).1.mpr survives

/-- Half past one in winter time is printed as an hour earlier. -/
theorem dateStart?_asField_ne_throughParseDate_winter :
    (ofDates london).dateStart? (asField "start") [("start", .single "2025-10-26T01:30:00Z")] =
        some "2025-10-26T01:30:00.000Z" ∧
      (ofDates london).dateStart? (throughParseDate "start")
          [("start", .single "2025-10-26T01:30:00Z")] = some "2025-10-26T00:30:00.000Z" := by
  constructor
  · decide +kernel
  · decide +kernel

end Normalizer

end GigListings
