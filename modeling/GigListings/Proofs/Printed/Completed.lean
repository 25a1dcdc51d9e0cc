import GigListings.Proofs.Printed.InCalendar

namespace GigListings

open Text

/-! Reading and printing dates to the end. Every format reads dates of the calendar only; a run
stops at none of its sums but at those that lead out of the calendar's last day. -/

theorem isOffset_of_readOffset {text : List Char} {offset : Int}
    (read : readOffset text = some offset) : IsOffset offset := by
  unfold readOffset at read
  split at read
  · cases read
    decide
  · cases read
    decide
  · split at read
    · simp only [Option.bind_eq_bind, Option.bind_eq_some_iff] at read
      obtain ⟨⟨hours, afterHours⟩, -, behindMark, -, ⟨minutes, rest⟩, -, read⟩ := read
      split at read
      · rename_i bounds
        obtain ⟨-, hour, minute⟩ := bounds
        cases read
        simp only [IsOffset, secondsPerDay]
        split <;> omega
      · cases read
    · cases read
  · cases read

/-- A timestamp names a year of four digits, and its instant is less than a day away. -/
theorem Instant.exists_of_ofIso? {text : List Char} {instant : Instant}
    (read : ofIso? text = some instant) :
    ∃ (clock : WallClock) (offset : Int), IsFourDigitYear clock.date.year ∧ IsOffset offset ∧
      instant = ⟨clock.shift offset⟩ := by
  obtain ⟨⟨year, rest⟩, yearRead, read⟩ := Option.bind_eq_some_iff.mp read
  -- What stands between the year and the offset does not matter.
  iterate 4 obtain ⟨_, -, read⟩ := Option.bind_eq_some_iff.mp read
  dsimp only at read
  split at read
  · split at read
    · iterate 7 obtain ⟨_, -, read⟩ := Option.bind_eq_some_iff.mp read
      obtain ⟨offset, offsetRead, read⟩ := Option.bind_eq_some_iff.mp read
      obtain ⟨date, named, read⟩ := Option.bind_eq_some_iff.mp read
      obtain ⟨time, -, same⟩ := Option.bind_eq_some_iff.mp read
      cases same
      have small := readNumber_lt yearRead
      unfold Date.ofYmd? at named
      split at named
      · cases named
        exact ⟨_, _, ⟨Int.natCast_nonneg year, by dsimp only; omega⟩,
          (isOffset_of_readOffset offsetRead).neg, rfl⟩
      · cases named
    · cases read
  · cases read

theorem DateContext.inCalendar_wallClock {context : DateContext} (within : context.IsWithinDay)
    {text : List Char} {instant : Instant} (read : Instant.ofIso? text = some instant) :
    (context.wallClock instant).date.InCalendar := by
  obtain ⟨clock, offset, small, isOffset, rfl⟩ := Instant.exists_of_ofIso? read
  have first := clock.dayNumber_shift isOffset
  have second := (clock.shift offset).dayNumber_shift (within.offsetAt ⟨clock.shift offset⟩)
  rw [context.wallClock_eq_shift]
  apply (Date.IsInterior.of_isFourDigitYear small).inCalendar_of_near
  dsimp only
  omega

theorem inCalendar_of_named? {year : Int} {month day : Nat} {date : Date}
    (named : Date.named? year month day = some date) : date.InCalendar :=
  (named?_eq_some_iff.mp named).inCalendar

theorem inCalendar_of_resolveShortYear? {short : Int} {month day : Nat} {today date : Date}
    (resolved : resolveShortYear? short month day today = some date) : date.InCalendar := by
  unfold resolveShortYear? at resolved
  split at resolved
  · cases resolved
  · rename_i named isNamed
    split at resolved
    · exact inCalendar_of_named? resolved
    · cases resolved
      exact inCalendar_of_named? isNamed

theorem inCalendar_of_readLooseDate {text rest : List Char} {date : Date}
    (read : readLooseDate text = some (date, rest)) : date.InCalendar := by
  simp only [readLooseDate, Option.bind_eq_bind, Option.bind_eq_some_iff] at read
  obtain ⟨⟨year, _⟩, -, _, -, ⟨month, _⟩, -, _, -, ⟨day, _⟩, -, named, isNamed, same⟩ := read
  cases same
  exact inCalendar_of_named? isNamed

theorem WallClock.date_of_ofHourMinute? {date : Date} {text : List Char} {clock : WallClock}
    (read : ofHourMinute? date text = some clock) : clock.date = date := by
  unfold ofHourMinute? at read
  split at read
  · obtain ⟨time, -, rfl⟩ := Option.map_eq_some_iff.mp read
    rfl
  · cases read

theorem WallClock.date_of_ofClock? {date : Date} {text : List Char} {clock : WallClock}
    (read : ofClock? date text = some clock) : clock.date = date := by
  simp only [ofClock?, Option.bind_eq_bind, Option.bind_eq_some_iff] at read
  obtain ⟨⟨⟨hour, minute⟩, _⟩, -, _, -, ⟨second, _⟩, -, read⟩ := read
  split at read
  · obtain ⟨time, -, rfl⟩ := Option.map_eq_some_iff.mp read
    rfl
  · cases read

theorem WallClock.inCalendar_of_ofLoose? {text : List Char} {clock : WallClock}
    (read : ofLoose? text = some clock) : clock.date.InCalendar := by
  unfold ofLoose? at read
  split at read
  · cases read
  · rename_i date rest found
    have inCalendar := inCalendar_of_readLooseDate found
    split at read
    · rw [Option.orElse_eq_orElse, Option.orElse_eq_or, Option.or_eq_some_iff] at read
      rcases read with seconds | ⟨-, minutes⟩
      · rw [date_of_ofClock? seconds]
        exact inCalendar
      · rw [date_of_ofHourMinute? minutes]
        exact inCalendar
    · rw [date_of_ofHourMinute? read]
      exact inCalendar

theorem Date.inCalendar_of_ofLoose? {text : List Char} {date : Date}
    (read : ofLoose? text = some date) : date.InCalendar := by
  unfold ofLoose? at read
  split at read
  · rename_i found
    cases read
    exact inCalendar_of_readLooseDate found
  · cases read

namespace DateText

variable {text : List Char} {printed : PrintedDate}

theorem Parts.inCalendar_of_resolve? {parts : Parts} {today : Date}
    (resolved : parts.resolve? today = some printed) : printed.date.InCalendar := by
  simp only [resolve?, Option.bind_eq_bind, Option.bind_eq_some_iff] at resolved
  obtain ⟨day, -, month, -, date, named, same⟩ := resolved
  cases same
  exact inCalendar_of_named? named

theorem inCalendar_of_relative? {today : Date} (small : IsFourDigitYear today.year)
    (read : relative? text today = some printed) : printed.date.InCalendar := by
  have interior := Date.IsInterior.of_isFourDigitYear small
  have tomorrow : today.next.InCalendar := by
    have next := today.dayNumber_next
    exact interior.inCalendar_of_near (by omega)
  simp only [relative?, Option.orElse_eq_orElse, Option.orElse_eq_or, Option.or_eq_some_iff,
    Option.map_eq_some_iff] at read
  rcases read with ⟨rest, -, rfl⟩ | ⟨-, ⟨rest, -, rfl⟩ | ⟨-, rest, -, rfl⟩⟩
  · exact interior.inCalendar
  · exact interior.inCalendar
  · exact tomorrow

theorem inCalendar_of_weekdayDayMonth? {today : Date}
    (read : weekdayDayMonth? text today = some printed) : printed.date.InCalendar := by
  simp only [weekdayDayMonth?, Option.bind_eq_bind, Option.bind_eq_some_iff] at read
  obtain ⟨⟨name, rest⟩, -, parts, -, resolved⟩ := read
  split at resolved
  · exact Parts.inCalendar_of_resolve? resolved
  · cases resolved

theorem inCalendar_of_dayMonth? {today : Date} (read : dayMonth? text today = some printed) :
    printed.date.InCalendar := by
  obtain ⟨parts, -, resolved⟩ := Option.bind_eq_some_iff.mp read
  exact Parts.inCalendar_of_resolve? resolved

theorem inCalendar_of_compact? {today : Date} (read : compact? text today = some printed) :
    printed.date.InCalendar := by
  simp only [compact?, Option.bind_eq_bind, Option.bind_eq_some_iff] at read
  obtain ⟨parts, -, day, -, month, -, digits, -, year, -, read⟩ := read
  split at read
  · obtain ⟨date, resolved, same⟩ := Option.bind_eq_some_iff.mp read
    cases same
    exact inCalendar_of_resolveShortYear? resolved
  · obtain ⟨date, named, same⟩ := Option.bind_eq_some_iff.mp read
    cases same
    exact inCalendar_of_named? named

theorem inCalendar_of_explicitYear? {doors : Option (List Char)}
    (read : explicitYear? text doors = some printed) : printed.date.InCalendar := by
  simp only [explicitYear?, Option.bind_eq_bind, Option.bind_eq_some_iff] at read
  obtain ⟨parts, -, day, -, month, -, year, -, date, named, same⟩ := read
  cases same
  exact inCalendar_of_named? named

theorem inCalendar_of_iso? {context : DateContext} (within : context.IsWithinDay)
    (read : iso? text context = some printed) : printed.date.InCalendar := by
  unfold iso? at read
  dsimp only at read
  split at read
  · rename_i timestamp
    cases read
    exact DateContext.inCalendar_wallClock within timestamp
  · split at read
    · rename_i clock
      cases read
      exact WallClock.inCalendar_of_ofLoose? clock
    · obtain ⟨date, loose, rfl⟩ := Option.map_eq_some_iff.mp read
      exact Date.inCalendar_of_ofLoose? loose

theorem inCalendar_of_auto? {context : DateContext} (small : IsFourDigitYear context.today.year)
    (within : context.IsWithinDay) (read : auto? text context = some printed) :
    printed.date.InCalendar := by
  simp only [auto?, Option.orElse_eq_orElse, Option.orElse_eq_or, Option.or_eq_some_iff] at read
  rcases read with relative | ⟨-, iso | ⟨-, compact | ⟨-, weekday | ⟨-, day⟩⟩⟩⟩
  · exact inCalendar_of_relative? small relative
  · exact inCalendar_of_iso? within iso
  · exact inCalendar_of_compact? compact
  · exact inCalendar_of_weekdayDayMonth? weekday
  · exact inCalendar_of_dayMonth? day

end DateText

theorem DateFormat.inCalendar_of_read? {format : DateFormat} {context : DateContext}
    (small : IsFourDigitYear context.today.year) (within : context.IsWithinDay) {text : List Char}
    {time : Option (List Char)} {printed : PrintedDate}
    (read : format.read? text time context = some printed) : printed.date.InCalendar := by
  unfold read? at read
  cases format with
  | auto => exact DateText.inCalendar_of_auto? small within read
  | relative => exact DateText.inCalendar_of_relative? small read
  | weekdayDayMonth => exact DateText.inCalendar_of_weekdayDayMonth? read
  | dayMonth => exact DateText.inCalendar_of_dayMonth? read
  | compact => exact DateText.inCalendar_of_compact? read
  | explicitYear => exact DateText.inCalendar_of_explicitYear? read
  | iso => exact DateText.inCalendar_of_iso? within read

theorem DateFormat.inCalendar_of_parse {format : DateFormat} {context : DateContext}
    (small : IsFourDigitYear context.today.year) (within : context.IsWithinDay) {text : String}
    {time : Option String} {printed : PrintedDate}
    (parsed : format.parse text time context = .ok printed) : printed.date.InCalendar := by
  simp only [parse] at parsed
  split at parsed
  · rename_i first read
    cases parsed
    change first.date.InCalendar
    exact inCalendar_of_read? small within read
  · cases parsed

namespace FormatRegistry

/-- Every name is that of a built-in format or of its alias. -/
def HoldsBuiltin (registry : FormatRegistry) : Prop :=
  ∀ name reader, registry.get? name = some reader → ∃ format : DateFormat, reader = format.parse

theorem holdsBuiltin_builtin : builtin.HoldsBuiltin := by
  intro name reader found
  have member := Dict.mem_of_mem_ofList (Dict.mem_of_get? found)
  obtain ⟨format, -, same⟩ := List.mem_map.mp member
  cases same
  exact ⟨format, rfl⟩

theorem HoldsBuiltin.addAliases {registry extended : FormatRegistry}
    (holds : registry.HoldsBuiltin) {aliases : Dict String}
    (added : registry.addAliases aliases = .ok extended) : extended.HoldsBuiltin := by
  induction aliases generalizing registry with
  | nil =>
      cases added
      exact holds
  | cons entry rest induction =>
      obtain ⟨name, target⟩ := entry
      obtain ⟨format, found, added⟩ := addAliases_cons_eq_ok added
      apply induction _ added
      intro other reader registered
      rw [get?_register] at registered
      split at registered
      · cases registered
        exact holds target format found
      · exact holds other reader registered

variable {registry : FormatRegistry} {context : DateContext}

theorem HoldsBuiltin.inCalendar_of_parse (holds : registry.HoldsBuiltin)
    (small : IsFourDigitYear context.today.year) (within : context.IsWithinDay)
    {format : Option String} {text : String} {time : Option String} {printed : PrintedDate}
    (parsed : registry.parse format text time context = .ok printed) :
    printed.date.InCalendar := by
  simp only [parse] at parsed
  split at parsed
  · rename_i reader found
    obtain ⟨format, rfl⟩ := holds _ reader found
    exact DateFormat.inCalendar_of_parse small within parsed
  · cases parsed

/-- Reading a date never leads out of the calendar. -/
theorem HoldsBuiltin.checkedParse_eq_ok (holds : registry.HoldsBuiltin)
    (small : IsFourDigitYear context.today.year) (within : context.IsWithinDay)
    (format : Option String) (text : String) (time : Option String) :
    registry.checkedParse format text time context =
      .ok (registry.parse format text time context) := by
  rw [checkedParse_eq]
  cases parsed : registry.parse format text time context with
  | ok printed => exact if_pos (holds.inCalendar_of_parse small within parsed)
  | error fault => rfl

end FormatRegistry

namespace PrintedDate

/-- A time of the last hour of the calendar's last day that the venue's clock does not show before
the calendar ends. -/
def IsCutOff (printed : PrintedDate) (context : DateContext) : Prop :=
  printed.date = Date.lastDay ∧ ∃ time ∈ printed.time, 23 ≤ time.hour ∧
    ∀ instant : Instant, instant.utc.date.InCalendar →
      context.wallClock instant ≠ ⟨printed.date, time⟩

variable {printed : PrintedDate} {context : DateContext}

theorem completes_checkedIso_iff (ordered : context.IsOrdered) (within : context.IsWithinDay)
    (inCalendar : printed.date.InCalendar) :
    Completes (printed.checkedIso context) ↔ ¬printed.IsCutOff context := by
  rw [checkedIso_eq, completes_map_iff, checkedInstant_eq]
  cases timed : printed.time with
  | none =>
      refine ⟨?_, fun _ => completes_ok _⟩
      rintro - ⟨-, time, isTime, -⟩
      rw [timed] at isTime
      cases isTime
  | some time =>
      dsimp only
      rw [DateContext.completes_checkedInstant_iff ordered within inCalendar, not_iff_not]
      constructor
      · rintro ⟨last, late, unseen⟩
        exact ⟨last, time, timed, late, unseen⟩
      · rintro ⟨last, other, isTime, late, unseen⟩
        rw [timed] at isTime
        cases isTime
        exact ⟨last, late, unseen⟩

theorem checkedIso_eq_ok (within : context.IsWithinDay) (interior : printed.date.IsInterior) :
    printed.checkedIso context = .ok (printed.iso context) := by
  rw [checkedIso_eq, checkedInstant_eq, iso_eq, instant_eq]
  cases printed.time with
  | none => rfl
  | some time =>
      dsimp only
      rw [DateContext.checkedInstant_eq_ok within interior]
      rfl

end PrintedDate

namespace Transform

/-- A range on the calendar's last day that ends on the next. -/
def EndsBeyond (date : Date) (text : String) : Prop :=
  date = Date.lastDay ∧ ∃ start finish, TimeText.range? text.toList = some (start, some finish) ∧
    finish.hour < start.hour

theorem inCalendar_timeOn?_iff {date : Date} (inCalendar : date.InCalendar) {text : String}
    {isEnd : Bool} {dated : PrintedDate} (found : timeOn? date text isEnd = some dated) :
    dated.date.InCalendar ↔ ¬(isEnd = true ∧ EndsBeyond date text) := by
  simp only [timeOn?, Option.bind_eq_bind, Option.bind_eq_some_iff] at found
  obtain ⟨⟨start, finish⟩, range, found⟩ := found
  split at found
  · rename_i isEndTime
    obtain ⟨finish, rfl, rfl⟩ := Option.map_eq_some_iff.mp found
    rw [endDate]
    split
    · rename_i earlier
      rw [Date.next_inCalendar_iff inCalendar]
      constructor
      · rintro different ⟨-, last, -⟩
        exact different last
      · intro notBeyond last
        exact notBeyond ⟨isEndTime, last, start, finish, range, earlier⟩
    · rename_i notEarlier
      refine ⟨?_, fun _ => inCalendar⟩
      rintro - ⟨-, -, other, ends, sameRange, earlier⟩
      rw [range] at sameRange
      cases sameRange
      exact notEarlier earlier
  · rename_i isStart
    cases found
    refine ⟨?_, fun _ => inCalendar⟩
    rintro - ⟨isEndTime, -⟩
    exact isStart isEndTime

theorem EndsBeyond.exists_timeOn? {date : Date} {text : String} (beyond : EndsBeyond date text) :
    ∃ dated, timeOn? date text true = some dated := by
  obtain ⟨-, start, finish, range, -⟩ := beyond
  rw [timeOn?, range]
  exact ⟨_, rfl⟩

/-- A time that is put on a date comes to a timestamp unless it ends on the day behind the calendar
or the calendar ends before it. -/
theorem completes_timeOn?_iff {context : DateContext} (ordered : context.IsOrdered)
    (within : context.IsWithinDay) {date : Date} (inCalendar : date.InCalendar) (text : String)
    (isEnd : Bool) :
    (∀ dated, timeOn? date text isEnd = some dated →
        dated.date.InCalendar ∧ Completes (dated.checkedIso context)) ↔
      ¬(isEnd = true ∧ EndsBeyond date text) ∧
        ∀ dated, timeOn? date text isEnd = some dated → ¬dated.IsCutOff context := by
  constructor
  · intro completes
    constructor
    · rintro ⟨rfl, beyond⟩
      obtain ⟨dated, found⟩ := beyond.exists_timeOn?
      exact (inCalendar_timeOn?_iff inCalendar found).mp (completes dated found).1 ⟨rfl, beyond⟩
    · intro dated found
      obtain ⟨datedInCalendar, completed⟩ := completes dated found
      exact (PrintedDate.completes_checkedIso_iff ordered within datedInCalendar).mp completed
  · rintro ⟨notBeyond, notCutOff⟩ dated found
    have datedInCalendar := (inCalendar_timeOn?_iff inCalendar found).mpr notBeyond
    exact ⟨datedInCalendar, (PrintedDate.completes_checkedIso_iff ordered within
      datedInCalendar).mpr (notCutOff dated found)⟩

section Context

variable {context : TransformContext} (holds : context.formats.HoldsBuiltin)
  (small : IsFourDigitYear context.dates.today.year) (within : context.dates.IsWithinDay)
include holds small within

theorem completes_checkedDate_iff (ordered : context.dates.IsOrdered) (text : String)
    (args : Args) :
    Completes (parseDate.checkedApply text args context) ↔
      ∀ printed, context.formats.parse (args.text? "format") text (args.text? "time")
        context.dates = .ok printed → ¬printed.IsCutOff context.dates := by
  rw [checkedApply_parseDate, holds.checkedParse_eq_ok small within]
  cases parsed : context.formats.parse (args.text? "format") text (args.text? "time")
      context.dates with
  | error fault =>
      refine ⟨?_, fun _ => completes_ok none⟩
      rintro - printed ⟨⟩
  | ok printed =>
      have prints : Completes ((printed.checkedIso context.dates).map some) ↔
          ¬printed.IsCutOff context.dates := by
        rw [completes_map_iff, PrintedDate.completes_checkedIso_iff ordered within
          (holds.inCalendar_of_parse small within parsed)]
      refine prints.trans ?_
      constructor
      · rintro notCutOff other ⟨⟩
        exact notCutOff
      · intro notCutOff
        exact notCutOff printed rfl

theorem completes_checkedDateTime_iff_timeOn? {args : Args} {dateText : String}
    {printed : PrintedDate} (date : args.text? "date" = some dateText)
    (parsed : context.formats.parse (args.text? "format") dateText none context.dates =
      .ok printed) (text : String) :
    Completes (dateTime.checkedApply text args context) ↔
      ∀ dated, timeOn? printed.date text (args.flag "isEndTime") = some dated →
        dated.date.InCalendar ∧ Completes (dated.checkedIso context.dates) := by
  rw [checkedApply_dateTime, date]
  dsimp only
  rw [holds.checkedParse_eq_ok small within, parsed, completes_ok_bind_iff]
  dsimp only
  cases timeOn? printed.date text (args.flag "isEndTime") with
  | none =>
      refine ⟨?_, fun _ => completes_ok none⟩
      rintro - dated ⟨⟩
  | some dated =>
      dsimp only
      rw [completes_checkedOn_bind_iff, completes_map_iff]
      constructor
      · rintro completes other ⟨⟩
        exact completes
      · intro completes
        exact completes dated rfl

theorem completes_checkedDateTime_iff (ordered : context.dates.IsOrdered) (text : String)
    (args : Args) :
    Completes (dateTime.checkedApply text args context) ↔
      ∀ dateText printed, args.text? "date" = some dateText →
        context.formats.parse (args.text? "format") dateText none context.dates = .ok printed →
          ¬(args.flag "isEndTime" = true ∧ EndsBeyond printed.date text) ∧
          ∀ dated, timeOn? printed.date text (args.flag "isEndTime") = some dated →
            ¬dated.IsCutOff context.dates := by
  cases date : args.text? "date" with
  | none =>
      rw [checkedApply_dateTime, date]
      refine ⟨?_, fun _ => completes_ok none⟩
      rintro - dateText printed ⟨⟩
  | some dateText =>
      cases parsed : context.formats.parse (args.text? "format") dateText none context.dates with
      | error fault =>
          rw [checkedApply_dateTime, date]
          dsimp only
          rw [holds.checkedParse_eq_ok small within, parsed]
          refine ⟨?_, fun _ => completes_ok none⟩
          rintro - other printed ⟨⟩ same
          rw [parsed] at same
          cases same
      | ok printed =>
          rw [completes_checkedDateTime_iff_timeOn? holds small within date parsed,
            completes_timeOn?_iff ordered within (holds.inCalendar_of_parse small within parsed)]
          constructor
          · rintro completes other sameDate ⟨⟩ same
            rw [parsed] at same
            cases same
            exact completes
          · intro completes
            exact completes dateText printed rfl parsed

end Context

/-- In whatever format a date is read, no sum leads out of the calendar, and away from its first and
last year a date is printed as if there were no end. All that cannot be completed is on the last
day: a time that the calendar cuts off, and a range that ends on the day behind it. -/
theorem completes_checkedApply_iff {aliases : Dict String} {context : TransformContext}
    (registered : FormatRegistry.ofAliases aliases = .ok context.formats)
    (small : IsFourDigitYear context.dates.today.year) (ordered : context.dates.IsOrdered)
    (within : context.dates.IsWithinDay) :
    (∀ format text time,
      context.formats.checkedParse format text time context.dates =
        .ok (context.formats.parse format text time context.dates)) ∧
    (∀ format text time printed,
      context.formats.parse format text time context.dates = .ok printed →
        printed.date.InCalendar ∧
        (Completes (printed.checkedIso context.dates) ↔ ¬printed.IsCutOff context.dates) ∧
        (printed.date.IsInterior →
          printed.checkedIso context.dates = .ok (printed.iso context.dates))) ∧
    ∀ text args,
      (Completes (parseDate.checkedApply text args context) ↔
        ∀ printed, context.formats.parse (args.text? "format") text (args.text? "time")
          context.dates = .ok printed → ¬printed.IsCutOff context.dates) ∧
      (Completes (dateTime.checkedApply text args context) ↔
        ∀ dateText printed, args.text? "date" = some dateText →
          context.formats.parse (args.text? "format") dateText none context.dates = .ok printed →
            ¬(args.flag "isEndTime" = true ∧ EndsBeyond printed.date text) ∧
            ∀ dated, timeOn? printed.date text (args.flag "isEndTime") = some dated →
              ¬dated.IsCutOff context.dates) := by
  have holds := FormatRegistry.holdsBuiltin_builtin.addAliases registered
  refine ⟨holds.checkedParse_eq_ok small within, fun format text time printed parsed => ?_,
    fun text args => ⟨?_, ?_⟩⟩
  · have inCalendar := holds.inCalendar_of_parse small within parsed
    exact ⟨inCalendar, PrintedDate.completes_checkedIso_iff ordered within inCalendar,
      PrintedDate.checkedIso_eq_ok within⟩
  · exact completes_checkedDate_iff holds small within ordered text args
  · exact completes_checkedDateTime_iff holds small within ordered text args

/-- In Paris, an hour ahead, the last half hour of the calendar is not cut off. -/
theorem completes_checkedApply_iff_lastHour :
    Completes (parseDate.checkedApply "+262142-12-31T23:30:00" [] paris) := by
  have within : paris.dates.IsWithinDay := by
    rintro zone ⟨⟩
    decide
  have parsed : FormatRegistry.builtin.parse none "+262142-12-31T23:30:00" none paris.dates =
      .ok ⟨Date.lastDay, some ⟨84600, 0, by decide, by decide⟩⟩ := by decide +kernel
  obtain ⟨-, -, applies⟩ :=
    @completes_checkedApply_iff [] paris rfl (by decide) isOrdered_paris within
  refine (applies _ _).1.mpr ?_
  intro printed same
  cases parsed.symm.trans same
  rintro ⟨-, time, ⟨⟩, -, unseen⟩
  exact unseen ⟨⟨Date.lastDay, ⟨81000, 0, by decide, by decide⟩⟩⟩ (by decide) (by decide +kernel)

/-- The end of a range that crosses midnight on the calendar's last day, and the last half hour of
that day five hours behind universal time, are not completed. -/
theorem checkedApply_eq_error_lastDay :
    dateTime.checkedApply "20:00 - 02:00"
        [("date", .str "+262142-12-31"), ("isEndTime", .bool true)] unzoned =
      .error .leftCalendar ∧
    parseDate.checkedApply "+262142-12-31T23:30:00" []
        ⟨"https://venue.example", ⟨⟨2025, 3, 1, by decide⟩, some ⟨-18000, []⟩⟩, .builtin⟩ =
      .error .leftCalendar := by
  constructor
  · decide +kernel
  · decide +kernel

end Transform

end GigListings
