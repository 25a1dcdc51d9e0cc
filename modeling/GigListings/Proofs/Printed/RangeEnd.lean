import GigListings.Proofs.Printed.Format
import GigListings.Proofs.Printed.Reread
import GigListings.Transform.Basic

namespace GigListings

open Text

/-! A date without a time stands for noon in universal time. The venue's clock shows its day at
that instant exactly if it is less than twelve hours ahead and at most twelve hours behind. -/

theorem Date.dayNumber_inj {a b : Date} (equal : a.dayNumber = b.dayNumber) : a = b := by
  rw [← Date.ofDayNumber_dayNumber a, equal, Date.ofDayNumber_dayNumber]

theorem WallClock.date_shift_eq_iff (clock : WallClock) (seconds : Int) :
    (clock.shift seconds).date = clock.date ↔
      0 ≤ clock.time.seconds + seconds ∧ clock.time.seconds + seconds < secondsPerDay := by
  have total := clock.seconds_shift seconds
  have within := (clock.shift seconds).time.seconds_lt
  simp only [WallClock.seconds, secondsPerDay] at total within ⊢
  constructor
  · intro same
    rw [same] at total
    omega
  · intro bounds
    apply Date.dayNumber_inj
    omega

namespace DateContext

def offsetAt (context : DateContext) (instant : Instant) : Int :=
  match context.zone with
  | some zone => zone.offsetAt instant
  | none => 0

theorem wallClock_eq_shift (context : DateContext) (instant : Instant) :
    context.wallClock instant = instant.utc.shift (context.offsetAt instant) := by
  unfold wallClock offsetAt
  cases context.zone with
  | none => exact (WallClock.shift_zero _).symm
  | some zone => rfl

end DateContext

namespace PrintedDate

variable {printed : PrintedDate}

theorem instant_of_dateOnly (dateOnly : printed.time = none) (context : DateContext) :
    printed.instant context = ⟨⟨printed.date, TimeOfDay.noon⟩⟩ := by
  rw [instant_eq, dateOnly]

theorem date_wallClock_eq_iff (dateOnly : printed.time = none) (context : DateContext) :
    (context.wallClock (printed.instant context)).date = printed.date ↔
      -43200 ≤ context.offsetAt (printed.instant context) ∧
        context.offsetAt (printed.instant context) < 43200 := by
  have noon : (printed.instant context).utc = ⟨printed.date, TimeOfDay.noon⟩ := by
    rw [instant_of_dateOnly dateOnly]
  have stays := (printed.instant context).utc.date_shift_eq_iff
    (context.offsetAt (printed.instant context))
  rw [context.wallClock_eq_shift]
  generalize context.offsetAt (printed.instant context) = offset at *
  rw [noon] at stays ⊢
  rw [stays]
  simp only [TimeOfDay.noon, secondsPerDay]
  omega

theorem ofIso?_iso_of_dateOnly (dateOnly : printed.time = none)
    (small : IsFourDigitYear printed.date.year) (context : DateContext) :
    Instant.ofIso? (trim (printed.iso context).toList) = some (printed.instant context) := by
  rw [iso_eq, Instant.iso, String.toList_ofList, Instant.trim_isoChars,
    instant_of_dateOnly dateOnly]
  have year : IsFourDigitYear (Instant.year ⟨⟨printed.date, TimeOfDay.noon⟩⟩) := small
  have noon : TimeOfDay.ofClock? TimeOfDay.noon.hour TimeOfDay.noon.minute TimeOfDay.noon.second
      (TimeOfDay.noon.millis * 1000000) = some TimeOfDay.noon := by decide
  exact Instant.ofIso?_isoChars_of_clock year noon

end PrintedDate

/-- The formats that read timestamps are known under their own names. -/
def FormatRegistry.ReadsTimestamps (registry : FormatRegistry) : Prop :=
  ∀ format : DateFormat, format = .auto ∨ format = .iso →
    registry.get? format.name = some format.parse

theorem FormatRegistry.ReadsTimestamps.parse {registry : FormatRegistry}
    (knows : registry.ReadsTimestamps) {format : DateFormat}
    (either : format = .auto ∨ format = .iso) {text : String} {instant : Instant}
    (read : Instant.ofIso? (trim text.toList) = some instant) (context : DateContext) :
    registry.parse (some format.name) text none context =
      .ok (DateText.shown context instant) := by
  rw [parse_of_get? (knows format either), DateFormat.read?_timestamp either read]

namespace Transform

theorem apply_dateTime_of_parse {args : Args} {context : TransformContext} {dateText : String}
    {printed : PrintedDate} (date : args.text? "date" = some dateText)
    (parsed : context.formats.parse (args.text? "format") dateText none context.dates =
      .ok printed) (text : String) :
    dateTime.apply text args context =
      (timeOn? printed.date text (args.flag "isEndTime")).map (·.iso context.dates) := by
  rw [apply_dateTime, date]
  dsimp only
  rw [parsed]

end Transform

/-- A date without a time is read from its timestamp, also behind a time that is put on it, as
the day that the venue's clock shows at noon in universal time. That is the printed day exactly
if the clock is less than twelve hours ahead and at most twelve hours behind. -/
theorem PrintedDate.exists_parse_iso_of_dateOnly {context : TransformContext}
    (knows : context.formats.ReadsTimestamps) {printed : PrintedDate}
    (dateOnly : printed.time = none) (small : IsFourDigitYear printed.date.year) :
    ∃ read : PrintedDate,
      read.date = (context.dates.wallClock (printed.instant context.dates)).date ∧
      (read.date = printed.date ↔
        -43200 ≤ context.dates.offsetAt (printed.instant context.dates) ∧
          context.dates.offsetAt (printed.instant context.dates) < 43200) ∧
      (∀ format : DateFormat, format = .auto ∨ format = .iso →
        context.formats.parse (some format.name) (printed.iso context.dates) none
          context.dates = .ok read) ∧
      ∀ (dateText : String) (dateArgs : Args),
        context.formats.parse (dateArgs.text? "format") dateText (dateArgs.text? "time")
          context.dates = .ok printed →
        ∃ output, Transform.parseDate.apply dateText dateArgs context = some output ∧
          ∀ args : Args, args.text? "date" = some output →
            (args.text? "format").getD "auto" ∈ ["auto", "iso"] →
            ∀ text, Transform.dateTime.apply text args context =
              (Transform.timeOn? read.date text (args.flag "isEndTime")).map
                (·.iso context.dates) := by
  have timestamp := ofIso?_iso_of_dateOnly dateOnly small context.dates
  have reads : ∀ format : DateFormat, format = .auto ∨ format = .iso →
      context.formats.parse (some format.name) (printed.iso context.dates) none context.dates =
        .ok (DateText.shown context.dates (printed.instant context.dates)) :=
    fun format either => knows.parse either timestamp context.dates
  refine ⟨DateText.shown context.dates (printed.instant context.dates), rfl,
    date_wallClock_eq_iff dateOnly context.dates, reads, ?_⟩
  intro dateText dateArgs parsed
  refine ⟨printed.iso context.dates, ?_, ?_⟩
  · rw [Transform.apply_parseDate, parsed]
  · intro args date format text
    have named : context.formats.parse (args.text? "format") (printed.iso context.dates) none
        context.dates =
          .ok (DateText.shown context.dates (printed.instant context.dates)) := by
      rw [FormatRegistry.parse]
      simp only [List.mem_cons, List.not_mem_nil, or_false] at format
      rcases format with auto | iso
      · rw [auto]
        exact reads .auto (Or.inl rfl)
      · rw [iso]
        exact reads .iso (Or.inr rfl)
    exact Transform.apply_dateTime_of_parse date named text

/-- A venue in Paris, an hour ahead in winter. -/
def paris : TransformContext where
  baseUrl := "https://venue.example"
  dates := ⟨⟨2025, 1, 1, by decide⟩, some ⟨3600, [⟨1743296400, 7200⟩, ⟨1761440400, 3600⟩]⟩⟩
  formats := .builtin

theorem isOrdered_paris : paris.dates.IsOrdered := by
  rintro zone ⟨⟩
  decide

theorem PrintedDate.exists_parse_iso_paris :
    ∃ read : PrintedDate, read.date = ⟨2025, 1, 15, by decide⟩ ∧
      FormatRegistry.builtin.parse (some "iso") "2025-01-15T12:00:00.000Z" none paris.dates =
        .ok read := by
  have knows : paris.formats.ReadsTimestamps := fun format _ => format.get?_builtin
  obtain ⟨read, -, sameDay, parsed, -⟩ :=
    @PrintedDate.exists_parse_iso_of_dateOnly paris knows ⟨⟨2025, 1, 15, by decide⟩, none⟩ rfl
      (by decide)
  exact ⟨read, sameDay.mpr (by decide +kernel), parsed .iso (Or.inr rfl)⟩

/-- A venue in Auckland, thirteen hours ahead in summer and twelve in winter. -/
def auckland : TransformContext where
  baseUrl := "https://venue.example"
  dates := ⟨⟨2025, 1, 1, by decide⟩, some ⟨46800, [⟨1743861600, 43200⟩, ⟨1758981600, 46800⟩]⟩⟩
  formats := .builtin

/-- The date 15 January, printed and read again in Auckland, is 16 January, and so is the start of
a gig whose time is put on it. -/
theorem PrintedDate.parse_iso_auckland_ne :
    Transform.parseDate.apply "15 January 2025" [] auckland = some "2025-01-15T12:00:00.000Z" ∧
      (∃ time, FormatRegistry.builtin.parse (some "iso") "2025-01-15T12:00:00.000Z" none
        auckland.dates = .ok ⟨⟨2025, 1, 16, by decide⟩, some time⟩) ∧
      Transform.dateTime.apply "19:00" [("date", .str "2025-01-15T12:00:00.000Z")] auckland =
        some "2025-01-16T06:00:00.000Z" := by
  refine ⟨by decide +kernel, ⟨⟨3600, 0, by decide, by decide⟩, by decide +kernel⟩, ?_⟩
  decide +kernel

/-! The two ends of a range on a date. The end is put on the next day if its hour comes earlier
than that of the start; minutes do not count. -/

def TimeOfDay.IsWholeMinute (time : TimeOfDay) : Prop := time.seconds % 60 = 0 ∧ time.nanos = 0

theorem TimeOfDay.isWholeMinute_of_ofHourMinute? {hour minute : Nat} {time : TimeOfDay}
    (read : ofHourMinute? hour minute = some time) : time.IsWholeMinute := by
  have zeroSeconds : 0 < 60 := by decide
  simp only [ofHourMinute?, ofClock?, if_pos zeroSeconds, ofSeconds?] at read
  split at read
  · split at read
    · cases read
      refine ⟨?_, rfl⟩
      dsimp only
      omega
    · cases read
  · cases read

namespace TimeText

theorem TwelveHour.isWholeMinute {printed : TwelveHour} {time : TimeOfDay}
    (read : printed.time? = some time) : time.IsWholeMinute := by
  simp only [time?, Option.bind_eq_bind, Option.bind_eq_some_iff] at read
  obtain ⟨hour, -, minute, -, read⟩ := read
  split at read
  · exact TimeOfDay.isWholeMinute_of_ofHourMinute? read
  · cases read

theorem TwentyFourHour.isWholeMinute {printed : TwentyFourHour} {time : TimeOfDay}
    (read : printed.time? = some time) : time.IsWholeMinute := by
  simp only [time?, Option.bind_eq_bind, Option.bind_eq_some_iff] at read
  obtain ⟨hour, -, minute, -, read⟩ := read
  exact TimeOfDay.isWholeMinute_of_ofHourMinute? read

theorem isWholeMinute_of_single? {text : List Char} {time : TimeOfDay}
    (read : single? text = some time) : time.IsWholeMinute := by
  unfold single? at read
  split at read
  · exact TwelveHour.isWholeMinute read
  · obtain ⟨printed, -, read⟩ := Option.bind_eq_some_iff.mp read
    exact TwentyFourHour.isWholeMinute read

theorem isWholeMinute_of_rangeStart? {start : List Char} {finish : Option (List Char)}
    {time : TimeOfDay} (read : rangeStart? start finish = some time) : time.IsWholeMinute := by
  unfold rangeStart? at read
  dsimp only at read
  split at read
  · exact isWholeMinute_of_single? read
  · exact isWholeMinute_of_single? read

theorem isWholeMinute_of_range? {text : List Char} {start finish : TimeOfDay}
    (read : range? text = some (start, some finish)) :
    start.IsWholeMinute ∧ finish.IsWholeMinute := by
  obtain ⟨time, startRead, ends⟩ := Option.map_eq_some_iff.mp read
  obtain ⟨rfl, finishRead⟩ := Prod.mk.inj ends
  obtain ⟨segment, -, finishRead⟩ := Option.bind_eq_some_iff.mp finishRead
  exact ⟨isWholeMinute_of_rangeStart? startRead, isWholeMinute_of_single? finishRead⟩

end TimeText

theorem Date.dayNumber_next (date : Date) : date.next.dayNumber = date.dayNumber + 1 :=
  dayNumber_ofDayNumber _

theorem Transform.endDate_cases (date : Date) (start finish : TimeOfDay) :
    (finish.hour < start.hour ∧
        (endDate date start finish).dayNumber = date.dayNumber + 1) ∨
      (start.hour ≤ finish.hour ∧ endDate date start finish = date) := by
  unfold endDate
  split
  · rename_i earlier
    exact .inl ⟨earlier, date.dayNumber_next⟩
  · rename_i notEarlier
    exact .inr ⟨Nat.not_lt.mp notEarlier, rfl⟩

namespace WallClock

/-- On one date, a range's end does not come before its start unless both fall into one hour. -/
theorem seconds_le_endDate_iff (date : Date) {start finish : TimeOfDay}
    (wholeStart : start.IsWholeMinute) (wholeFinish : finish.IsWholeMinute) :
    (WallClock.mk date start).seconds ≤
        (WallClock.mk (Transform.endDate date start finish) finish).seconds ↔
      ¬(finish.hour = start.hour ∧ finish.minute < start.minute) := by
  have startWithin := start.seconds_lt
  obtain ⟨startWhole, -⟩ := wholeStart
  obtain ⟨finishWhole, -⟩ := wholeFinish
  obtain ⟨earlier, nextDay⟩ | ⟨notEarlier, sameDay⟩ := Transform.endDate_cases date start finish
  · simp only [seconds, nextDay, TimeOfDay.hour, TimeOfDay.minute, secondsPerDay] at *
    omega
  · simp only [seconds, sameDay, TimeOfDay.hour, TimeOfDay.minute, secondsPerDay] at *
    omega

theorem seconds_lt_endDate_add (date : Date) (start finish : TimeOfDay) :
    (WallClock.mk date start).seconds <
      (WallClock.mk (Transform.endDate date start finish) finish).seconds + 3600 := by
  have startWithin := start.seconds_lt
  obtain ⟨earlier, nextDay⟩ | ⟨notEarlier, sameDay⟩ := Transform.endDate_cases date start finish
  · simp only [seconds, nextDay, secondsPerDay] at *
    omega
  · simp only [seconds, sameDay, TimeOfDay.hour, secondsPerDay] at *
    omega

end WallClock

namespace Transform

theorem exists_range?_of_timeOn? {date : Date} {text : String} {begins ends : PrintedDate}
    (started : timeOn? date text false = some begins)
    (ended : timeOn? date text true = some ends) :
    ∃ start finish, TimeText.range? text.toList = some (start, some finish) ∧
      begins = ⟨date, some start⟩ ∧ ends = ⟨endDate date start finish, some finish⟩ := by
  simp only [timeOn?, Option.bind_eq_bind, Option.bind_eq_some_iff] at started ended
  obtain ⟨⟨start, finish⟩, read, started⟩ := started
  obtain ⟨range, readAgain, ended⟩ := ended
  rw [read] at readAgain
  cases readAgain
  cases started
  obtain ⟨finish, rfl, rfl⟩ := Option.map_eq_some_iff.mp ended
  exact ⟨start, finish, read, rfl, rfl⟩

theorem exists_timeOn?_of_apply {context : TransformContext} {text output : String} {args : Args}
    (applied : dateTime.apply text args context = some output) :
    ∃ dateText printed read, args.text? "date" = some dateText ∧
      context.formats.parse (args.text? "format") dateText none context.dates = .ok printed ∧
      timeOn? printed.date text (args.flag "isEndTime") = some read ∧
      output = read.iso context.dates := by
  cases date : args.text? "date" with
  | none =>
      rw [apply_dateTime, date] at applied
      cases applied
  | some dateText =>
      cases parsed : context.formats.parse (args.text? "format") dateText none context.dates with
      | error fault =>
          simp only [apply_dateTime, date, parsed] at applied
          cases applied
      | ok printed =>
          rw [apply_dateTime_of_parse date parsed] at applied
          obtain ⟨read, dated, rfl⟩ := Option.map_eq_some_iff.mp applied
          exact ⟨dateText, printed, read, rfl, parsed, dated, rfl⟩

/-- The timestamps of a range's start and end, on one date and without a zone. The end comes
before the start exactly if both fall into one hour and its minute is less, and then by less than
an hour. -/
theorem dateTime_start_le_end_iff {context : TransformContext}
    (universal : context.dates.zone = none) {startArgs endArgs : Args}
    (sameDate : endArgs.text? "date" = startArgs.text? "date")
    (sameFormat : endArgs.text? "format" = startArgs.text? "format")
    (isStart : startArgs.flag "isEndTime" = false) (isEnd : endArgs.flag "isEndTime" = true)
    {text begins ends : String} (started : dateTime.apply text startArgs context = some begins)
    (ended : dateTime.apply text endArgs context = some ends) :
    ∃ (start finish : TimeOfDay) (first last : Instant),
      TimeText.range? text.toList = some (start, some finish) ∧
      begins = first.iso ∧ first.utc.time = start ∧ ends = last.iso ∧ last.utc.time = finish ∧
      first.utc.time.nanos = 0 ∧ last.utc.time.nanos = 0 ∧
      (first.seconds ≤ last.seconds ↔
        ¬(finish.hour = start.hour ∧ finish.minute < start.minute)) ∧
      first.seconds < last.seconds + 3600 := by
  obtain ⟨dateText, printed, startRead, date, parsed, startOn, rfl⟩ :=
    exists_timeOn?_of_apply started
  obtain ⟨endDateText, endPrinted, endRead, endDated, endParsed, endOn, rfl⟩ :=
    exists_timeOn?_of_apply ended
  rw [sameDate, date] at endDated
  cases endDated
  rw [sameFormat, parsed] at endParsed
  cases endParsed
  rw [isStart] at startOn
  rw [isEnd] at endOn
  obtain ⟨start, finish, range, rfl, rfl⟩ := exists_range?_of_timeOn? startOn endOn
  obtain ⟨wholeStart, wholeFinish⟩ := TimeText.isWholeMinute_of_range? range
  have inUniversal : ∀ (day : Date) (time : TimeOfDay),
      (PrintedDate.mk day (some time)).instant context.dates = ⟨⟨day, time⟩⟩ := by
    intro day time
    simp only [PrintedDate.instant_eq, DateContext.instant_eq, universal]
  refine ⟨start, finish, ⟨⟨printed.date, start⟩⟩,
    ⟨⟨endDate printed.date start finish, finish⟩⟩, range, ?_, rfl, ?_, rfl, wholeStart.2,
    wholeFinish.2, ?_, ?_⟩
  · rw [PrintedDate.iso_eq, inUniversal]
  · rw [PrintedDate.iso_eq, inUniversal]
  · exact WallClock.seconds_le_endDate_iff printed.date wholeStart wholeFinish
  · exact WallClock.seconds_lt_endDate_add printed.date start finish

/-- A venue of which no zone is known. -/
def unzoned : TransformContext where
  baseUrl := "https://venue.example"
  dates := ⟨⟨2025, 3, 1, by decide⟩, none⟩
  formats := .builtin

/-- A range across midnight ends on the next day. -/
theorem dateTime_start_le_end_midnight :
    ∃ first last : Instant, first.iso = "2025-08-13T20:00:00.000Z" ∧
      last.iso = "2025-08-14T02:00:00.000Z" ∧ first.seconds ≤ last.seconds := by
  obtain ⟨start, finish, first, last, range, begins, -, ends, -, -, -, inOrder, -⟩ :=
    @dateTime_start_le_end_iff unzoned rfl [("date", .str "2025-08-13")]
      [("date", .str "2025-08-13"), ("isEndTime", .bool true)] rfl rfl rfl rfl "20:00 - 02:00"
      "2025-08-13T20:00:00.000Z" "2025-08-14T02:00:00.000Z" (by decide +kernel)
      (by decide +kernel)
  have printed : TimeText.range? "20:00 - 02:00".toList =
      some (⟨72000, 0, by decide, by decide⟩, some ⟨7200, 0, by decide, by decide⟩) := by
    decide +kernel
  rw [printed] at range
  cases range
  exact ⟨first, last, begins.symm, ends.symm, inOrder.mpr (by decide)⟩

/-- A range that is printed backwards within one hour ends before it starts. -/
theorem dateTime_end_lt_start_backwards :
    ∃ first last : Instant,
      dateTime.apply "20:30 - 20:00" [("date", .str "2025-08-13")] unzoned = some first.iso ∧
      dateTime.apply "20:30 - 20:00" [("date", .str "2025-08-13"), ("isEndTime", .bool true)]
        unzoned = some last.iso ∧
      last.seconds < first.seconds := by
  refine ⟨⟨⟨2025, 8, 13, by decide⟩, ⟨73800, 0, by decide, by decide⟩⟩,
    ⟨⟨2025, 8, 13, by decide⟩, ⟨72000, 0, by decide, by decide⟩⟩, ?_, ?_, ?_⟩
  · decide +kernel
  · decide +kernel
  · decide +kernel

end Transform

end GigListings
