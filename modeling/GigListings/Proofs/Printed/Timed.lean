import GigListings.Proofs.Printed.RangeEnd
import GigListings.Proofs.Printed.TrailingRange

namespace GigListings

open Text

/-! Dates with a time, as timestamps. A wall clock that the venue has is put at its first instant,
and is read again from the timestamp of that instant. -/

namespace DateContext

variable {context : DateContext}

theorem nanos_wallClock (context : DateContext) (instant : Instant) :
    (context.wallClock instant).time.nanos = instant.utc.time.nanos := by
  rw [wallClock_eq_shift]
  rfl

theorem instant_wallClock_first (ordered : context.IsOrdered) (instant : Instant) :
    context.wallClock (context.instant (context.wallClock instant)) = context.wallClock instant ∧
      (context.instant (context.wallClock instant)).seconds ≤ instant.seconds := by
  obtain ⟨today, zone⟩ := context
  cases zone with
  | none => exact ⟨rfl, Int.le_refl _⟩
  | some zone =>
      obtain ⟨first, found, before, -⟩ := zone.exists_earliest? instant
      have shows := Zone.wallClock_of_earliest? (ordered zone rfl) found
      simp only [DateContext.instant_eq, wallClock, Zone.instant_eq, found]
      exact ⟨shows, before⟩

end DateContext

namespace TimeOfDay

/-- A time without parts of a millisecond, and no leap second. -/
def IsWholeMilli (time : TimeOfDay) : Prop :=
  time.nanos < nanosPerSecond ∧ time.nanos % 1000000 = 0

instance (time : TimeOfDay) : Decidable time.IsWholeMilli := inferInstanceAs (Decidable (_ ∧ _))

theorem IsWholeMilli.ofClock? {time : TimeOfDay} (whole : time.IsWholeMilli) :
    TimeOfDay.ofClock? time.hour time.minute time.second (time.millis * 1000000) = some time := by
  obtain ⟨seconds, nanos, seconds_lt, nanos_lt⟩ := time
  obtain ⟨noLeap, whole⟩ := whole
  simp only [nanosPerSecond, secondsPerDay] at noLeap whole seconds_lt
  have places : seconds / 3600 < 24 ∧ seconds / 60 % 60 < 60 := by omega
  have second : seconds % 60 + nanos / 1000000000 = seconds % 60 := by omega
  have same : seconds / 3600 * 3600 + seconds / 60 % 60 * 60 + seconds % 60 = seconds := by omega
  have fraction : nanos % 1000000000 / 1000000 * 1000000 = nanos := by
    rw [Nat.mod_eq_of_lt noLeap]
    exact Nat.div_mul_cancel (Nat.dvd_of_mod_eq_zero whole)
  have early : seconds % 60 < 60 := Nat.mod_lt _ (by decide)
  simp only [hour, minute, TimeOfDay.second, millis, nanosPerSecond, second, fraction,
    ofClock?_of_lt places early, same, ofSeconds?]
  exact dif_pos ⟨seconds_lt, nanos_lt⟩

end TimeOfDay

theorem Instant.ofIso?_iso_of_wholeMilli {instant : Instant} (small : IsFourDigitYear instant.year)
    (whole : instant.utc.time.IsWholeMilli) :
    ofIso? (trim instant.iso.toList) = some instant := by
  rw [iso, String.toList_ofList, trim_isoChars]
  exact ofIso?_isoChars_of_clock small whole.ofClock?

namespace PrintedDate

/-- A time that the venue's clock shows on a day belongs to the first instant that shows it, and is
read back with its day from the timestamp, whatever time is printed apart. -/
theorem parse_iso_of_occurs {context : DateContext} (ordered : context.IsOrdered)
    {printed : PrintedDate} {time : TimeOfDay} (timed : printed.time = some time)
    (whole : time.IsWholeMilli)
    (occurs : ∃ instant, context.wallClock instant = ⟨printed.date, time⟩)
    (small : IsFourDigitYear (printed.instant context).year) :
    context.wallClock (printed.instant context) = ⟨printed.date, time⟩ ∧
      (∀ instant, context.wallClock instant = ⟨printed.date, time⟩ →
        (printed.instant context).seconds ≤ instant.seconds) ∧
      ∀ hint, DateFormat.iso.parse (printed.iso context) hint context = .ok printed := by
  have place : printed.instant context = context.instant ⟨printed.date, time⟩ := by
    rw [instant_eq, timed]
  have first : ∀ instant, context.wallClock instant = ⟨printed.date, time⟩ →
      context.wallClock (printed.instant context) = ⟨printed.date, time⟩ ∧
        (printed.instant context).seconds ≤ instant.seconds := by
    intro instant shows
    have least := DateContext.instant_wallClock_first ordered instant
    rw [shows] at least
    rw [place]
    exact least
  obtain ⟨shown, shows⟩ := occurs
  have reading := (first shown shows).1
  refine ⟨reading, fun instant shows => (first instant shows).2, fun hint => ?_⟩
  have wholeUtc : (printed.instant context).utc.time.IsWholeMilli := by
    have nanos := context.nanos_wallClock (printed.instant context)
    rw [reading] at nanos
    rw [TimeOfDay.IsWholeMilli, ← nanos]
    exact whole
  have timestamp := Instant.ofIso?_iso_of_wholeMilli small wholeUtc
  have read : DateText.iso? (printed.iso context).toList context = some printed := by
    rw [iso_eq, DateText.iso?_of_ofIso? timestamp, DateText.shown, reading, ← timed]
  have kept : printed.orTime ((hint.map String.toList).bind TimeText.time?) = printed := by
    rw [orTime, timed, Option.some_or, ← timed]
  simp only [DateFormat.parse, DateFormat.read?, read, kept]

/-- In Paris half past two comes twice on the last Sunday of October. -/
theorem parse_iso_of_occurs_october :
    paris.dates.wallClock ((PrintedDate.mk ⟨2025, 10, 26, by decide⟩
        (some ⟨9015, 250000000, by decide, by decide⟩)).instant paris.dates) =
      ⟨⟨2025, 10, 26, by decide⟩, ⟨9015, 250000000, by decide, by decide⟩⟩ ∧
    DateFormat.iso.parse "2025-10-26T00:30:15.250Z" none paris.dates =
      .ok ⟨⟨2025, 10, 26, by decide⟩, some ⟨9015, 250000000, by decide, by decide⟩⟩ := by
  have winter : paris.dates.wallClock
      ⟨⟨⟨2025, 10, 26, by decide⟩, ⟨5415, 250000000, by decide, by decide⟩⟩⟩ =
        ⟨⟨2025, 10, 26, by decide⟩, ⟨9015, 250000000, by decide, by decide⟩⟩ := by
    decide +kernel
  obtain ⟨reading, -, read⟩ := @parse_iso_of_occurs paris.dates isOrdered_paris
    ⟨⟨2025, 10, 26, by decide⟩, some ⟨9015, 250000000, by decide, by decide⟩⟩ _ rfl (by decide)
    ⟨_, winter⟩ (by decide +kernel)
  have printed : (PrintedDate.mk ⟨2025, 10, 26, by decide⟩
      (some ⟨9015, 250000000, by decide, by decide⟩)).iso paris.dates =
        "2025-10-26T00:30:15.250Z" := by decide +kernel
  have readBack := read none
  rw [printed] at readBack
  exact ⟨reading, readBack⟩

end PrintedDate

/-! Dates and times that are printed apart. However a time is put on a date, the timestamp is the
same: as the date's hint, as the hint's own start printed anew, or the other way round. -/

namespace TimeText

theorem time?_hourMinuteChars {time : TimeOfDay} (whole : time.IsWholeMinute) :
    time? time.hourMinuteChars = some time := by
  obtain ⟨a, b, c, d, hour, minute, printed⟩ := exists_hourMinute time
  have chars : time.hourMinuteChars = a :: ([b, ':', c] ++ [d]) := by
    rw [TimeOfDay.hourMinuteChars, hour, minute]
    rfl
  have alone := noSeparator_hourMinuteChars time
  have read : single? time.hourMinuteChars = some time :=
    DateText.single?_hourMinuteChars whole (.inl rfl)
  have first : isAsciiDigit a = true := printed.digits a (by simp)
  have last : isAsciiDigit d = true := printed.digits d (by simp)
  have noDoors : foldChar a ≠ 'd' := of_isAsciiDigit (foldChar · ≠ 'd') (by decide) first
  rw [chars] at alone read ⊢
  rw [time?_eq_single? (isBlank_of_isAsciiDigit first) (isBlank_of_isAsciiDigit last) noDoors
    alone]
  exact read

theorem isWholeMinute_of_time? {text : List Char} {time : TimeOfDay}
    (read : time? text = some time) : time.IsWholeMinute :=
  isWholeMinute_of_rangeStart? read

theorem exists_range?_of_time? {text : List Char} {time : TimeOfDay}
    (read : time? text = some time) : ∃ finish, range? text = some (time, finish) := by
  rw [time?] at read
  rw [range?]
  exact ⟨_, Option.map_eq_some_iff.mpr ⟨time, read, rfl⟩⟩

end TimeText

/-- A hint applies to a date without a time, also where it would win over one. -/
theorem DateFormat.parse_of_dateOnly {format : DateFormat} {text hint : String}
    {context : DateContext} {date : Date} {time : TimeOfDay}
    (dateOnly : format.parse text none context = .ok ⟨date, none⟩)
    (timed : TimeText.time? hint.toList = some time) :
    format.parse text (some hint) context = .ok ⟨date, some time⟩ := by
  obtain ⟨first, read, sameDate⟩ := exists_read?_of_parse dateOnly
  obtain ⟨clock, alone, isFirst, -⟩ := parse_of_read? read none
  have untimed : first.time = none := by
    rw [dateOnly] at alone
    rw [← isFirst rfl]
    exact (congrArg PrintedDate.time (Except.ok.inj alone)).symm
  obtain ⟨clock, parsed, -, applies⟩ := parse_of_read? read (some hint)
  rw [parsed, applies untimed, Option.bind_some, timed, sameDate]

namespace Transform

end Transform

end GigListings
