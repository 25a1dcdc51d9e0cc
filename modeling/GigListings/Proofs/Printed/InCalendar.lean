import GigListings.Proofs.Calendar.Earliest
import GigListings.Proofs.Except
import GigListings.Proofs.Printed.RangeEnd
import GigListings.Proofs.Printed.Year
import GigListings.Transform.Basic

namespace GigListings

/-! Sums within the calendar. A clock is set by less than a day, so that no sum leads out of the
calendar but from one of its last hours. -/

namespace Date

def firstDay : Date := ⟨firstYear, 1, 1, by decide⟩

def lastDay : Date := ⟨lastYear, 12, 31, by decide⟩

theorem day_le (date : Date) : date.day ≤ 31 := by
  have most := ((isDay_iff (month_bounds date.isDay)).mp date.isDay).2.1
  simp only [marchLength] at most
  omega

theorem dayNumber_eq_iff {a b : Date} : a.dayNumber = b.dayNumber ↔ a = b :=
  ⟨dayNumber_inj, congrArg dayNumber⟩

theorem inCalendar_iff {date : Date} : date.InCalendar ↔
    firstDay.dayNumber ≤ date.dayNumber ∧ date.dayNumber ≤ lastDay.dayNumber := by
  change date.InCalendar ↔ firstDay ≤ date ∧ date ≤ lastDay
  have month := month_bounds date.isDay
  have days := date.day_le
  obtain ⟨day, -⟩ := date.isDay
  rw [le_iff_not_isBefore, le_iff_not_isBefore]
  simp only [InCalendar, IsBefore, firstDay, lastDay]
  omega

/-- Whether the calendar has the years before and behind a date's as well. -/
def IsInterior (date : Date) : Prop := firstYear < date.year ∧ date.year < lastYear

theorem IsInterior.inCalendar {date : Date} (interior : date.IsInterior) : date.InCalendar :=
  ⟨le_of_lt interior.1, le_of_lt interior.2⟩

theorem IsInterior.of_isFourDigitYear {date : Date} (small : IsFourDigitYear date.year) :
    date.IsInterior :=
  ⟨lt_of_lt_of_le (by decide) small.1, lt_of_le_of_lt small.2 (by decide)⟩

/-- Around such a date the calendar has more than three hundred days either way. -/
theorem IsInterior.dayNumber_bounds {date : Date} (interior : date.IsInterior) :
    firstDay.dayNumber + 364 < date.dayNumber ∧ date.dayNumber + 364 < lastDay.dayNumber := by
  have behind : (Date.mk firstYear 12 31 (by decide)).dayNumber < date.dayNumber :=
    dayNumber_lt_of_isBefore (.inl interior.1)
  have before : date.dayNumber < (Date.mk lastYear 1 1 (by decide)).dayNumber :=
    dayNumber_lt_of_isBefore (.inl interior.2)
  have firstNumber :
      (Date.mk firstYear 12 31 (by decide)).dayNumber = firstDay.dayNumber + 364 := by decide
  have lastNumber :
      (Date.mk lastYear 1 1 (by decide)).dayNumber = lastDay.dayNumber - 364 := by decide
  omega

theorem IsInterior.inCalendar_of_near {date other : Date} (interior : date.IsInterior)
    (near : date.dayNumber - 364 ≤ other.dayNumber ∧ other.dayNumber ≤ date.dayNumber + 364) :
    other.InCalendar := by
  have bounds := interior.dayNumber_bounds
  rw [inCalendar_iff]
  omega

theorem next_inCalendar_iff {date : Date} (inCalendar : date.InCalendar) :
    date.next.InCalendar ↔ date ≠ lastDay := by
  have next := date.dayNumber_next
  have bounds := inCalendar_iff.mp inCalendar
  rw [inCalendar_iff, ne_eq, ← dayNumber_eq_iff]
  omega

end Date

namespace WallClock

theorem inCalendar_iff (clock : WallClock) : clock.date.InCalendar ↔
    Date.firstDay.dayNumber * secondsPerDay ≤ clock.seconds ∧
      clock.seconds < (Date.lastDay.dayNumber + 1) * secondsPerDay := by
  have within := clock.time.seconds_lt
  rw [Date.inCalendar_iff]
  simp only [seconds, secondsPerDay] at within ⊢
  omega

theorem seconds_hourLater (clock : WallClock) : clock.hourLater.seconds = clock.seconds + 3600 :=
  seconds_ofSeconds _ _ _

theorem hourLater_inCalendar_iff {clock : WallClock} (inCalendar : clock.date.InCalendar) :
    clock.hourLater.date.InCalendar ↔ ¬(clock.date = Date.lastDay ∧ 23 ≤ clock.time.hour) := by
  have bounds := clock.inCalendar_iff.mp inCalendar
  have within := clock.time.seconds_lt
  rw [inCalendar_iff, seconds_hourLater, ← Date.dayNumber_eq_iff]
  simp only [seconds, secondsPerDay, TimeOfDay.hour] at bounds within ⊢
  omega

end WallClock

/-- How far a clock may be ahead of universal time or behind it: by less than a day. -/
def IsOffset (seconds : Int) : Prop := -secondsPerDay < seconds ∧ seconds < secondsPerDay

instance (seconds : Int) : Decidable (IsOffset seconds) := inferInstanceAs (Decidable (_ ∧ _))

theorem IsOffset.neg {offset : Int} (isOffset : IsOffset offset) : IsOffset (-offset) := by
  simp only [IsOffset] at isOffset ⊢
  omega

theorem WallClock.dayNumber_shift {clock : WallClock} {offset : Int} (isOffset : IsOffset offset) :
    clock.date.dayNumber - 1 ≤ (clock.shift offset).date.dayNumber ∧
      (clock.shift offset).date.dayNumber ≤ clock.date.dayNumber + 1 := by
  have total := clock.seconds_shift offset
  have before := clock.time.seconds_lt
  have behind := (clock.shift offset).time.seconds_lt
  simp only [IsOffset, seconds, secondsPerDay] at *
  omega

section Completes

variable {α β : Type}

/-- Whether a computation comes to its end, because none of its sums leads out of the calendar. -/
def Completes (result : Except CalendarFault α) : Prop := ∃ value, result = .ok value

theorem completes_ok (value : α) : Completes (.ok value) := ⟨value, rfl⟩

theorem completes_ok_bind_iff {value : α} {next : α → Except CalendarFault β} :
    Completes (.ok value >>= next) ↔ Completes (next value) := Iff.rfl

theorem completes_map_iff {result : Except CalendarFault α} {f : α → β} :
    Completes (result.map f) ↔ Completes result := by
  simp only [Completes, Except.map_eq_ok]
  constructor
  · rintro ⟨-, value, found, -⟩
    exact ⟨value, found⟩
  · rintro ⟨value, found⟩
    exact ⟨_, value, found, rfl⟩

theorem completes_checkedOn_bind_iff {date : Date} {value : α} {next : α → Except CalendarFault β} :
    Completes (checkedOn date value >>= next) ↔ date.InCalendar ∧ Completes (next value) := by
  by_cases inCalendar : date.InCalendar
  · rw [checkedOn, if_pos inCalendar, and_iff_right inCalendar]
    exact Iff.rfl
  · rw [checkedOn, if_neg inCalendar]
    refine ⟨?_, fun both => absurd both.1 inCalendar⟩
    rintro ⟨value, ⟨⟩⟩

end Completes

namespace Zone

/-- No clock of the zone is ever off by a day. -/
def IsWithinDay (zone : Zone) : Prop :=
  IsOffset zone.initial ∧
    ∀ change ∈ zone.changes, IsOffset change.offset

instance (zone : Zone) : Decidable zone.IsWithinDay := inferInstanceAs (Decidable (_ ∧ _))

theorem isOffset_offsetAfter {offset : Int} (seconds : Int) {changes : List ZoneChange}
    (initial : IsOffset offset) (later : ∀ change ∈ changes, IsOffset change.offset) :
    IsOffset (offsetAfter offset seconds changes) := by
  induction changes generalizing offset with
  | nil => exact initial
  | cons change rest induction =>
      rw [offsetAfter]
      split
      · exact initial
      · exact induction (later change List.mem_cons_self)
          fun next member => later next (List.mem_cons_of_mem _ member)

theorem isOffset_of_localOffset? {seconds offset found : Int} {start : Option Int}
    {changes : List ZoneChange} (initial : IsOffset offset)
    (later : ∀ change ∈ changes, IsOffset change.offset)
    (equation : localOffset? seconds start offset changes = some found) :
    IsOffset found := by
  induction changes generalizing start offset with
  | nil =>
      rw [localOffset?] at equation
      split at equation
      · cases equation
        exact initial
      · cases equation
  | cons change rest induction =>
      rw [localOffset?] at equation
      split at equation
      · cases equation
        exact initial
      · exact induction (later change List.mem_cons_self)
          (fun next member => later next (List.mem_cons_of_mem _ member)) equation

variable {zone : Zone} {clock : WallClock}

theorem IsWithinDay.exists_offset_of_earliest? (within : zone.IsWithinDay) {instant : Instant}
    (found : zone.earliest? clock = some instant) :
    ∃ offset, IsOffset offset ∧ instant = ⟨clock.shift offset⟩ := by
  obtain ⟨offset, equation, rfl⟩ := Option.map_eq_some_iff.mp found
  exact ⟨-offset, (isOffset_of_localOffset? within.1 within.2 equation).neg, rfl⟩

theorem IsWithinDay.earliest?_inCalendar (within : zone.IsWithinDay) {date : Date}
    (interior : date.IsInterior)
    (near : date.dayNumber ≤ clock.date.dayNumber ∧ clock.date.dayNumber ≤ date.dayNumber + 1)
    {instant : Instant} (found : zone.earliest? clock = some instant) :
    instant.utc.date.InCalendar := by
  obtain ⟨offset, isOffset, rfl⟩ := within.exists_offset_of_earliest? found
  have moved := clock.dayNumber_shift isOffset
  apply interior.inCalendar_of_near
  constructor
  · dsimp only
    omega
  · dsimp only
    omega

theorem earliestInCalendar?_eq_earliest? (inCalendar : ∀ instant, zone.earliest? clock =
    some instant → instant.utc.date.InCalendar) :
    zone.earliestInCalendar? clock = zone.earliest? clock := by
  rw [earliestInCalendar?_eq]
  cases found : zone.earliest? clock with
  | none => rfl
  | some instant => exact if_pos (decide_eq_true (inCalendar instant found))

theorem checkedInstant_eq_ok (within : zone.IsWithinDay) (interior : clock.date.IsInterior) :
    zone.checkedInstant clock = .ok (zone.instant clock) := by
  have hour : clock.date.dayNumber ≤ clock.hourLater.date.dayNumber ∧
      clock.hourLater.date.dayNumber ≤ clock.date.dayNumber + 1 := by
    have total := clock.seconds_hourLater
    have before := clock.time.seconds_lt
    have behind := clock.hourLater.time.seconds_lt
    simp only [WallClock.seconds, secondsPerDay] at *
    omega
  have same : zone.earliestInCalendar? clock = zone.earliest? clock :=
    earliestInCalendar?_eq_earliest? fun instant found =>
      within.earliest?_inCalendar interior ⟨Int.le_refl _, by omega⟩ found
  have sameLater : zone.earliestInCalendar? clock.hourLater = zone.earliest? clock.hourLater :=
    earliestInCalendar?_eq_earliest? fun instant found =>
      within.earliest?_inCalendar interior hour found
  have later : clock.hourLater.date.InCalendar := interior.inCalendar_of_near (by omega)
  rw [checkedInstant_eq, instant_eq, same]
  cases zone.earliest? clock with
  | some instant => rfl
  | none =>
      rw [checkedOn, if_pos later, ← sameLater]
      rfl

theorem completes_checkedInstant_iff (inCalendar : clock.date.InCalendar) :
    Completes (zone.checkedInstant clock) ↔
      ¬(clock.date = Date.lastDay ∧ 23 ≤ clock.time.hour ∧
        zone.earliestInCalendar? clock = none) := by
  rw [checkedInstant_eq]
  cases zone.earliestInCalendar? clock with
  | some instant =>
      refine ⟨?_, fun _ => completes_ok instant⟩
      rintro - ⟨-, -, ⟨⟩⟩
  | none =>
      rw [completes_checkedOn_bind_iff, WallClock.hourLater_inCalendar_iff inCalendar]
      constructor
      · rintro ⟨notLate, -⟩ ⟨last, late, -⟩
        exact notLate ⟨last, late⟩
      · intro notCutOff
        exact ⟨fun ⟨last, late⟩ => notCutOff ⟨last, late, rfl⟩, completes_ok _⟩

/-- On the calendar's last day a reading is put at none of its instants only if it has none. -/
theorem earliestInCalendar?_eq_none_iff (ordered : zone.IsOrdered) (within : zone.IsWithinDay)
    (last : clock.date = Date.lastDay) :
    zone.earliestInCalendar? clock = none ↔
      ∀ instant : Instant, instant.utc.date.InCalendar → zone.wallClock instant ≠ clock := by
  rw [earliestInCalendar?_eq, Option.filter_eq_none_iff]
  simp only [decide_eq_true_eq]
  constructor
  · intro outside instant inCalendar shows
    obtain ⟨first, found, before, -⟩ := zone.exists_earliest? instant
    rw [shows] at found
    obtain ⟨offset, isOffset, rfl⟩ := within.exists_offset_of_earliest? found
    have moved := clock.dayNumber_shift isOffset
    apply outside _ found
    have bounds := (WallClock.inCalendar_iff _).mp inCalendar
    have days : Date.firstDay.dayNumber + 1 ≤ Date.lastDay.dayNumber := by decide
    refine (WallClock.inCalendar_iff _).mpr ⟨?_, lt_of_le_of_lt before bounds.2⟩
    rw [last] at moved
    simp only [WallClock.seconds, secondsPerDay]
    omega
  · intro unseen instant found inCalendar
    exact unseen instant inCalendar (wallClock_of_earliest? ordered found)

end Zone

namespace DateContext

/-- No clock of the venue's zone is ever off by a day. -/
def IsWithinDay (context : DateContext) : Prop := ∀ zone ∈ context.zone, zone.IsWithinDay

variable {context : DateContext}

theorem IsWithinDay.offsetAt (within : context.IsWithinDay) (instant : Instant) :
    IsOffset (context.offsetAt instant) := by
  unfold DateContext.offsetAt
  cases isZone : context.zone with
  | none => exact (by decide : IsOffset 0)
  | some zone =>
      obtain ⟨initial, later⟩ := within zone isZone
      exact Zone.isOffset_offsetAfter _ initial later

theorem checkedInstant_eq_ok (within : context.IsWithinDay) {clock : WallClock}
    (interior : clock.date.IsInterior) :
    context.checkedInstant clock = .ok (context.instant clock) := by
  rw [checkedInstant_eq, instant_eq]
  cases isZone : context.zone with
  | none => rfl
  | some zone => exact Zone.checkedInstant_eq_ok (within zone isZone) interior

theorem completes_checkedInstant_iff (ordered : context.IsOrdered) (within : context.IsWithinDay)
    {clock : WallClock} (inCalendar : clock.date.InCalendar) :
    Completes (context.checkedInstant clock) ↔
      ¬(clock.date = Date.lastDay ∧ 23 ≤ clock.time.hour ∧
        ∀ instant : Instant, instant.utc.date.InCalendar → context.wallClock instant ≠ clock) := by
  rw [checkedInstant_eq]
  unfold wallClock
  cases isZone : context.zone with
  | none =>
      refine ⟨?_, fun _ => completes_ok _⟩
      rintro - ⟨-, -, unseen⟩
      exact unseen ⟨clock⟩ inCalendar rfl
  | some zone =>
      dsimp only
      rw [Zone.completes_checkedInstant_iff inCalendar, not_iff_not]
      refine and_congr_right fun last => and_congr_right fun _ => ?_
      exact Zone.earliestInCalendar?_eq_none_iff (ordered zone isZone) (within zone isZone) last

end DateContext

end GigListings
