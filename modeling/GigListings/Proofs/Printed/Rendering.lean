import GigListings.Proofs.Printed.DayAndMonth

namespace GigListings

open Text

/-! Dates as they are printed: `Wed. 13th Aug 2025, 19:30` with its parts spelled in many ways. -/

namespace Date

def IsBefore (date : Date) (year : Int) (month day : Nat) : Prop :=
  date.year < year ∨ date.year = year ∧ (date.month < month ∨ date.month = month ∧ date.day < day)

instance (date : Date) (year : Int) (month day : Nat) : Decidable (date.IsBefore year month day) :=
  inferInstanceAs (Decidable (_ ∨ _))

/-- Whether a date lies in the twelve months that start today. -/
def IsInYearFrom (date today : Date) : Prop :=
  ¬date.IsBefore today.year today.month today.day ∧
    date.IsBefore (today.year + 1) today.month today.day

instance (date today : Date) : Decidable (date.IsInYearFrom today) :=
  inferInstanceAs (Decidable (_ ∧ _))

theorem IsInYearFrom.inferYear {date today : Date} (near : date.IsInYearFrom today) :
    inferYear date.month date.day today = date.year := by
  simp only [IsInYearFrom, IsBefore] at near
  unfold GigListings.inferYear
  split <;> omega

end Date

namespace DateText

structure Gap where
  chars : List Char
  isGap : IsGap chars

structure PrintedWeekday where
  name : List Char
  listed : name ∈ weekdays
  printed : Abbreviation name
  gap : Gap

structure PrintedTime where
  gap : Gap
  time : TimeOfDay
  whole : time.IsWholeMinute

/-- How a date is printed: perhaps behind a weekday, which need not be its own, perhaps with its
year, and perhaps with a time. -/
structure Rendering (date : Date) where
  weekday : Option PrintedWeekday
  day : DayNumeral date.day
  monthGap : Gap
  month : Abbreviation (monthName date.month)
  yearGap : Option Gap
  clock : Option PrintedTime

namespace Rendering

variable {date : Date}

def time (printed : Rendering date) : Option TimeOfDay := printed.clock.map (·.time)

/-- The year and the time, each behind its gap. -/
def behindMonth (printed : Rendering date) : List (List Char × List Char) :=
  (printed.yearGap.map fun gap => (gap.chars, padded 4 date.year.toNat)).toList ++
    (printed.clock.map fun clock => (clock.gap.chars, clock.time.hourMinuteChars)).toList

def behindDay (printed : Rendering date) : List (List Char × List Char) :=
  (printed.monthGap.chars, printed.month.chars) :: printed.behindMonth

def chars (printed : Rendering date) : List Char :=
  match printed.weekday with
  | some weekday =>
      spaced weekday.printed.chars
        ((weekday.gap.chars, printed.day.chars) :: printed.behindDay)
  | none => spaced printed.day.chars printed.behindDay

variable (printed : Rendering date)

def year : Option Nat := printed.yearGap.map fun _ => date.year.toNat

/-- The normal form of what is printed behind the weekday. -/
def normalDay : List Char :=
  padded printed.day.width date.day ++
    ' ' :: monthTail printed.month.word printed.month.point printed.year printed.time

theorem allSpaced_behindMonth : ∀ next ∈ printed.behindMonth, IsGap next.1 ∧ IsPart next.2 := by
  intro next member
  rcases List.mem_append.mp member with year | timed
  · obtain ⟨gap, -, rfl⟩ := Option.map_eq_some_iff.mp (Option.mem_toList.mp year)
    exact ⟨gap.isGap, (isPart_padded 4 _).1⟩
  · obtain ⟨clock, -, rfl⟩ := Option.map_eq_some_iff.mp (Option.mem_toList.mp timed)
    exact ⟨clock.gap.isGap, (isPart_hourMinuteChars clock.time).1⟩

theorem month_mem (date : Date) : monthName date.month ∈ names :=
  List.mem_append_right weekdays (monthName_mem (Date.month_bounds date.isDay))

theorem allSpaced_behindDay :
    AllSpaced IsPart IsGap printed.day.chars printed.behindDay := by
  refine ⟨(printed.day.isPart date.day_lt).1, ?_⟩
  rw [behindDay, List.forall_mem_cons]
  exact ⟨⟨printed.monthGap.isGap, (printed.month.isPart (month_mem date)).1⟩,
    printed.allSpaced_behindMonth⟩

theorem spaced_behindDay :
    spaced (normalPart printed.day.chars)
        (printed.behindDay.map fun next => ([' '], normalPart next.2)) = printed.normalDay := by
  have day := (printed.day.isPart date.day_lt).2
  have month := (printed.month.isPart (month_mem date)).2
  have year := (isPart_padded 4 date.year.toNat).2
  rw [normalDay, behindDay, behindMonth, Rendering.year, time, List.map_cons, day, month]
  cases printed.yearGap <;> cases printed.clock <;>
    simp [spaced, monthTail, timeTail, year, (isPart_hourMinuteChars _).2]

theorem exists_dayThenMonth?_normalDay (years : 1000 ≤ date.year ∧ date.year ≤ 9999)
    {today : Date} (dated : printed.yearGap.isSome ∨ date.IsInYearFrom today) :
    ∃ parts, dayThenMonth? printed.normalDay = some parts ∧
      parts.resolve? today = some ⟨date, printed.time⟩ := by
  have number : (date.year.toNat : Int) = date.year := Int.toNat_of_nonneg (by omega)
  have small : ∀ year ∈ printed.year, year < 10 ^ 4 := by
    intro year member
    obtain ⟨gap, -, rfl⟩ := Option.map_eq_some_iff.mp member
    omega
  have whole : ∀ clock ∈ printed.time, clock.IsWholeMinute := by
    intro time member
    obtain ⟨clock, -, rfl⟩ := Option.map_eq_some_iff.mp member
    exact clock.whole
  have short : (padded printed.day.width date.day).length ≤ 2 := by
    have lengths : ∀ width ∈ [1, 2], ∀ day < 100, (padded width day).length ≤ 2 := by
      decide +kernel
    exact lengths _ printed.day.narrow _ date.day_lt
  obtain ⟨rest, read, timed⟩ := dayThenMonth?_monthTail (padded_ne_nil _ _) short
    (fun _ => isAsciiDigit_of_mem_padded) printed.month.word_ne_nil
    (printed.month.isAsciiLower_of_mem_word (month_mem date)) printed.month.point small whole
  refine ⟨_, read, resolve?_of_read ?_ (number?_padded _ _)
    (month?_word (Date.month_bounds date.isDay) printed.month) ?_ ?_ timed⟩
  · simp only [Date.InCalendar, Date.firstYear, Date.lastYear]
    omega
  · rw [year]
    cases gap : printed.yearGap with
    | some yearGap => exact number
    | none =>
        rw [gap] at dated
        exact (dated.resolve_left (by simp)).inferYear
  · cases printedYear : printed.year with
    | some number => exact year?_padded (small number printedYear)
    | none => rfl

theorem startsWithDigit_normalDay : StartsWithDigit printed.normalDay := by
  obtain ⟨c, others, written, digit⟩ := exists_padded_eq_cons printed.day.width date.day
  have start : printed.normalDay = c :: (others ++
      ' ' :: monthTail printed.month.word printed.month.point printed.year printed.time) := by
    rw [normalDay, written, List.cons_append]
  exact ⟨c, _, start, isDigit_of_isAsciiDigit digit⟩

theorem normalize_weekday {weekday : PrintedWeekday} (found : printed.weekday = some weekday) :
    normalize printed.chars =
      weekday.printed.word ++ (pointChars weekday.printed.point ++ ' ' :: printed.normalDay) := by
  have name := weekday.printed.isPart (List.mem_append_left months weekday.listed)
  have all : AllSpaced IsPart IsGap weekday.printed.chars
      ((weekday.gap.chars, printed.day.chars) :: printed.behindDay) := by
    refine ⟨name.1, ?_⟩
    rw [List.forall_mem_cons]
    exact ⟨⟨weekday.gap.isGap, printed.allSpaced_behindDay.1⟩, printed.allSpaced_behindDay.2⟩
  rw [chars, found]
  refine (normalize_spaced all).trans ?_
  rw [List.map_cons, spaced, name.2, spaced_behindDay, List.append_assoc]
  rfl

theorem normalize_bare (bare : printed.weekday = none) :
    normalize printed.chars = printed.normalDay := by
  rw [chars, bare]
  exact (normalize_spaced printed.allSpaced_behindDay).trans printed.spaced_behindDay

theorem leadingWord?_weekday (weekday : PrintedWeekday) :
    leadingWord? (weekday.printed.word ++
        (pointChars weekday.printed.point ++ ' ' :: printed.normalDay)) =
      some (weekday.printed.word, printed.normalDay) := by
  have stops : ∀ c ∈ (pointChars weekday.printed.point ++ ' ' :: printed.normalDay).head?,
      isAsciiLower c = false := by
    cases weekday.printed.point <;> rintro _ ⟨⟩ <;> rfl
  have worded := word?_append weekday.printed.word_ne_nil
    (weekday.printed.isAsciiLower_of_mem_word (List.mem_append_left months weekday.listed)) stops
  have behindPoint : skipOne (· == '.')
      (pointChars weekday.printed.point ++ ' ' :: printed.normalDay) =
        ' ' :: printed.normalDay := by
    cases weekday.printed.point <;> rfl
  have blanks : afterBlanks? (' ' :: printed.normalDay) = some printed.normalDay :=
    congrArg some (skipBlanks_padded printed.day.width date.day _)
  simp only [leadingWord?, worded, behindPoint, blanks, Option.bind_eq_bind, Option.bind_some]
  rfl

theorem relative?_weekday {weekday : PrintedWeekday} (found : printed.weekday = some weekday)
    (today : Date) : relative? printed.chars today = none := by
  refine relative?_eq_none (fun begins => ?_) today
  obtain ⟨rest, normal⟩ := begins.exists_to
  have others : ∀ name ∈ weekdays, name.take 2 ≠ ['t', 'o'] := by decide
  refine others weekday.name weekday.listed ?_
  have long := weekday.printed.long
  have first : weekday.printed.word.take 2 = weekday.name.take 2 := by
    rw [weekday.printed.word_eq_take, List.take_take, Nat.min_eq_left (by omega)]
  have enough : 2 ≤ weekday.printed.word.length := by
    rw [Abbreviation.word, List.length_map]
    omega
  rw [normalize_weekday printed found] at normal
  have start := congrArg (List.take 2) normal
  rw [List.take_append_of_le_length enough, first] at start
  exact start

theorem relative?_bare (bare : printed.weekday = none) (today : Date) :
    relative? printed.chars today = none := by
  refine relative?_eq_none (fun begins => ?_) today
  obtain ⟨rest, normal⟩ := begins.exists_to
  obtain ⟨c, others, start, digit⟩ := printed.startsWithDigit_normalDay
  rw [normalize_bare printed bare, start] at normal
  obtain ⟨rfl, -⟩ := List.cons.inj normal
  exact absurd digit (by decide)

end Rendering

/-- Printed dates are read back, whatever the spelling of their parts. If the year is not printed,
this holds of dates in the twelve months that start today. -/
theorem auto?_chars_rendering {date : Date} (years : 1000 ≤ date.year ∧ date.year ≤ 9999)
    (printed : Rendering date) {context : DateContext}
    (dated : printed.yearGap.isSome ∨ date.IsInYearFrom context.today) :
    auto? printed.chars context = some ⟨date, printed.time⟩ := by
  obtain ⟨parts, read, resolved⟩ := printed.exists_dayThenMonth?_normalDay years dated
  cases found : printed.weekday with
  | some weekday =>
      refine auto?_of_weekdayDayMonth? (printed.relative?_weekday found _) ?_
      simp only [weekdayDayMonth?, printed.normalize_weekday found, printed.leadingWord?_weekday,
        read, isWeekday_word weekday.listed weekday.printed, if_true, Option.bind_eq_bind,
        Option.bind_some]
      exact resolved
  | none =>
      have normal := printed.normalize_bare found
      have starts : StartsWithDigit (normalize printed.chars) := by
        rw [normal]
        exact printed.startsWithDigit_normalDay
      refine auto?_of_dayMonth? (printed.relative?_bare found _) starts ?_
      rw [dayMonth?_of_startsWithDigit starts, normal, read]
      exact resolved

/-- A noon of the following year, as `WED., 14th  jan.,12:00`. -/
def januaryNoon : Rendering ⟨2026, 1, 14, by decide⟩ where
  weekday := some
    { name := "wednesday".toList
      listed := by decide
      printed := ⟨"WED".toList, true, by decide, by decide⟩
      gap := ⟨", ".toList, by decide, by decide⟩ }
  day := ⟨2, by decide, "th".toList, by decide⟩
  monthGap := ⟨"  ".toList, by decide, by decide⟩
  month := ⟨"jan".toList, true, by decide, by decide⟩
  yearGap := none
  clock := some
    { gap := ⟨",".toList, by decide, by decide⟩
      time := .noon
      whole := ⟨rfl, rfl⟩ }

theorem auto?_chars_januaryNoon :
    januaryNoon.chars = "WED., 14th  jan.,12:00".toList ∧
      auto? januaryNoon.chars ⟨⟨2025, 8, 13, by decide⟩, none⟩ =
        some ⟨⟨2026, 1, 14, by decide⟩, some .noon⟩ :=
  ⟨by decide +kernel, auto?_chars_rendering (by decide) januaryNoon (.inr (by decide))⟩

end DateText

end GigListings
