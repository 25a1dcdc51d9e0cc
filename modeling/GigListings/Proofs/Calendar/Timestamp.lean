import GigListings.Calendar.IsoText
import GigListings.Calendar.Instant
import GigListings.Proofs.Calendar.DayNumber
import GigListings.Proofs.Text.Blank
import GigListings.Proofs.Text.Numeral

namespace GigListings

open Text

/-! Timestamps as they are printed. Those of the years that four digits can write are read
back; a printed timestamp tells its instant to the millisecond. -/

theorem padded_inj {width a b : Nat} (equal : padded width a = padded width b) : a = b := by
  rw [← ofDigitChars_padded width a, equal, ofDigitChars_padded]

theorem exists_padded_eq_cons (width n : Nat) :
    ∃ c rest, padded width n = c :: rest ∧ isAsciiDigit c = true := by
  cases written : padded width n with
  | nil => exact absurd written (padded_ne_nil width n)
  | cons c rest =>
      have digit : c ∈ padded width n := by
        rw [written]
        simp
      exact ⟨c, rest, rfl, isAsciiDigit_of_mem_padded digit⟩

def yearSign (year : Int) : Char := if year < 0 then '-' else '+'

theorem yearSign_eq (year : Int) : yearSign year = '-' ∨ yearSign year = '+' := by
  unfold yearSign
  split
  · exact Or.inl rfl
  · exact Or.inr rfl

def IsFourDigitYear (year : Int) : Prop := 0 ≤ year ∧ year ≤ 9999

instance (year : Int) : Decidable (IsFourDigitYear year) := inferInstanceAs (Decidable (_ ∧ _))

theorem yearChars_of_isFourDigitYear {year : Int} (small : IsFourDigitYear year) :
    yearChars year = padded 4 year.toNat :=
  if_pos small

theorem yearChars_of_signed {year : Int} (signed : ¬IsFourDigitYear year) :
    yearChars year = yearSign year :: padded 4 year.natAbs :=
  if_neg signed

theorem exists_yearChars_eq_cons (year : Int) :
    ∃ c rest, yearChars year = c :: rest ∧ isNumeralStart c = true := by
  by_cases small : IsFourDigitYear year
  · obtain ⟨c, rest, written, digit⟩ := exists_padded_eq_cons 4 year.toNat
    exact ⟨c, rest, (yearChars_of_isFourDigitYear small).trans written,
      isNumeralStart_of_isAsciiDigit digit⟩
  · exact ⟨_, _, yearChars_of_signed small, isNumeralStart_of_sign (yearSign_eq year)⟩

theorem padded_ne_signed (width n : Nat) (year : Int) (rest : List Char) :
    padded width n ≠ yearSign year :: rest := by
  intro equal
  obtain ⟨c, others, written, digit⟩ := exists_padded_eq_cons width n
  have sign : c = yearSign year := (List.cons.inj (written.symm.trans equal)).1
  rw [sign] at digit
  rcases yearSign_eq year with minus | plus
  · rw [minus] at digit
    exact absurd digit (by decide)
  · rw [plus] at digit
    exact absurd digit (by decide)

theorem yearChars_inj {a b : Int} (equal : yearChars a = yearChars b) : a = b := by
  by_cases aSmall : IsFourDigitYear a <;> by_cases bSmall : IsFourDigitYear b
  · rw [yearChars_of_isFourDigitYear aSmall, yearChars_of_isFourDigitYear bSmall] at equal
    have same := padded_inj equal
    obtain ⟨aLeast, -⟩ := aSmall
    obtain ⟨bLeast, -⟩ := bSmall
    omega
  · rw [yearChars_of_isFourDigitYear aSmall, yearChars_of_signed bSmall] at equal
    exact absurd equal (padded_ne_signed 4 _ b _)
  · rw [yearChars_of_signed aSmall, yearChars_of_isFourDigitYear bSmall] at equal
    exact absurd equal.symm (padded_ne_signed 4 _ a _)
  · rw [yearChars_of_signed aSmall, yearChars_of_signed bSmall] at equal
    obtain ⟨sign, digits⟩ := List.cons.inj equal
    have same := padded_inj digits
    unfold yearSign at sign
    split at sign <;> split at sign
    · omega
    · exact absurd sign (by decide)
    · exact absurd sign (by decide)
    · omega

namespace Date

theorem day_lt (date : Date) : date.day < 10 ^ 2 := by
  have most := date.isDay.2
  unfold daysInMonth at most
  split at most <;> (try split at most) <;> omega

theorem month_lt (date : Date) : date.month < 10 ^ 2 := by
  have := (month_bounds date.isDay).2
  omega

theorem ofYmd?_self (date : Date) : ofYmd? date.year date.month date.day = some date := by
  rw [ofYmd?, dif_pos date.isDay]

theorem chars_inj {a b : Date} (equal : a.chars = b.chars) : a = b := by
  obtain ⟨aYear, aMonth, aDay, aIsDay⟩ := a
  obtain ⟨bYear, bMonth, bDay, bIsDay⟩ := b
  have aMonthLength : (padded 2 aMonth).length = 2 :=
    length_padded (by decide) (month_lt ⟨_, _, _, aIsDay⟩)
  have bMonthLength : (padded 2 bMonth).length = 2 :=
    length_padded (by decide) (month_lt ⟨_, _, _, bIsDay⟩)
  have aDayLength : (padded 2 aDay).length = 2 :=
    length_padded (by decide) (day_lt ⟨_, _, _, aIsDay⟩)
  have bDayLength : (padded 2 bDay).length = 2 :=
    length_padded (by decide) (day_lt ⟨_, _, _, bIsDay⟩)
  simp only [chars] at *
  obtain ⟨yearAndMonth, day⟩ := List.append_inj' equal (by simp [aDayLength, bDayLength])
  obtain ⟨year, month⟩ :=
    List.append_inj' yearAndMonth (by simp [aMonthLength, bMonthLength])
  have sameYear := yearChars_inj year
  have sameMonth := padded_inj (List.cons.inj month).2
  have sameDay := padded_inj (List.cons.inj day).2
  subst sameYear sameMonth sameDay
  rfl

end Date

namespace TimeOfDay

theorem hour_lt (time : TimeOfDay) : time.hour < 10 ^ 2 := by
  have bound := time.seconds_lt
  simp only [secondsPerDay] at bound
  simp only [hour]
  omega

theorem minute_lt (time : TimeOfDay) : time.minute < 10 ^ 2 := by
  simp only [minute]
  omega

theorem second_lt (time : TimeOfDay) : time.second < 10 ^ 2 := by
  have bound := time.nanos_lt
  simp only [second, nanosPerSecond] at *
  omega

theorem chars_inj {a b : TimeOfDay} (nanos : a.nanos = b.nanos) (equal : a.chars = b.chars) :
    a = b := by
  have minuteLengths : (padded 2 a.minute).length = (padded 2 b.minute).length := by
    rw [length_padded (by decide) a.minute_lt, length_padded (by decide) b.minute_lt]
  have secondLengths : (padded 2 a.second).length = (padded 2 b.second).length := by
    rw [length_padded (by decide) a.second_lt, length_padded (by decide) b.second_lt]
  obtain ⟨hourMinute, seconds⟩ := List.append_inj' equal (by simp [secondLengths])
  obtain ⟨hours, minutes⟩ := List.append_inj' hourMinute (by simp [minuteLengths])
  have sameHour := padded_inj hours
  have sameMinute := padded_inj (List.cons.inj minutes).2
  have sameSecond := padded_inj (List.cons.inj seconds).2
  obtain ⟨aSeconds, aNanos, _, _⟩ := a
  obtain ⟨bSeconds, bNanos, _, _⟩ := b
  simp only [hour, minute, second] at *
  subst nanos
  congr 1
  omega

theorem ofClock?_of_lt {hour minute second : Nat} (places : hour < 24 ∧ minute < 60)
    (early : second < 60) (nanos : Nat) :
    ofClock? hour minute second nanos =
      ofSeconds? (hour * 3600 + minute * 60 + second) nanos := by
  rw [ofClock?, if_pos places, if_pos early]

theorem ofClock?_leap {hour minute : Nat} (places : hour < 24 ∧ minute < 60) (nanos : Nat) :
    ofClock? hour minute 60 nanos =
      ofSeconds? (hour * 3600 + minute * 60 + 59) (nanos + nanosPerSecond) := by
  rw [ofClock?, if_pos places, if_neg (by decide), if_pos rfl]

def millis (time : TimeOfDay) : Nat := time.nanos % nanosPerSecond / 1000000

theorem millis_lt (time : TimeOfDay) : time.millis < 10 ^ 3 := by
  simp only [millis, nanosPerSecond]
  omega

theorem leap_nanos_lt {millis : Nat} (small : millis < 10 ^ 3) :
    millis * 1000000 + nanosPerSecond < 2 * nanosPerSecond := by
  simp only [nanosPerSecond]
  omega

theorem chars_congr {a b : TimeOfDay} (hour : a.hour = b.hour) (minute : a.minute = b.minute)
    (second : a.second = b.second) : a.chars = b.chars := by
  simp only [chars, hourMinuteChars, hour, minute, second]

/-- A printed time is read as one that prints alike. A leap second that is not at the end of a
minute is printed as the second after it. -/
theorem exists_ofClock?_chars (time : TimeOfDay) :
    ∃ printed, ofClock? time.hour time.minute time.second (time.millis * 1000000) = some printed ∧
      printed.chars = time.chars ∧ printed.millis = time.millis := by
  have places : time.hour < 24 ∧ time.minute < 60 := by
    have := time.seconds_lt
    simp only [secondsPerDay, hour, minute] at *
    omega
  have small := time.millis_lt
  have nanos_lt := time.nanos_lt
  have seconds_lt := time.seconds_lt
  simp only [nanosPerSecond, secondsPerDay] at nanos_lt seconds_lt
  have hour_eq : time.hour = time.seconds / 3600 := rfl
  have minute_eq : time.minute = time.seconds / 60 % 60 := rfl
  have second_eq : time.second = time.seconds % 60 + time.nanos / 1000000000 := rfl
  by_cases leap : time.second = 60
  · have whole : time.hour * 3600 + time.minute * 60 + 59 = time.seconds := by omega
    have fits := leap_nanos_lt time.millis_lt
    refine ⟨⟨time.seconds, _, time.seconds_lt, fits⟩, ?_, ?_, ?_⟩
    · rw [leap, ofClock?_leap places, whole, ofSeconds?, dif_pos ⟨time.seconds_lt, fits⟩]
    · refine chars_congr rfl rfl ?_
      simp only [second, nanosPerSecond] at leap ⊢
      omega
    · generalize time.millis = millis at *
      simp only [TimeOfDay.millis, nanosPerSecond]
      omega
  · have early : time.second < 60 := by omega
    have whole : time.hour * 3600 + time.minute * 60 + time.second < secondsPerDay := by
      simp only [secondsPerDay]
      omega
    have fits := lt_of_le_of_lt (Nat.le_add_right _ _) (leap_nanos_lt time.millis_lt)
    refine ⟨⟨_, _, whole, fits⟩, ?_, ?_, ?_⟩
    · rw [ofClock?_of_lt places early, ofSeconds?, dif_pos ⟨whole, fits⟩]
    · generalize time.hour = hour, time.minute = minute, time.second = second at *
      refine chars_congr ?_ ?_ ?_
      · simp only [TimeOfDay.hour]
        omega
      · simp only [TimeOfDay.minute]
        omega
      · simp only [TimeOfDay.second, nanosPerSecond]
        omega
    · generalize time.millis = millis at *
      simp only [TimeOfDay.millis, nanosPerSecond]
      omega

end TimeOfDay

namespace Instant

def year (instant : Instant) : Int := instant.utc.date.year

def clockChars (instant : Instant) : List Char :=
  padded 2 instant.utc.time.hour ++ ':' :: (padded 2 instant.utc.time.minute ++
    ':' :: (padded 2 instant.utc.time.second ++ '.' :: (padded 3 instant.utc.time.millis ++ ['Z'])))

def behindYear (instant : Instant) : List Char :=
  '-' :: (padded 2 instant.utc.date.month ++ '-' :: (padded 2 instant.utc.date.day ++
    'T' :: instant.clockChars))

theorem isoChars_eq (instant : Instant) :
    instant.isoChars = yearChars instant.year ++ instant.behindYear := by
  simp only [isoChars, Date.chars, TimeOfDay.chars, TimeOfDay.hourMinuteChars, behindYear,
    clockChars, year, List.append_assoc, List.cons_append]
  rfl

theorem isoChars_eq_chars_append (instant : Instant) :
    instant.isoChars = instant.utc.date.chars ++ 'T' :: instant.clockChars := by
  simp only [isoChars_eq, behindYear, Date.chars, year, List.append_assoc, List.cons_append]

theorem length_millisChars (instant : Instant) : instant.millisChars.length = 3 :=
  length_padded (by decide) instant.utc.time.millis_lt

theorem length_timeChars (time : TimeOfDay) : time.chars.length = 8 := by
  have hour := length_padded (by decide) time.hour_lt
  have minute := length_padded (by decide) time.minute_lt
  have second := length_padded (by decide) time.second_lt
  simp [TimeOfDay.chars, TimeOfDay.hourMinuteChars, hour, minute, second]

theorem isoChars_inj {a b : Instant} (nanos : a.utc.time.nanos = b.utc.time.nanos)
    (equal : a.isoChars = b.isoChars) : a = b := by
  have withoutZone := List.append_cancel_right equal
  obtain ⟨dateAndTime, -⟩ := List.append_inj' withoutZone
    (by simp [length_millisChars])
  obtain ⟨date, time⟩ := List.append_inj' dateAndTime (by simp [length_timeChars])
  have sameDate := Date.chars_inj date
  have sameTime := TimeOfDay.chars_inj nanos (List.cons.inj time).2
  obtain ⟨⟨aDate, aTime⟩⟩ := a
  obtain ⟨⟨bDate, bTime⟩⟩ := b
  simp only at sameDate sameTime
  rw [sameDate, sameTime]

theorem year_eq_of_isoChars {a b : Instant} (equal : a.isoChars = b.isoChars) :
    a.year = b.year := by
  have withoutZone := List.append_cancel_right equal
  obtain ⟨dateAndTime, -⟩ := List.append_inj' withoutZone
    (by simp [length_millisChars])
  obtain ⟨date, -⟩ := List.append_inj' dateAndTime (by simp [length_timeChars])
  exact congrArg Date.year (Date.chars_inj date)

theorem isoChars_of_iso {a b : Instant} (equal : a.iso = b.iso) : a.isoChars = b.isoChars :=
  String.ofList_injective equal

end Instant

theorem read_bind {α β : Type} {x : Option α} {a : α} {f : α → Option β} {y : Option β}
    (first : x = some a) (second : f a = y) : (x >>= f) = y := by
  rw [first]
  exact second

theorem readMark_self (mark : Char) (rest : List Char) : readMark mark (mark :: rest) = some rest :=
  if_pos rfl

theorem readNanos_millis {millis : Nat} (small : millis < 10 ^ 3) :
    readNanos ('.' :: (padded 3 millis ++ ['Z'])) = some (millis * 1000000, ['Z']) := by
  have length : (padded 3 millis).length = 3 := length_padded (by decide) small
  have digits : ∀ c ∈ padded 3 millis, isAsciiDigit c = true :=
    fun _ => isAsciiDigit_of_mem_padded
  have taken : takeUpTo isAsciiDigit 9 (padded 3 millis ++ ['Z']) = (padded 3 millis, ['Z']) :=
    takeUpTo_append_stop isAsciiDigit digits (by omega) (by decide)
  rw [readNanos, taken]
  cases written : padded 3 millis with
  | nil => exact absurd written (padded_ne_nil 3 millis)
  | cons c rest =>
      rw [written] at length
      have value := number?_padded 3 millis
      rw [written] at value
      simp only [value, length, Option.map_some]
      rfl

namespace Instant

theorem trim_isoChars (instant : Instant) : trim instant.isoChars = instant.isoChars := by
  obtain ⟨c, rest, written, start⟩ := exists_yearChars_eq_cons instant.year
  have split : instant.isoChars = c :: (rest ++ '-' :: (padded 2 instant.utc.date.month ++
      '-' :: (padded 2 instant.utc.date.day ++ 'T' :: (padded 2 instant.utc.time.hour ++
        ':' :: (padded 2 instant.utc.time.minute ++ ':' :: (padded 2 instant.utc.time.second ++
          '.' :: padded 3 instant.utc.time.millis)))))) ++ ['Z'] := by
    rw [isoChars_eq, written]
    simp only [behindYear, clockChars, List.cons_append, List.append_assoc]
  rw [split, List.cons_append]
  exact trim_eq_self (isBlank_of_isNumeralStart start) rfl

/-- A printed timestamp is read with the time that its printed time is read as. -/
theorem ofIso?_isoChars_of_clock {instant : Instant} (small : IsFourDigitYear instant.year)
    {time : TimeOfDay}
    (read : TimeOfDay.ofClock? instant.utc.time.hour instant.utc.time.minute
      instant.utc.time.second (instant.utc.time.millis * 1000000) = some time) :
    ofIso? instant.isoChars = some ⟨⟨instant.utc.date, time⟩⟩ := by
  obtain ⟨least, most⟩ := small
  have yearBack : (instant.year.toNat : Int) = instant.utc.date.year := Int.toNat_of_nonneg least
  have yearFits : instant.year.toNat < 10 ^ 4 := by omega
  have unmoved : some ⟨(WallClock.mk instant.utc.date time).shift 0⟩ =
      some (Instant.mk ⟨instant.utc.date, time⟩) := by
    rw [WallClock.shift_zero]
  rw [← unmoved, ofIso?, trim_isoChars, isoChars_eq, yearChars_of_isFourDigitYear ⟨least, most⟩,
    behindYear, clockChars]
  refine read_bind (readNumber_padded (by decide) yearFits _) ?_
  refine read_bind (readMark_self '-' _) ?_
  refine read_bind (readNumber_padded (by decide) instant.utc.date.month_lt _) ?_
  refine read_bind (readMark_self '-' _) ?_
  refine read_bind (readNumber_padded (by decide) instant.utc.date.day_lt _) ?_
  refine read_bind rfl ?_
  refine read_bind (readNumber_padded (by decide) instant.utc.time.hour_lt _) ?_
  refine read_bind (readMark_self ':' _) ?_
  refine read_bind (readNumber_padded (by decide) instant.utc.time.minute_lt _) ?_
  refine read_bind (readMark_self ':' _) ?_
  refine read_bind (readNumber_padded (by decide) instant.utc.time.second_lt _) ?_
  refine read_bind (readNanos_millis instant.utc.time.millis_lt) ?_
  refine read_bind rfl ?_
  refine read_bind (a := instant.utc.date) ?_ ?_
  · rw [yearBack]
    exact Date.ofYmd?_self _
  · exact read_bind read rfl

theorem ofIso?_isoChars {instant : Instant} (small : IsFourDigitYear instant.year) :
    ∃ printed, ofIso? instant.isoChars = some printed ∧ printed.iso = instant.iso := by
  obtain ⟨time, read, timeChars, millis⟩ := instant.utc.time.exists_ofClock?_chars
  refine ⟨_, ofIso?_isoChars_of_clock small read, ?_⟩
  unfold iso isoChars
  rw [timeChars]
  have sameMillis : millisChars ⟨⟨instant.utc.date, time⟩⟩ = instant.millisChars :=
    congrArg (padded 3) millis
  rw [sameMillis]

theorem ofIso?_signed {instant : Instant} (signed : ¬IsFourDigitYear instant.year) :
    ofIso? instant.isoChars = none := by
  rw [ofIso?, trim_isoChars, isoChars_eq, yearChars_of_signed signed]
  rcases yearSign_eq instant.year with minus | plus
  · rw [minus]
    rfl
  · rw [plus]
    rfl

end Instant

/-! Stamps in names of files. A stamp tells the second of a moment, and nothing less. -/

namespace Instant

theorem isNumeralStart_of_mem_padded {c : Char} {width n : Nat} (member : c ∈ padded width n) :
    isNumeralStart c = true :=
  isNumeralStart_of_isAsciiDigit (isAsciiDigit_of_mem_padded member)

theorem isNumeralStart_of_mem_yearChars {c : Char} {year : Int} (member : c ∈ yearChars year) :
    isNumeralStart c = true := by
  by_cases small : IsFourDigitYear year
  · rw [yearChars_of_isFourDigitYear small] at member
    exact isNumeralStart_of_mem_padded member
  · rw [yearChars_of_signed small] at member
    rcases List.mem_cons.mp member with rfl | digit
    · exact isNumeralStart_of_sign (yearSign_eq year)
    · exact isNumeralStart_of_mem_padded digit

theorem of_mem_secondStamp {c : Char} {instant : Instant}
    (member : c ∈ instant.secondStamp.toList) : c = '_' ∨ isNumeralStart c = true := by
  simp only [secondStamp, String.toList_ofList, List.mem_append, List.mem_cons] at member
  rcases member with (((((year | month) | day) | line | hour) | minute) | second)
  · exact Or.inr (isNumeralStart_of_mem_yearChars year)
  · exact Or.inr (isNumeralStart_of_mem_padded month)
  · exact Or.inr (isNumeralStart_of_mem_padded day)
  · exact Or.inl line
  · exact Or.inr (isNumeralStart_of_mem_padded hour)
  · exact Or.inr (isNumeralStart_of_mem_padded minute)
  · exact Or.inr (isNumeralStart_of_mem_padded second)

theorem count_secondStamp (instant : Instant) : instant.secondStamp.toList.count '_' = 1 := by
  have digits (width n : Nat) : '_' ∉ padded width n := fun member =>
    absurd (isNumeralStart_of_mem_padded member) (by decide)
  have year : '_' ∉ yearChars instant.utc.date.year := fun member =>
    absurd (isNumeralStart_of_mem_yearChars member) (by decide)
  simp only [secondStamp, String.toList_ofList, List.count_append, List.count_cons_self,
    List.count_eq_zero.mpr (digits _ _), List.count_eq_zero.mpr year]

theorem secondStamp_eq_iff {a b : Instant} : a.secondStamp = b.secondStamp ↔
    a.utc.date = b.utc.date ∧ a.utc.time.hour = b.utc.time.hour ∧
      a.utc.time.minute = b.utc.time.minute ∧ a.utc.time.second = b.utc.time.second := by
  constructor
  · intro same
    have two {n m : Nat} (small : n < 10 ^ 2) (otherSmall : m < 10 ^ 2) :
        (padded 2 n).length = (padded 2 m).length := by
      rw [length_padded (by decide) small, length_padded (by decide) otherSmall]
    obtain ⟨toMinute, second⟩ := List.append_inj' (String.ofList_injective same)
      (two a.utc.time.second_lt b.utc.time.second_lt)
    obtain ⟨toHour, minute⟩ := List.append_inj' toMinute
      (two a.utc.time.minute_lt b.utc.time.minute_lt)
    obtain ⟨toDay, hour⟩ := List.append_inj' toHour
      (congrArg (· + 1) (two a.utc.time.hour_lt b.utc.time.hour_lt))
    obtain ⟨toMonth, day⟩ := List.append_inj' toDay (two a.utc.date.day_lt b.utc.date.day_lt)
    obtain ⟨year, month⟩ := List.append_inj' toMonth
      (two a.utc.date.month_lt b.utc.date.month_lt)
    refine ⟨Date.chars_inj ?_, padded_inj (List.cons.inj hour).2, padded_inj minute,
      padded_inj second⟩
    rw [Date.chars, Date.chars, year, month, day]
  · rintro ⟨date, hour, minute, second⟩
    rw [secondStamp, secondStamp, date, hour, minute, second]

theorem seconds_ofMillis (millis : Int) : (ofMillis millis).seconds = millis / 1000 :=
  WallClock.seconds_ofSeconds _ _ _

theorem second_ofMillis (millis : Int) :
    (ofMillis millis).utc.time.second = (ofMillis millis).utc.time.seconds % 60 := by
  have part : (millis % 1000).toNat * 1000000 < nanosPerSecond := by
    simp only [nanosPerSecond]
    omega
  exact congrArg ((ofMillis millis).utc.time.seconds % 60 + ·) (Nat.div_eq_of_lt part)

/-- Readings of the clock have the same stamp within a second, and only then. -/
theorem secondStamp_ofMillis_eq_iff {first second : Int} :
    (ofMillis first).secondStamp = (ofMillis second).secondStamp ↔
      first / 1000 = second / 1000 := by
  rw [secondStamp_eq_iff, second_ofMillis, second_ofMillis]
  constructor
  · rintro ⟨date, hour, minute, inMinute⟩
    have time : (ofMillis first).utc.time.seconds = (ofMillis second).utc.time.seconds := by
      simp only [TimeOfDay.hour, TimeOfDay.minute] at hour minute
      omega
    rw [← seconds_ofMillis first, ← seconds_ofMillis second, seconds, seconds, WallClock.seconds,
      WallClock.seconds, date, time]
  · intro same
    have date : (ofMillis first).utc.date = (ofMillis second).utc.date :=
      congrArg (fun seconds : Int => Date.ofDayNumber (seconds / secondsPerDay)) same
    have time : (ofMillis first).utc.time.seconds = (ofMillis second).utc.time.seconds :=
      congrArg (fun seconds : Int => (seconds % secondsPerDay).toNat) same
    exact ⟨date, by rw [TimeOfDay.hour, TimeOfDay.hour, time],
      by rw [TimeOfDay.minute, TimeOfDay.minute, time], by rw [time]⟩

end Instant

end GigListings
