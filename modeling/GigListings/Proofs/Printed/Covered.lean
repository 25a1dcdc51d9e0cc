import GigListings.Proofs.Printed.Shapes

namespace GigListings

open Text

/-! Which texts the default format reads like a specific one. -/

namespace DateText

/-- Texts that start with a day are left to the formats for names of weekdays and months. -/
theorem auto?_of_startsWithDay {text : List Char} {context : DateContext}
    (noDayWord : relative? text context.today = none) (day : StartsWithDay (normalize text)) :
    auto? text context =
      (weekdayDayMonth? text context.today <|> dayMonth? text context.today) := by
  rw [auto?, noDayWord, iso?_of_startsWithDay day, compact?_of_startsWithDay day]
  rfl

theorem exists_day_of_dayThenMonth? {text : List Char} {parts : Parts}
    (read : dayThenMonth? text = some parts) :
    ∃ day rest later, dayDigits? text = some (day, rest) ∧ afterBlanks? rest = some later := by
  simp only [dayThenMonth?, Option.bind_eq_bind, Option.bind_eq_some_iff] at read
  obtain ⟨⟨day, rest⟩, digits, later, blanks, -⟩ := read
  exact ⟨day, rest, later, digits, blanks⟩

theorem startsWithDay_of_dayThenMonth? {text : List Char} {parts : Parts}
    (read : dayThenMonth? (behindWord text) = some parts) : StartsWithDay text :=
  exists_day_of_dayThenMonth? read

theorem behindWord_of_leadingWord? {text name rest : List Char}
    (found : leadingWord? text = some (name, rest)) : behindWord text = rest := by
  rw [behindWord, found]

theorem exists_of_weekdayDayMonth? {text : List Char} {today : Date} {printed : PrintedDate}
    (read : weekdayDayMonth? text today = some printed) :
    ∃ parts, dayThenMonth? (behindWord (normalize text)) = some parts := by
  simp only [weekdayDayMonth?, Option.bind_eq_bind, Option.bind_eq_some_iff] at read
  obtain ⟨⟨name, rest⟩, worded, parts, found, -⟩ := read
  exact ⟨parts, by rw [behindWord_of_leadingWord? worded, found]⟩

def StartsWithDigit (text : List Char) : Prop := ∃ c rest, text = c :: rest ∧ isDigit c = true

theorem StartsWithDigit.word? {text : List Char} (starts : StartsWithDigit text) :
    word? text = none := by
  obtain ⟨c, rest, rfl, digit⟩ := starts
  simp [DateText.word?, takeRun, isAsciiLower_of_isDigit digit]

theorem StartsWithDigit.leadingWord? {text : List Char} (starts : StartsWithDigit text) :
    leadingWord? text = none := by
  simp only [DateText.leadingWord?, starts.word?, Option.bind_eq_bind, Option.bind_none]

theorem weekdayDayMonth?_of_startsWithDigit {text : List Char}
    (starts : StartsWithDigit (normalize text)) (today : Date) :
    weekdayDayMonth? text today = none := by
  simp only [weekdayDayMonth?, starts.leadingWord?, Option.bind_eq_bind, Option.bind_none]

theorem dayMonth?_of_startsWithDigit {text : List Char}
    (starts : StartsWithDigit (normalize text)) (today : Date) :
    dayMonth? text today = (dayThenMonth? (normalize text)).bind (·.resolve? today) := by
  simp only [dayMonth?, monthThenDay?, starts.leadingWord?, Option.bind_eq_bind, Option.bind_none]
  cases dayThenMonth? (normalize text) <;> rfl

/-! Explicit years. -/

theorem monthAndYear?_of_year {text month behind later year rest : List Char}
    (worded : word? text = some (month, behind))
    (blanks : afterBlanks? (skipOne (· == '.') behind) = some later)
    (digits : yearDigits? later = some (year, rest)) :
    monthAndYear? text = some (month, some year, rest) := by
  have yearFound : ∀ insideWord after, afterBlanks? after = some later →
      yearOrNot? insideWord after = some (some year, rest) := by
    intro insideWord after found
    simp only [yearOrNot?, found, Option.bind_some, digits]
  simp only [monthAndYear?, worded, Option.bind_eq_bind, Option.bind_some]
  split
  · rename_i after
    simp only [yearFound false after blanks]
  · rename_i noPoint
    have kept : skipOne (· == '.') behind = behind := by
      cases behind with
      | nil => rfl
      | cons c behind =>
          have differ : c ≠ '.' := fun same => noPoint behind (same ▸ rfl)
          simp [skipOne, differ]
    rw [kept] at blanks
    simp only [yearFound true behind blanks, Option.map_some]

theorem exists_of_yearDigits? {text year rest : List Char}
    (read : yearDigits? text = some (year, rest)) : ∃ a b c d, year = [a, b, c, d] := by
  unfold yearDigits? at read
  split at read
  · split at read
    · cases read
    · cases read
      exact ⟨_, _, _, _, rfl⟩
  · cases read

theorem year?_of_yearDigits? {text year rest : List Char}
    (read : yearDigits? text = some (year, rest)) : year? year = (number? year).map Nat.cast := by
  obtain ⟨a, b, c, d, rfl⟩ := exists_of_yearDigits? read
  have bytes : (String.ofList [a, b, c, d]).utf8ByteSize ≠ 2 := by
    simp only [String.ofList_cons, String.utf8ByteSize_append, String.utf8ByteSize_singleton]
    have first := a.utf8Size_pos
    have second := b.utf8Size_pos
    have third := c.utf8Size_pos
    omega
  simp only [year?, if_neg bytes]
  cases number? [a, b, c, d] <;> rfl

theorem dayThenMonth?_of_explicitYearParts? {text : List Char} {parts : Parts}
    (read : explicitYearParts? text = some parts) :
    dayThenMonth? (behindWord text) = some parts ∧
      parts.year.bind year? = (parts.year.bind number?).map Nat.cast := by
  simp only [explicitYearParts?, Option.bind_eq_bind, Option.bind_eq_some_iff] at read
  obtain ⟨⟨day, afterDay⟩, digits, behindDay, dayBlanks, ⟨month, afterMonth⟩, worded, behindMonth,
    monthBlanks, ⟨year, rest⟩, yearRead, same⟩ := read
  cases same
  replace digits : dayDigits? (behindWord text) = some (day, afterDay) := digits
  refine ⟨?_, year?_of_yearDigits? yearRead⟩
  simp only [dayThenMonth?, digits, dayBlanks, monthAndYear?_of_year worded monthBlanks yearRead,
    Option.bind_eq_bind, Option.bind_some]
  rfl

/-- A date with an explicit year is one with a day and a month, and does not depend on today. -/
theorem exists_of_explicitYear? {text : List Char} {printed : PrintedDate}
    (read : explicitYear? text none = some printed) :
    ∃ parts, dayThenMonth? (behindWord (normalize text)) = some parts ∧
      ∀ today, parts.resolve? today = some printed := by
  simp only [explicitYear?, Option.bind_eq_bind, Option.bind_eq_some_iff] at read
  obtain ⟨parts, found, day, dayRead, month, monthRead, year, ⟨digits, yearPrinted, yearRead⟩, date,
    named, same⟩ := read
  obtain ⟨parted, years⟩ := dayThenMonth?_of_explicitYearParts? found
  simp only [yearPrinted, Option.bind_some, yearRead, Option.map_some] at years
  refine ⟨parts, parted, fun today => ?_⟩
  simp only [Parts.resolve?, dayRead, monthRead, yearPrinted, years, resolveDate?,
    Option.getD_some, named, Option.bind_eq_bind, Option.bind_some]
  exact same

def BeginsWithDayWord (text : List Char) : Prop :=
  ∃ word ∈ ["today", "tonight", "tomorrow"], ∃ rest,
    normalize text = word.toList ++ rest ∧ startsWithWord rest = false

theorem BeginsWithDayWord.exists_to {text : List Char} (begins : BeginsWithDayWord text) :
    ∃ rest, normalize text = 't' :: 'o' :: rest := by
  obtain ⟨word, listed, rest, normal, -⟩ := begins
  simp only [List.mem_cons, List.not_mem_nil, or_false] at listed
  rcases listed with rfl | rfl | rfl
  · exact ⟨'d' :: 'a' :: 'y' :: rest, normal⟩
  · exact ⟨'n' :: 'i' :: 'g' :: 'h' :: 't' :: rest, normal⟩
  · exact ⟨'m' :: 'o' :: 'r' :: 'r' :: 'o' :: 'w' :: rest, normal⟩

theorem relative?_eq_none {text : List Char} (others : ¬BeginsWithDayWord text) (today : Date) :
    relative? text today = none := by
  have missed : ∀ word ∈ ["today", "tonight", "tomorrow"],
      TimeText.afterWord? word.toList (normalize text) = none := by
    intro word listed
    rw [TimeText.afterWord?]
    cases found : afterLead? word.toList (normalize text) with
    | none => rfl
    | some rest =>
        have goesOn : startsWithWord rest = true := by
          by_contra ends
          rw [Bool.not_eq_true] at ends
          exact others ⟨word, listed, rest, eq_append_of_afterLead? found, ends⟩
        simp only [goesOn, if_true]
  simp only [List.forall_mem_cons] at missed
  simp only [relative?, missed, Option.map_none]
  rfl

variable {text : List Char} {context : DateContext} {printed : PrintedDate}

theorem auto?_of_relative? (read : relative? text context.today = some printed) :
    auto? text context = some printed := by
  rw [auto?, read]
  rfl

theorem auto?_of_iso? (noDayWord : relative? text context.today = none)
    (read : iso? text context = some printed) : auto? text context = some printed := by
  rw [auto?, noDayWord, read]
  rfl

theorem auto?_of_compact? (noDayWord : relative? text context.today = none)
    (read : compact? text context.today = some printed) : auto? text context = some printed := by
  rw [auto?, noDayWord, iso?_of_compact? read, read]
  rfl

theorem auto?_of_weekdayDayMonth? (noDayWord : relative? text context.today = none)
    (read : weekdayDayMonth? text context.today = some printed) :
    auto? text context = some printed := by
  obtain ⟨parts, found⟩ := exists_of_weekdayDayMonth? read
  rw [auto?_of_startsWithDay noDayWord (startsWithDay_of_dayThenMonth? found), read]
  rfl

theorem auto?_of_dayMonth? (noDayWord : relative? text context.today = none)
    (starts : StartsWithDigit (normalize text))
    (read : dayMonth? text context.today = some printed) : auto? text context = some printed := by
  have parted := read
  rw [dayMonth?_of_startsWithDigit starts] at parted
  obtain ⟨parts, found, -⟩ := Option.bind_eq_some_iff.mp parted
  have day : StartsWithDay (normalize text) :=
    startsWithDay_of_dayThenMonth? (by rw [behindWord_of_word? starts.word?, found])
  rw [auto?_of_startsWithDay noDayWord day, weekdayDayMonth?_of_startsWithDigit starts, read]
  rfl

theorem eq_takeWhile_of_leadingWord? {name rest : List Char}
    (found : leadingWord? text = some (name, rest)) :
    text.takeWhile isAsciiLower = name ∧ name ≠ [] := by
  simp only [leadingWord?, Option.bind_eq_bind, Option.bind_eq_some_iff] at found
  obtain ⟨⟨word, behind⟩, worded, later, -, same⟩ := found
  cases same
  obtain ⟨taken, nonempty⟩ := word?_eq_some_iff.mp worded
  exact ⟨(Prod.mk.inj taken).1, nonempty⟩

theorem auto?_of_explicitYear? (noDayWord : relative? text context.today = none)
    (weekday : (normalize text).takeWhile isAsciiLower = [] ∨
      isWeekday ((normalize text).takeWhile isAsciiLower) = true)
    (read : explicitYear? text none = some printed) : auto? text context = some printed := by
  obtain ⟨parts, found, resolved⟩ := exists_of_explicitYear? read
  rw [auto?_of_startsWithDay noDayWord (startsWithDay_of_dayThenMonth? found)]
  cases worded : leadingWord? (normalize text) with
  | some word =>
      obtain ⟨name, rest⟩ := word
      obtain ⟨front, nonempty⟩ := eq_takeWhile_of_leadingWord? worded
      rw [front] at weekday
      rw [behindWord_of_leadingWord? worded] at found
      simp only [weekdayDayMonth?, worded, found, weekday.resolve_left nonempty, if_true,
        resolved context.today, Option.bind_eq_bind, Option.bind_some]
      rfl
  | none =>
      rw [behindWord, worded] at found
      simp only [weekdayDayMonth?, worded, dayMonth?, found, Option.bind_eq_bind, Option.bind_none]
      exact resolved context.today

end DateText

namespace DateFormat

/-- Whether the default format is to read a text like this one: months in front of days, and words
that are no weekdays in front of dates with a year, are left to the specific formats. -/
def Covers (format : DateFormat) (text : List Char) : Prop :=
  match format with
  | dayMonth => DateText.StartsWithDigit (DateText.normalize text)
  | explicitYear =>
      let word := (DateText.normalize text).takeWhile isAsciiLower
      word = [] ∨ DateText.isWeekday word = true
  | _ => True

theorem auto?_of_read? {format : DateFormat} {text : List Char} {context : DateContext}
    {printed : PrintedDate} (noDayWord : DateText.relative? text context.today = none)
    (covered : format.Covers text) (read : format.read? text none context = some printed) :
    DateText.auto? text context = some printed := by
  cases format with
  | auto => exact read
  | relative => exact DateText.auto?_of_relative? read
  | iso => exact DateText.auto?_of_iso? noDayWord read
  | compact => exact DateText.auto?_of_compact? noDayWord read
  | weekdayDayMonth => exact DateText.auto?_of_weekdayDayMonth? noDayWord read
  | dayMonth => exact DateText.auto?_of_dayMonth? noDayWord covered read
  | explicitYear => exact DateText.auto?_of_explicitYear? noDayWord covered read

theorem read?_congr_time {format : DateFormat} {time : Option (List Char)}
    (apart : format = .explicitYear → time = none) (text : List Char) (context : DateContext) :
    format.read? text time context = format.read? text none context := by
  cases format with
  | explicitYear => rw [apart rfl]
  | _ => rfl

/-- The default format reads what a specific format reads, to the same date and time: every
relative date, and of the other texts, if no day word is in front, those that the format covers. A
time that is printed apart makes no difference, unless the format has an explicit year. -/
theorem parse_auto_of_parse {format : DateFormat} {text : String} {time : Option String}
    {context : DateContext} {printed : PrintedDate}
    (read : format.parse text time context = .ok printed)
    (apart : format = .explicitYear → time = none)
    (covered : format = .relative ∨
      ¬DateText.BeginsWithDayWord text.toList ∧ format.Covers text.toList) :
    DateFormat.auto.parse text time context = .ok printed := by
  cases found : format.read? text.toList (time.map String.toList) context with
  | none =>
      rw [parse] at read
      simp only [found] at read
      cases read
  | some date =>
      have same : date.orTime ((time.map String.toList).bind TimeText.time?) = printed := by
        rw [parse] at read
        simp only [found] at read
        exact Except.ok.inj read
      have alone : format.read? text.toList none context = some date := by
        rw [← found]
        exact (read?_congr_time (fun explicit => by rw [apart explicit]; rfl) _ _).symm
      have default : DateText.auto? text.toList context = some date := by
        rcases covered with rfl | ⟨noDayWord, covers⟩
        · exact DateText.auto?_of_relative? alone
        · exact auto?_of_read? (DateText.relative?_eq_none noDayWord context.today) covers alone
      simp only [parse, read?, default, same]

/-- A date with an explicit year behind a weekday. -/
theorem parse_auto_of_parse_weekday :
    DateFormat.explicitYear.parse "Wed. 13th Aug 2025, 19:30" none ⟨⟨2025, 3, 1, by decide⟩, none⟩ =
      .ok ⟨⟨2025, 8, 13, by decide⟩, some ⟨70200, 0, by decide, by decide⟩⟩ ∧
    DateFormat.auto.parse "Wed. 13th Aug 2025, 19:30" none ⟨⟨2025, 3, 1, by decide⟩, none⟩ =
      .ok ⟨⟨2025, 8, 13, by decide⟩, some ⟨70200, 0, by decide, by decide⟩⟩ := by
  have read : DateFormat.explicitYear.parse "Wed. 13th Aug 2025, 19:30" none
      ⟨⟨2025, 3, 1, by decide⟩, none⟩ =
        .ok ⟨⟨2025, 8, 13, by decide⟩, some ⟨70200, 0, by decide, by decide⟩⟩ := by
    decide +kernel
  refine ⟨read, parse_auto_of_parse read (fun _ => rfl) (.inr ⟨?_, .inr (by decide +kernel)⟩)⟩
  intro begins
  obtain ⟨rest, normal⟩ := begins.exists_to
  have first : (DateText.normalize "Wed. 13th Aug 2025, 19:30".toList).head? = some 'w' := by
    decide +kernel
  rw [normal] at first
  cases first

end DateFormat

end GigListings
