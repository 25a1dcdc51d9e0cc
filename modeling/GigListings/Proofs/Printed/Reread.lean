import GigListings.Printed.Format
import GigListings.Proofs.Calendar.Earliest
import GigListings.Proofs.Calendar.Timestamp
import GigListings.Proofs.Printed.Trimmed

namespace GigListings

open Text

/-! Timestamps read as dates. One within the years of four digits is read as what the venue's
clock shows; one with a sign before its year is no date at all. -/

namespace Text

theorem exists_lower_numeral {c : Char} (start : isNumeralStart c = true) (rest : List Char) :
    ∃ others, lower (c :: rest) = c :: others := by
  obtain ⟨noSigma, same⟩ : c ≠ 'Σ' ∧ lowerChar c = [c] :=
    of_isNumeralStart (fun c => c ≠ 'Σ' ∧ lowerChar c = [c]) (by decide) start
  refine ⟨lowerAfter [c] rest, ?_⟩
  rw [lower, lowerAfter, if_neg noSigma, same]
  rfl

theorem exists_collapse_visible {c : Char} (visible : isBlank c = false) (rest : List Char) :
    ∃ others, collapse (c :: rest) = c :: others := by
  obtain ⟨inner, trimmed⟩ := exists_trim_append [] (by simp) visible rest
  rw [List.nil_append, List.nil_append] at trimmed
  refine ⟨squeezeAfter false inner, ?_⟩
  rw [collapse, trimmed, squeeze, squeezeAfter, visible]
  rfl

end Text

namespace DateText

theorem exists_stripOrdinals_cons (c : Char) (rest : List Char) :
    ∃ others, stripOrdinals (c :: rest) = c :: others := by
  rw [stripOrdinals, stripOrdinalsAfter_outside]
  split
  · exact ⟨_, rfl⟩
  · split
    · exact ⟨_, rfl⟩
    · exact ⟨_, rfl⟩
  · exact ⟨_, rfl⟩

theorem exists_normalize_numeral {c : Char} (start : isNumeralStart c = true)
    (rest : List Char) : ∃ others, normalize (c :: rest) = c :: others := by
  obtain ⟨noComma, visible⟩ : (c == ',') = false ∧ isBlank c = false :=
    of_isNumeralStart (fun c => (c == ',') = false ∧ isBlank c = false) (by decide) start
  obtain ⟨lowered, lower⟩ := exists_lower_numeral start rest
  obtain ⟨stripped, strip⟩ := exists_stripOrdinals_cons c
    (lowered.map fun c => if c == ',' then ' ' else c)
  obtain ⟨collapsed, collapse⟩ := exists_collapse_visible visible stripped
  refine ⟨collapsed, ?_⟩
  rw [normalize, lower, List.map_cons, noComma]
  simp only [Bool.false_eq_true, if_false]
  rw [strip, collapse]

theorem relative?_numeral {c : Char} (start : isNumeralStart c = true) (rest : List Char)
    (today : Date) : relative? (c :: rest) today = none := by
  obtain ⟨others, normal⟩ := exists_normalize_numeral start rest
  have first : 't' ≠ c := of_isNumeralStart ('t' ≠ ·) (by decide) start
  simp [relative?, normal, TimeText.afterWord?, afterLead?, first]

theorem word?_numeral {c : Char} (start : isNumeralStart c = true) (rest : List Char) :
    word? (c :: rest) = none := by
  have first : isAsciiLower c = false :=
    of_isNumeralStart (isAsciiLower · = false) (by decide) start
  simp [word?, takeRun, first]

theorem weekdayDayMonth?_numeral {c : Char} (start : isNumeralStart c = true)
    (rest : List Char) (today : Date) : weekdayDayMonth? (c :: rest) today = none := by
  obtain ⟨others, normal⟩ := exists_normalize_numeral start rest
  simp [weekdayDayMonth?, normal, leadingWord?, word?_numeral start]

/-! Signs. -/

theorem dayDigits?_sign {sign : Char} (isSign : sign = '-' ∨ sign = '+') (rest : List Char) :
    dayDigits? (sign :: rest) = none := by
  rcases isSign with rfl | rfl <;> rfl

theorem dayMonth?_sign {sign : Char} (isSign : sign = '-' ∨ sign = '+') (rest : List Char)
    (today : Date) : dayMonth? (sign :: rest) today = none := by
  have start := isNumeralStart_of_sign isSign
  obtain ⟨others, normal⟩ := exists_normalize_numeral start rest
  simp [dayMonth?, normal, dayThenMonth?, monthThenDay?, dayDigits?_sign isSign, leadingWord?,
    word?_numeral start]

theorem compact?_sign {sign : Char} (isSign : sign = '-' ∨ sign = '+') (rest : List Char)
    (today : Date) : compact? (sign :: rest) today = none := by
  have none : compactParts? (sign :: rest) = none := by
    rcases isSign with rfl | rfl <;> rfl
  simp [compact?, none]

/-! Timestamps. -/

theorem exists_digit_of_ofIso? {text : List Char} {instant : Instant}
    (read : Instant.ofIso? text = some instant) :
    ∃ c rest, trim text = c :: rest ∧ isAsciiDigit c = true := by
  rw [Instant.ofIso?, Option.bind_eq_bind] at read
  obtain ⟨⟨year, rest⟩, number, -⟩ := Option.bind_eq_some_iff.mp read
  cases trimmed : trim text with
  | nil =>
      rw [trimmed] at number
      exact absurd number (by simp [readNumber, takeUpTo])
  | cons c rest =>
      refine ⟨c, rest, rfl, ?_⟩
      by_contra noDigit
      rw [trimmed] at number
      exact absurd number (by simp [readNumber, takeUpTo, noDigit])

/-- What the venue's clock shows at an instant, as a printed date. -/
def shown (context : DateContext) (instant : Instant) : PrintedDate :=
  ⟨(context.wallClock instant).date, some (context.wallClock instant).time⟩

theorem instant_shown (context : DateContext) (instant : Instant) :
    (shown context instant).instant context = context.instant (context.wallClock instant) := rfl

theorem iso?_of_ofIso? {text : List Char} {instant : Instant}
    (read : Instant.ofIso? (trim text) = some instant) (context : DateContext) :
    iso? text context = some (shown context instant) := by
  simp only [iso?, read, shown]

theorem auto?_of_ofIso? {text : List Char} {instant : Instant}
    (read : Instant.ofIso? (trim text) = some instant) (context : DateContext) :
    auto? text context = some (shown context instant) := by
  obtain ⟨c, rest, trimmed, digit⟩ := exists_digit_of_ofIso? read
  rw [trim_trim] at trimmed
  have noWord : relative? text context.today = none := by
    rw [← relative?_trim, trimmed]
    exact relative?_numeral (isNumeralStart_of_isAsciiDigit digit) rest context.today
  rw [auto?, noWord, iso?_of_ofIso? read]
  rfl

end DateText

theorem DateFormat.read?_timestamp {format : DateFormat} (either : format = .auto ∨ format = .iso)
    {text : List Char} {instant : Instant} (read : Instant.ofIso? (trim text) = some instant)
    (context : DateContext) :
    format.read? text none context = some (DateText.shown context instant) := by
  rcases either with rfl | rfl
  · exact DateText.auto?_of_ofIso? read context
  · exact DateText.iso?_of_ofIso? read context

/-! Loose dates. -/

theorem readPair_padded {n : Nat} (small : n < 10 ^ 2) {rest : List Char}
    (stops : rest.head?.any isAsciiDigit = false) :
    readPair (padded 2 n ++ rest) = some (n, rest) := by
  obtain ⟨c, others, written, digit⟩ := exists_padded_eq_cons 2 n
  have start : skipBlanks (padded 2 n ++ rest) = padded 2 n ++ rest := by
    simp [written, skipBlanks, isBlank_of_isAsciiDigit digit]
  have length : (padded 2 n).length = 2 := length_padded (by decide) small
  rw [readPair, start]
  exact readNumber_padded_stop (by omega) (by omega) stops

theorem readYear_of_isFourDigitYear {year : Int} (small : IsFourDigitYear year)
    (rest : List Char) :
    readYear (padded 4 year.toNat ++ '-' :: rest) = some (year, '-' :: rest) := by
  obtain ⟨least, most⟩ := small
  have length : (padded 4 year.toNat).length = 4 := length_padded (by decide) (by omega)
  have number : readNumber 1 4 (padded 4 year.toNat ++ '-' :: rest) =
      some (year.toNat, '-' :: rest) := readNumber_padded_stop (by omega) (by omega) rfl
  obtain ⟨c, others, written, digit⟩ := exists_padded_eq_cons 4 year.toNat
  obtain ⟨noMinus, noPlus, visible⟩ : c ≠ '-' ∧ c ≠ '+' ∧ isBlank c = false :=
    of_isAsciiDigit (fun c => c ≠ '-' ∧ c ≠ '+' ∧ isBlank c = false) (by decide) digit
  rw [written] at number
  rw [readYear, written]
  simp only [List.cons_append, skipBlanks, List.dropWhile_cons, visible, Bool.false_eq_true,
    if_false]
  split
  · rename_i same
    exact absurd (List.cons.inj same).1 noMinus
  · rename_i same
    exact absurd (List.cons.inj same).1 noPlus
  · rw [← List.cons_append, number, Option.map_some, Int.toNat_of_nonneg least]

theorem readYear_of_signed {year : Int} (rest : List Char) :
    readYear (yearSign year :: (padded 4 year.natAbs ++ '-' :: rest)) =
      some (year, '-' :: rest) := by
  have number : readNumber 1 (padded 4 year.natAbs ++ '-' :: rest).length
      (padded 4 year.natAbs ++ '-' :: rest) = some (year.natAbs, '-' :: rest) :=
    readNumber_padded_stop (List.length_pos_iff.mpr (padded_ne_nil 4 _)) (by simp) rfl
  unfold yearSign
  split
  · rename_i negative
    have start : skipBlanks ('-' :: (padded 4 year.natAbs ++ '-' :: rest)) =
        '-' :: (padded 4 year.natAbs ++ '-' :: rest) := rfl
    have value : -(year.natAbs : Int) = year := by omega
    simp only [readYear, start, number, Option.map_some, value]
  · rename_i positive
    have start : skipBlanks ('+' :: (padded 4 year.natAbs ++ '-' :: rest)) =
        '+' :: (padded 4 year.natAbs ++ '-' :: rest) := rfl
    have value : (year.natAbs : Int) = year := by omega
    simp only [readYear, start, number, Option.map_some, value]

theorem readYear_yearChars (year : Int) (rest : List Char) :
    readYear (yearChars year ++ '-' :: rest) = some (year, '-' :: rest) := by
  by_cases small : IsFourDigitYear year
  · rw [yearChars_of_isFourDigitYear small, readYear_of_isFourDigitYear small]
  · rw [yearChars_of_signed small, List.cons_append, readYear_of_signed]

theorem readLooseDate_chars (date : Date) (rest : List Char)
    (stops : rest.head?.any isAsciiDigit = false) :
    readLooseDate (date.chars ++ rest) =
      (Date.named? date.year date.month date.day).map (·, rest) := by
  have month : readPair (padded 2 date.month ++ '-' :: (padded 2 date.day ++ rest)) =
      some (date.month, '-' :: (padded 2 date.day ++ rest)) := readPair_padded date.month_lt rfl
  have day := readPair_padded date.day_lt stops
  simp only [readLooseDate, Date.chars, List.append_assoc, List.cons_append, readYear_yearChars,
    Option.bind_eq_bind, Option.bind_some, readMark_self, month, day]
  cases Date.named? date.year date.month date.day <;> rfl

/-- The fraction of a printed time is in the way of reading it loosely. -/
theorem looseClock_clockChars (instant : Instant) (date : Date) :
    WallClock.ofClock? date instant.clockChars = none ∧
      WallClock.ofHourMinute? date instant.clockChars = none := by
  have seconds : ∃ behind, readHourMinute instant.clockChars =
      some ((instant.utc.time.hour, instant.utc.time.minute), ':' :: behind) ∧
        behind = padded 2 instant.utc.time.second ++
          '.' :: (padded 3 instant.utc.time.millis ++ ['Z']) := by
    refine ⟨_, ?_, rfl⟩
    rw [readHourMinute, Instant.clockChars, readPair_padded instant.utc.time.hour_lt rfl]
    simp only [Option.bind_eq_bind, Option.bind_some, readMark_self]
    rw [readPair_padded instant.utc.time.minute_lt rfl]
    rfl
  obtain ⟨behind, read, equation⟩ := seconds
  constructor
  · rw [WallClock.ofClock?, read]
    simp only [Option.bind_eq_bind, Option.bind_some, readMark_self, equation]
    rw [readPair_padded instant.utc.time.second_lt rfl]
    rfl
  · simp only [WallClock.ofHourMinute?, read]

theorem loose_isoChars (instant : Instant) :
    WallClock.ofLoose? instant.isoChars = none ∧ Date.ofLoose? instant.isoChars = none := by
  have read := readLooseDate_chars instant.utc.date ('T' :: instant.clockChars) rfl
  rw [← Instant.isoChars_eq_chars_append] at read
  unfold WallClock.ofLoose? Date.ofLoose?
  rw [read]
  cases Date.named? instant.utc.date.year instant.utc.date.month instant.utc.date.day with
  | none => exact ⟨rfl, rfl⟩
  | some date =>
      obtain ⟨noClock, noHourMinute⟩ := looseClock_clockChars instant date
      simp only [Option.map_some, readMark_self, noClock, noHourMinute]
      exact ⟨rfl, trivial⟩

namespace DateText

theorem auto?_signed {instant : Instant} (signed : ¬IsFourDigitYear instant.year)
    (context : DateContext) : auto? instant.isoChars context = none := by
  have noIso : iso? instant.isoChars context = none := by
    rw [iso?, Instant.trim_isoChars, Instant.ofIso?_signed signed]
    simp only [loose_isoChars instant, Option.map_none]
  have isSign := yearSign_eq instant.year
  rw [auto?, noIso, Instant.isoChars_eq, yearChars_of_signed signed, List.cons_append,
    relative?_numeral (isNumeralStart_of_sign isSign), compact?_sign isSign,
    weekdayDayMonth?_numeral (isNumeralStart_of_sign isSign), dayMonth?_sign isSign]
  rfl

theorem auto?_nil (context : DateContext) : auto? [] context = none := by
  rfl

end DateText

/-! Dates written without a time, as headings pass them on to the events below them: the formats
that know the written form read them back. -/

namespace Date

theorem chars_eq (date : Date) : date.chars =
    yearChars date.year ++ '-' :: (padded 2 date.month ++ '-' :: padded 2 date.day) := by
  simp only [chars, List.append_assoc, List.cons_append]

theorem exists_chars_eq_cons (date : Date) :
    ∃ c rest, date.chars = c :: rest ∧ isNumeralStart c = true := by
  obtain ⟨c, rest, written, start⟩ := exists_yearChars_eq_cons date.year
  rw [chars_eq, written]
  exact ⟨c, _, rfl, start⟩

theorem exists_chars_eq_sign {date : Date} (signed : ¬IsFourDigitYear date.year) :
    ∃ sign rest, date.chars = sign :: rest ∧ (sign = '-' ∨ sign = '+') := by
  rw [chars_eq, yearChars_of_signed signed]
  exact ⟨_, _, rfl, yearSign_eq date.year⟩

theorem trim_chars (date : Date) : trim date.chars = date.chars := by
  obtain ⟨c, rest, written, start⟩ := exists_yearChars_eq_cons date.year
  obtain ⟨inner, last, day⟩ :=
    (List.eq_nil_or_concat (padded 2 date.day)).resolve_left (padded_ne_nil 2 date.day)
  rw [List.concat_eq_append] at day
  have member : last ∈ padded 2 date.day := by simp [day]
  have digit : isAsciiDigit last = true := isAsciiDigit_of_mem_padded member
  have split : date.chars =
      c :: (rest ++ '-' :: (padded 2 date.month ++ '-' :: inner)) ++ [last] := by
    rw [chars_eq, written, day]
    simp only [List.cons_append, List.append_assoc]
  rw [split, List.cons_append]
  exact trim_eq_self (isBlank_of_isNumeralStart start) (isBlank_of_isAsciiDigit digit)

theorem named?_self (date : Date) :
    named? date.year date.month date.day = if date.InCalendar then some date else none := by
  rw [named?, ofYmd?_self, Option.filter_some]
  simp only [decide_eq_true_eq]

theorem ofLoose?_chars (date : Date) :
    ofLoose? date.chars = if date.InCalendar then some date else none := by
  have read := readLooseDate_chars date [] rfl
  rw [List.append_nil, named?_self] at read
  rw [ofLoose?, read]
  by_cases inCalendar : date.InCalendar
  · rw [if_pos inCalendar, Option.map_some]
  · rw [if_neg inCalendar, Option.map_none]

theorem signed_of_not_inCalendar {date : Date} (outside : ¬date.InCalendar) :
    ¬IsFourDigitYear date.year := by
  intro small
  obtain ⟨least, most⟩ := small
  exact outside ⟨le_trans (by decide) least, le_trans most (by decide)⟩

end Date

theorem WallClock.ofLoose?_chars (date : Date) : WallClock.ofLoose? date.chars = none := by
  have read := readLooseDate_chars date [] rfl
  rw [List.append_nil] at read
  rw [WallClock.ofLoose?, read]
  cases Date.named? date.year date.month date.day <;> rfl

theorem Instant.ofIso?_chars (date : Date) : Instant.ofIso? date.chars = none := by
  by_cases small : IsFourDigitYear date.year
  · obtain ⟨least, most⟩ := small
    rw [Instant.ofIso?, date.trim_chars, date.chars_eq,
      yearChars_of_isFourDigitYear ⟨least, most⟩]
    refine read_bind (readNumber_padded (by decide) (by omega) _) ?_
    refine read_bind (readMark_self '-' _) ?_
    refine read_bind (readNumber_padded (by decide) date.month_lt _) ?_
    refine read_bind (readMark_self '-' _) ?_
    refine read_bind (a := (date.day, [])) ?_ rfl
    rw [← List.append_nil (padded 2 date.day)]
    exact readNumber_padded (by decide) date.day_lt []
  · cases read : Instant.ofIso? date.chars with
    | none => rfl
    | some instant =>
        obtain ⟨c, rest, trimmed, digit⟩ := DateText.exists_digit_of_ofIso? read
        obtain ⟨sign, others, written, isSign⟩ := Date.exists_chars_eq_sign small
        rw [date.trim_chars, written] at trimmed
        obtain ⟨rfl, -⟩ := List.cons.inj trimmed
        rcases isSign with rfl | rfl <;> cases digit

namespace DateText

theorem iso?_chars (date : Date) (context : DateContext) :
    iso? date.chars context = if date.InCalendar then some ⟨date, none⟩ else none := by
  simp only [iso?, date.trim_chars, Instant.ofIso?_chars, WallClock.ofLoose?_chars,
    Date.ofLoose?_chars]
  by_cases inCalendar : date.InCalendar
  · simp only [if_pos inCalendar, Option.map_some]
  · simp only [if_neg inCalendar, Option.map_none]

theorem auto?_chars (date : Date) (context : DateContext) :
    auto? date.chars context = if date.InCalendar then some ⟨date, none⟩ else none := by
  have noWord : relative? date.chars context.today = none := by
    obtain ⟨c, rest, written, start⟩ := date.exists_chars_eq_cons
    rw [written, relative?_numeral start]
  rw [auto?, noWord, iso?_chars]
  by_cases inCalendar : date.InCalendar
  · rw [if_pos inCalendar]
    rfl
  · obtain ⟨sign, rest, written, isSign⟩ :=
      Date.exists_chars_eq_sign (Date.signed_of_not_inCalendar inCalendar)
    rw [if_neg inCalendar, written, compact?_sign isSign,
      weekdayDayMonth?_numeral (isNumeralStart_of_sign isSign), dayMonth?_sign isSign]
    rfl

end DateText

/-- A written date is read back as that date, without a time, if the calendar has it; else it
is no date. -/
theorem DateFormat.parse_text {format : DateFormat} (either : format = .iso ∨ format = .auto)
    (date : Date) (context : DateContext) :
    format.parse date.text none context =
      if date.InCalendar then .ok ⟨date, none⟩ else .error (.notIn format) := by
  have read : format.read? date.text.toList none context =
      if date.InCalendar then some ⟨date, none⟩ else none := by
    rw [Date.text, String.toList_ofList]
    rcases either with rfl | rfl
    · exact DateText.iso?_chars date context
    · exact DateText.auto?_chars date context
  simp only [DateFormat.parse, Option.map_none, read]
  by_cases inCalendar : date.InCalendar
  · simp only [if_pos inCalendar]
    rfl
  · simp only [if_neg inCalendar]

end GigListings
