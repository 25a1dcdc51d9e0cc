import GigListings.Proofs.Printed.Covered
import GigListings.Proofs.Printed.Openings
import GigListings.Proofs.Printed.Parts
import GigListings.Proofs.Printed.RangeEnd

namespace GigListings

open Text

/-! Times of the 24-hour clock are read behind a date as they are printed. -/

namespace TimeText

theorem splitAt?_of_no_separator (insideWord : Bool) {text : List Char}
    (none : ∀ c ∈ text, isDash c = false ∧ c ≠ 't' ∧ c ≠ 'u') :
    splitAt? insideWord text = Option.none := by
  induction text generalizing insideWord with
  | nil => rfl
  | cons c text induction =>
      obtain ⟨⟨noDash, noTo, noUntil⟩, others⟩ := List.forall_mem_cons.mp none
      have noSeparator : afterSeparator? insideWord (c :: text) = Option.none := by
        simp [afterSeparator?, noDash, afterWord?, afterLead?, Ne.symm noTo, Ne.symm noUntil]
      rw [splitAt?, noSeparator, induction (isWord c) others]
      rfl

theorem splitRange_of_no_separator {text : List Char}
    (none : ∀ c ∈ text, isDash c = false ∧ c ≠ 't' ∧ c ≠ 'u') :
    splitRange text = (trim text, Option.none) := by
  rw [splitRange, splitAt?_of_no_separator false none]

structure IsHourMinute (a b c d : Char) : Prop where
  hour : isHourPair a b = true
  minute : '0' ≤ c ∧ c ≤ '5'
  digits : ∀ e ∈ [a, b, c, d], isAsciiDigit e = true

theorem exists_hourMinute (time : TimeOfDay) :
    ∃ a b c d, padded 2 time.hour = [a, b] ∧ padded 2 time.minute = [c, d] ∧
      IsHourMinute a b c d := by
  have hours : ∀ hour < 24,
      padded 2 hour = [Nat.digitChar (hour / 10), Nat.digitChar (hour % 10)] ∧
        isHourPair (Nat.digitChar (hour / 10)) (Nat.digitChar (hour % 10)) = true := by
    decide +kernel
  have minutes : ∀ minute < 60,
      padded 2 minute = [Nat.digitChar (minute / 10), Nat.digitChar (minute % 10)] ∧
        '0' ≤ Nat.digitChar (minute / 10) ∧ Nat.digitChar (minute / 10) ≤ '5' := by
    decide +kernel
  have hourBound : time.hour < 24 := by
    have within := time.seconds_lt
    simp only [TimeOfDay.hour, secondsPerDay] at *
    omega
  have minuteBound : time.minute < 60 := Nat.mod_lt _ (by decide)
  obtain ⟨hourPrinted, pair⟩ := hours time.hour hourBound
  obtain ⟨minutePrinted, bounds⟩ := minutes time.minute minuteBound
  have digits : ∀ e ∈ padded 2 time.hour ++ padded 2 time.minute, isAsciiDigit e = true :=
    List.forall_mem_append.mpr
      ⟨fun _ => isAsciiDigit_of_mem_padded, fun _ => isAsciiDigit_of_mem_padded⟩
  rw [hourPrinted, minutePrinted] at digits
  exact ⟨_, _, _, _, hourPrinted, minutePrinted, pair, bounds, digits⟩

variable {a b c d : Char}

theorem findTwelveHour?_hourMinute (printed : IsHourMinute a b c d) :
    findTwelveHour? [a, b, ':', c, d] = none := by
  obtain ⟨-, -, digits⟩ := printed
  simp only [List.forall_mem_cons] at digits
  obtain ⟨first, second, third, fourth, -⟩ := digits
  have noDigit : isDigit ':' = false := by decide
  simp [findTwelveHour?, findNumber?, twelveHourAt?, takeUpTo, minuteAt?, meridiemAt?, skipBlanks,
    isTimeMark, isDigit_of_isAsciiDigit first, isDigit_of_isAsciiDigit second,
    isDigit_of_isAsciiDigit third, isDigit_of_isAsciiDigit fourth, isWord_of_isAsciiDigit first,
    isWord_of_isAsciiDigit second, isWord_of_isAsciiDigit third, noDigit]

theorem findTwentyFourHour?_hourMinute (printed : IsHourMinute a b c d) :
    findTwentyFourHour? [a, b, ':', c, d] = some ⟨[a, b], [c, d]⟩ := by
  obtain ⟨pair, minute, digits⟩ := printed
  simp only [List.forall_mem_cons] at digits
  obtain ⟨first, second, third, fourth, -⟩ := digits
  simp [findTwentyFourHour?, findNumber?, twentyFourHourAt?, minuteEnd?, isTimeMark, pair, minute,
    startsWithWord, isDigit_of_isAsciiDigit first, isDigit_of_isAsciiDigit second,
    isDigit_of_isAsciiDigit fourth]

def HasNoSeparator (text : List Char) : Prop := ∀ c ∈ text, isDash c = false ∧ c ≠ 't' ∧ c ≠ 'u'

theorem time?_eq_single? {first last : Char} {inner : List Char}
    (firstVisible : isBlank first = false) (lastVisible : isBlank last = false)
    (noDoors : foldChar first ≠ 'd') (alone : HasNoSeparator (first :: (inner ++ [last]))) :
    time? (first :: (inner ++ [last])) = single? (first :: (inner ++ [last])) := by
  have trimmed : trim (first :: (inner ++ [last])) = first :: (inner ++ [last]) :=
    trim_eq_self firstVisible lastVisible
  have start : skipBlanks (first :: (inner ++ [last])) = first :: (inner ++ [last]) :=
    List.dropWhile_cons_of_neg (by simp [firstVisible])
  have kept : stripDoors (first :: (inner ++ [last])) = first :: (inner ++ [last]) := by
    simp only [stripDoors, start, afterFolded?, if_neg noDoors]
  rw [time?, trimmed, kept, splitRange_of_no_separator alone, trimmed]
  simp only [rangeStart?, Option.bind_none, ite_self]

theorem single?_hourMinute {lead : List Char} (isLead : lead = [] ∨ lead = ['.', ' '])
    (printed : IsHourMinute a b c d) :
    single? (lead ++ [a, b, ':', c, d]) =
      (TwentyFourHour.mk [a, b] [c, d]).time? := by
  have skipped : ∀ {α : Type} (at? : List Char → Option α) (text : List Char),
      findNumber? at? false (['.', ' '] ++ text) = findNumber? at? false text := fun at? text => rfl
  have twelve := findTwelveHour?_hourMinute printed
  have twentyFour := findTwentyFourHour?_hourMinute printed
  rcases isLead with rfl | rfl
  · rw [List.nil_append, single?, twelve, twentyFour]
    rfl
  · rw [findTwelveHour?] at twelve
    rw [findTwentyFourHour?] at twentyFour
    rw [single?, findTwelveHour?, skipped, twelve, findTwentyFourHour?, skipped, twentyFour]
    rfl

end TimeText

theorem TimeOfDay.IsWholeMinute.ofHourMinute? {time : TimeOfDay} (whole : time.IsWholeMinute) :
    TimeOfDay.ofHourMinute? time.hour time.minute = some time := by
  obtain ⟨seconds, nanos, bound, small⟩ := time
  obtain ⟨even, rfl⟩ := whole
  have places : seconds / 3600 < 24 ∧ seconds / 60 % 60 < 60 := by
    simp only [secondsPerDay] at bound
    omega
  have same : seconds / 3600 * 3600 + seconds / 60 % 60 * 60 + 0 = seconds := by
    dsimp only at even
    omega
  simp only [TimeOfDay.ofHourMinute?, hour, minute, ofClock?_of_lt places (by decide : 0 < 60),
    same, ofSeconds?, bound, small, and_self, dif_pos]

namespace DateText

theorem trailingTime?_eq_single? {first last : Char} (inner : List Char)
    (firstVisible : isBlank first = false) (lastVisible : isBlank last = false)
    (noDoors : foldChar first ≠ 'd') (noIntroducer : isIntroducer first = false)
    (alone : TimeText.HasNoSeparator (first :: (inner ++ [last]))) :
    trailingTime? (first :: (inner ++ [last])) =
      TimeText.single? (first :: (inner ++ [last])) := by
  have start : (first :: (inner ++ [last])).dropWhile isIntroducer = first :: (inner ++ [last]) :=
    List.dropWhile_cons_of_neg (by simp [noIntroducer])
  simp only [trailingTime?, start, TimeText.splitRange_of_no_separator alone,
    trim_eq_self firstVisible lastVisible]
  exact TimeText.time?_eq_single? firstVisible lastVisible noDoors alone

theorem single?_hourMinuteChars {time : TimeOfDay} (whole : time.IsWholeMinute)
    {lead : List Char} (isLead : lead = [] ∨ lead = ['.', ' ']) :
    TimeText.single? (lead ++ time.hourMinuteChars) = some time := by
  obtain ⟨a, b, c, d, hour, minute, printed⟩ := TimeText.exists_hourMinute time
  have hourRead := number?_padded 2 time.hour
  have minuteRead := number?_padded 2 time.minute
  rw [hour] at hourRead
  rw [minute] at minuteRead
  have read := TimeText.single?_hourMinute isLead printed
  simp only [TimeText.TwentyFourHour.time?, hourRead, minuteRead, Option.bind_eq_bind,
    Option.bind_some, whole.ofHourMinute?] at read
  rw [TimeOfDay.hourMinuteChars, hour, minute]
  exact read

theorem trailingTime?_hourMinuteChars {time : TimeOfDay} (whole : time.IsWholeMinute)
    {lead : List Char} (isLead : lead = [] ∨ lead = ['.', ' ']) :
    trailingTime? (lead ++ time.hourMinuteChars) = some time := by
  obtain ⟨a, b, c, d, hour, minute, printed⟩ := TimeText.exists_hourMinute time
  have chars : time.hourMinuteChars = [a, b, ':', c, d] := by
    rw [TimeOfDay.hourMinuteChars, hour, minute]
    rfl
  have read := single?_hourMinuteChars whole isLead
  have alone : TimeText.HasNoSeparator [a, b, ':', c, d] := by
    have plain : TimeText.HasNoSeparator [a, b, c, d] := fun e member =>
      of_isAsciiDigit (fun e => TimeText.isDash e = false ∧ e ≠ 't' ∧ e ≠ 'u') (by decide)
        (printed.digits e member)
    simp only [TimeText.HasNoSeparator, List.forall_mem_cons] at plain ⊢
    exact ⟨plain.1, plain.2.1, by decide, plain.2.2⟩
  have first : isAsciiDigit a = true := printed.digits a (by simp)
  have lastVisible : isBlank d = false :=
    isBlank_of_isAsciiDigit (printed.digits d (by simp))
  rw [← read, chars]
  rcases isLead with rfl | rfl
  · exact trailingTime?_eq_single? [b, ':', c] (isBlank_of_isAsciiDigit first)
      lastVisible (of_isAsciiDigit (foldChar · ≠ 'd') (by decide) first)
      (of_isAsciiDigit (isIntroducer · = false) (by decide) first) alone
  · have behindPoint : TimeText.HasNoSeparator (['.', ' '] ++ [a, b, ':', c, d]) := by
      simp only [TimeText.HasNoSeparator, List.forall_mem_append, List.forall_mem_cons] at alone ⊢
      exact ⟨⟨by decide, by decide, List.forall_mem_nil _⟩, alone⟩
    exact trailingTime?_eq_single? [' ', a, b, ':', c] (by decide) lastVisible
      (by decide) (by decide) behindPoint

/-! A day, a month and what may follow them, read from the normal form. -/

def timeTail : Option TimeOfDay → List Char
  | some time => ' ' :: time.hourMinuteChars
  | none => []

theorem startsWithWord_timeTail (time : Option TimeOfDay) :
    startsWithWord (timeTail time) = false := by
  cases time <;> rfl

theorem skipBlanks_padded (width n : Nat) (rest : List Char) :
    skipBlanks (padded width n ++ rest) = padded width n ++ rest := by
  obtain ⟨c, others, written, digit⟩ := exists_padded_eq_cons width n
  rw [written]
  exact List.dropWhile_cons_of_neg (by simp [isBlank_of_isAsciiDigit digit])

theorem trailingTime?_timeTail {time : Option TimeOfDay}
    (whole : ∀ clock ∈ time, clock.IsWholeMinute) (point : Bool) :
    trailingTime? (skipBlanks (pointChars point ++ timeTail time)) = time := by
  cases time with
  | none => cases point <;> rfl
  | some clock =>
      cases point with
      | true => exact trailingTime?_hourMinuteChars (whole clock rfl) (.inr rfl)
      | false =>
          have start : skipBlanks (timeTail (some clock)) = clock.hourMinuteChars :=
            skipBlanks_padded 2 clock.hour _
          exact (congrArg trailingTime? start).trans
            (trailingTime?_hourMinuteChars (whole clock rfl) (.inl rfl))

theorem yearOrNot?_timeTail (insideWord : Bool) (time : Option TimeOfDay) :
    yearOrNot? insideWord (timeTail time) =
      if insideWord = false then none else some (none, timeTail time) := by
  have noYear : (afterBlanks? (timeTail time)).bind yearDigits? = none := by
    cases time with
    | none => rfl
    | some clock =>
        obtain ⟨a, b, c, d, hour, -, printed⟩ := TimeText.exists_hourMinute clock
        have start : afterBlanks? (timeTail (some clock)) = some clock.hourMinuteChars :=
          congrArg some (skipBlanks_padded 2 clock.hour _)
        have first := isDigit_of_isAsciiDigit (printed.digits a (by simp))
        have second := isDigit_of_isAsciiDigit (printed.digits b (by simp))
        have mark : isDigit ':' = false := by decide
        rw [start, Option.bind_some, TimeOfDay.hourMinuteChars, hour]
        simp [yearDigits?, takeUpTo, first, second, mark]
  rw [yearOrNot?, noYear, startsWithWord_timeTail]

theorem word?_append {word : List Char} (nonempty : word ≠ [])
    (letters : ∀ c ∈ word, isAsciiLower c = true) {rest : List Char}
    (stops : ∀ c ∈ rest.head?, isAsciiLower c = false) :
    word? (word ++ rest) = some (word, rest) :=
  word?_eq_some_iff.mpr ⟨takeRun_append letters stops, nonempty⟩

theorem monthAndYear?_without {word : List Char} (nonempty : word ≠ [])
    (letters : ∀ c ∈ word, isAsciiLower c = true) (point : Bool) (time : Option TimeOfDay) :
    monthAndYear? (word ++ (pointChars point ++ timeTail time)) =
      some (word, none, pointChars point ++ timeTail time) := by
  have stops : ∀ c ∈ (pointChars point ++ timeTail time).head?, isAsciiLower c = false := by
    cases point <;> cases time <;> rintro _ ⟨⟩ <;> rfl
  have worded := word?_append nonempty letters stops
  simp only [monthAndYear?, worded, Option.bind_eq_bind, Option.bind_some]
  split
  · rename_i after tail
    have behindPoint : after = timeTail time := by
      cases point with
      | true => exact (List.cons.inj tail).2.symm
      | false => cases time <;> cases tail
    rw [behindPoint, yearOrNot?_timeTail]
    rfl
  · rename_i noPoint
    cases point with
    | true => exact absurd rfl (noPoint (timeTail time))
    | false =>
        rw [pointChars, if_neg Bool.false_ne_true, List.nil_append, yearOrNot?_timeTail]
        rfl

theorem yearDigits?_padded {year : Nat} (small : year < 10 ^ 4) (tail : List Char)
    (ends : startsWithWord tail = false) :
    yearDigits? (padded 4 year ++ tail) = some (padded 4 year, tail) := by
  have length : (padded 4 year).length = 4 := length_padded (by decide) small
  have taken := takeUpTo_append_rest isDigit tail fun c (member : c ∈ padded 4 year) =>
    isDigit_of_isAsciiDigit (isAsciiDigit_of_mem_padded member)
  rw [length] at taken
  obtain ⟨a, b, c, d, four⟩ : ∃ a b c d, padded 4 year = [a, b, c, d] := by
    generalize padded 4 year = digits at length
    match digits, length with
    | [a, b, c, d], _ => exact ⟨a, b, c, d, rfl⟩
  rw [yearDigits?, taken, four]
  simp [ends]

theorem year?_padded {year : Nat} (small : year < 10 ^ 4) :
    year? (padded 4 year) = some (year : Int) := by
  have digits := yearDigits?_padded small [] rfl
  rw [year?_of_yearDigits? digits, number?_padded]
  rfl

theorem monthAndYear?_with {word : List Char} (nonempty : word ≠ [])
    (letters : ∀ c ∈ word, isAsciiLower c = true) (point : Bool) {year : Nat}
    (small : year < 10 ^ 4) (time : Option TimeOfDay) :
    monthAndYear? (word ++ (pointChars point ++ ' ' :: (padded 4 year ++ timeTail time))) =
      some (word, some (padded 4 year), timeTail time) := by
  have stops : ∀ c ∈ (pointChars point ++ ' ' :: (padded 4 year ++ timeTail time)).head?,
      isAsciiLower c = false := by
    cases point <;> rintro _ ⟨⟩ <;> rfl
  have worded := word?_append nonempty letters stops
  have blanks : afterBlanks? (skipOne (· == '.')
      (pointChars point ++ ' ' :: (padded 4 year ++ timeTail time))) =
        some (padded 4 year ++ timeTail time) := by
    have skipped : skipOne (· == '.')
        (pointChars point ++ ' ' :: (padded 4 year ++ timeTail time)) =
          ' ' :: (padded 4 year ++ timeTail time) := by
      cases point <;> rfl
    rw [skipped]
    exact congrArg some (skipBlanks_padded 4 year _)
  exact monthAndYear?_of_year worded blanks
    (yearDigits?_padded small _ (startsWithWord_timeTail time))

def monthTail (word : List Char) (point : Bool) (year : Option Nat) (time : Option TimeOfDay) :
    List Char :=
  match year with
  | some year => word ++ (pointChars point ++ ' ' :: (padded 4 year ++ timeTail time))
  | none => word ++ (pointChars point ++ timeTail time)

theorem dayThenMonth?_monthTail {digits word : List Char} (nonempty : digits ≠ [])
    (short : digits.length ≤ 2) (allDigits : ∀ c ∈ digits, isAsciiDigit c = true)
    (named : word ≠ []) (letters : ∀ c ∈ word, isAsciiLower c = true) (point : Bool)
    {year : Option Nat} (small : ∀ number ∈ year, number < 10 ^ 4) {time : Option TimeOfDay}
    (whole : ∀ clock ∈ time, clock.IsWholeMinute) :
    ∃ rest, dayThenMonth? (digits ++ ' ' :: monthTail word point year time) =
        some ⟨digits, word, year.map (padded 4), rest⟩ ∧ trailingTime? rest = time := by
  have day : dayDigits? (digits ++ ' ' :: monthTail word point year time) =
      some (digits, ' ' :: monthTail word point year time) :=
    dayDigits?_eq_some_iff.mpr ⟨takeUpTo_append_stop isDigit
      (fun c member => isDigit_of_isAsciiDigit (allDigits c member)) short rfl, nonempty⟩
  have blanks : afterBlanks? (' ' :: monthTail word point year time) =
      some (monthTail word point year time) := by
    obtain ⟨c, later, rfl⟩ := List.exists_cons_of_ne_nil named
    have first := letters c List.mem_cons_self
    have visible : ¬isBlank c = true := fun blank => by
      rw [isAsciiLower_of_isBlank blank] at first
      cases first
    have start : skipBlanks (monthTail (c :: later) point year time) =
        monthTail (c :: later) point year time := by
      cases year <;> exact List.dropWhile_cons_of_neg visible
    rw [afterBlanks?, if_pos (by decide), start]
  cases year with
  | some number =>
      have read := monthAndYear?_with named letters point (small number rfl) time
      refine ⟨skipBlanks (timeTail time), ?_, trailingTime?_timeTail whole false⟩
      simp only [dayThenMonth?, day, blanks, Option.bind_eq_bind, Option.bind_some]
      rw [monthTail, read]
      rfl
  | none =>
      have read := monthAndYear?_without named letters point time
      refine ⟨skipBlanks (pointChars point ++ timeTail time), ?_,
        trailingTime?_timeTail whole point⟩
      simp only [dayThenMonth?, day, blanks, Option.bind_eq_bind, Option.bind_some]
      rw [monthTail, read]
      rfl

theorem resolve?_of_read {date today : Date} {digits word rest : List Char} {year : Option Nat}
    {time : Option TimeOfDay} (inCalendar : date.InCalendar) (day : number? digits = some date.day)
    (month : month? word = some date.month)
    (dated : (year.map Nat.cast).getD (inferYear date.month date.day today) = date.year)
    (years : (year.map (padded 4)).bind year? = year.map Nat.cast)
    (timed : trailingTime? rest = time) :
    (Parts.mk digits word (year.map (padded 4)) rest).resolve? today = some ⟨date, time⟩ := by
  have named : resolveDate? (year.map Nat.cast) date.month date.day today = some date := by
    rw [resolveDate?, dated, Date.named?, Date.ofYmd?_self, Option.filter_some,
      decide_eq_true inCalendar]
    rfl
  simp only [Parts.resolve?, day, month, years, named, timed, Option.bind_eq_bind, Option.bind_some]
  rfl

end DateText

end GigListings
