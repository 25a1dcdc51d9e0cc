import GigListings.Proofs.Calendar.Timestamp
import GigListings.Proofs.Printed.BlankEnds

namespace GigListings

open Text

/-! Single times: blanks around them make no difference, and an hour that stands alone reads
differently once it is given `am` or `pm`. -/

namespace TimeOfDay

theorem exists_ofHourMinute? {hour minute : Nat} (places : hour < 24 ∧ minute < 60) :
    ∃ time, ofHourMinute? hour minute = some time ∧ time.hour = hour ∧ time.minute = minute := by
  have within : hour * 3600 + minute * 60 + 0 < secondsPerDay := by
    simp only [secondsPerDay]
    omega
  refine ⟨⟨hour * 3600 + minute * 60 + 0, 0, within, by decide⟩, ?_, ?_, ?_⟩
  · rw [ofHourMinute?, ofClock?_of_lt places (by decide), ofSeconds?, dif_pos ⟨within, by decide⟩]
  · simp only [TimeOfDay.hour]
    omega
  · simp only [TimeOfDay.minute]
    omega

theorem places_of_ofHourMinute? {hour minute : Nat} {time : TimeOfDay}
    (read : ofHourMinute? hour minute = some time) : hour < 24 ∧ minute < 60 := by
  rw [ofHourMinute?, ofClock?] at read
  split at read
  · assumption
  · cases read

theorem hour_of_ofHourMinute? {hour minute : Nat} {time : TimeOfDay}
    (read : ofHourMinute? hour minute = some time) : time.hour = hour ∧ time.minute = minute := by
  obtain ⟨same, again, places⟩ := exists_ofHourMinute? (places_of_ofHourMinute? read)
  rw [read] at again
  cases again
  exact places

end TimeOfDay

namespace TimeText

/-! Blanks around single times. -/

theorem isTimeMark_of_isBlank {c : Char} (blank : isBlank c = true) : isTimeMark c = false := by
  by_contra mark
  simp only [isTimeMark, Bool.not_eq_false, Bool.or_eq_true, beq_iff_eq] at mark
  rcases mark with rfl | rfl <;> exact absurd blank (by decide)

theorem minuteAt?_append_tail (text : List Char) {tail : List Char} (blank : AllBlank tail) :
    minuteAt? (text ++ tail) =
      (minuteAt? text).map fun (minute, rest) => (minute, rest ++ tail) := by
  match text, tail, blank with
  | [], [], _ => rfl
  | [], [_], _ => rfl
  | [], [_, _], _ => rfl
  | [], c :: _ :: _ :: _, blank =>
      simp [minuteAt?, isTimeMark_of_isBlank blank.of_cons.1]
  | [_], [], _ => rfl
  | [_], [_], _ => rfl
  | [_], c :: _ :: _, blank => simp [minuteAt?, isDigit_of_isBlank blank.of_cons.1]
  | [_, _], [], _ => rfl
  | [_, _], c :: _, blank => simp [minuteAt?, isDigit_of_isBlank blank.of_cons.1]
  | mark :: a :: b :: rest, _, _ =>
      simp only [List.cons_append, minuteAt?]
      split <;> rfl

theorem minuteEnd?_append_tail (text : List Char) {tail : List Char} (blank : AllBlank tail) :
    minuteEnd? (text ++ tail) = minuteEnd? text := by
  match text, tail, blank with
  | [], [], _ => rfl
  | [], [_], _ => rfl
  | [], [_, _], _ => rfl
  | [], c :: _ :: _ :: _, blank =>
      simp [minuteEnd?, isTimeMark_of_isBlank blank.of_cons.1]
  | [_], [], _ => rfl
  | [_], [_], _ => rfl
  | [_], c :: d :: _, blank =>
      simp [minuteEnd?, isDigit_of_isBlank blank.of_cons.2.of_cons.1]
  | [_, _], [], _ => rfl
  | [_, _], c :: _, blank => simp [minuteEnd?, isDigit_of_isBlank blank.of_cons.1]
  | mark :: a :: b :: rest, _, blank =>
      simp only [List.cons_append, minuteEnd?, startsWithWord_append_tail rest blank.startsWithWord]

theorem meridiemAt?_append_tail (text : List Char) {tail : List Char} (blank : AllBlank tail) :
    meridiemAt? (text ++ tail) = meridiemAt? text := by
  have noPoint : ∀ c ∈ tail.head?, (c == '.') = false := by
    intro c head
    have mark := isTimeMark_of_isBlank (blank c (List.mem_of_mem_head? head))
    simp only [isTimeMark, Bool.or_eq_false_iff] at mark
    exact mark.2
  unfold meridiemAt?
  rw [skipBlanks_append_tail text blank]
  cases skipBlanks text with
  | nil => rfl
  | cons letter rest =>
      simp only [List.cons_ne_nil, if_false, List.cons_append, skipOne_append_tail rest noPoint,
        skipBlanks_append_tail _ blank]
      cases skipBlanks (skipOne (· == '.') rest) with
      | nil => rfl
      | cons m rest =>
          simp only [List.cons_ne_nil, if_false, List.cons_append,
            startsWithWord_append_tail rest blank.startsWithWord]

theorem twelveHourAt?_append_tail (text : List Char) {tail : List Char} (blank : AllBlank tail) :
    twelveHourAt? (text ++ tail) = twelveHourAt? text := by
  unfold twelveHourAt?
  rw [takeUpTo_append_tail 2 text (isDigit_head blank.startsWithWord)]
  simp only [minuteAt?_append_tail _ blank]
  cases minuteAt? (takeUpTo isDigit 2 text).2 with
  | none => simp only [Option.map_none, meridiemAt?_append_tail _ blank]
  | some found => simp only [Option.map_some, meridiemAt?_append_tail _ blank]

theorem twentyFourHourAt?_append_tail (c : Char) (text : List Char) {tail : List Char}
    (blank : AllBlank tail) :
    twentyFourHourAt? (c :: text ++ tail) = twentyFourHourAt? (c :: text) := by
  cases text with
  | cons d text =>
      have short := minuteEnd?_append_tail (d :: text) blank
      rw [List.cons_append] at short
      simp only [List.cons_append, twentyFourHourAt?, short, minuteEnd?_append_tail text blank]
  | nil =>
      cases tail with
      | nil => rfl
      | cons d tail =>
          have none : minuteEnd? (d :: tail) = none := minuteEnd?_append_tail [] blank
          simp [twentyFourHourAt?, isDigit_of_isBlank blank.of_cons.1, none]

section Find

variable {at? : List Char → Option α}

theorem findNumber?_append_lead {lead : List Char} (noWord : ∀ c ∈ lead, isWord c = false)
    (text : List Char) : findNumber? at? false (lead ++ text) = findNumber? at? false text := by
  induction lead with
  | nil => rfl
  | cons c lead induction =>
      obtain ⟨first, others⟩ := List.forall_mem_cons.mp noWord
      simp only [List.cons_append, findNumber?, isDigit_of_not_isWord first, first, Bool.and_false,
        Bool.false_eq_true, if_false, induction others]

theorem findNumber?_append_tail {tail : List Char} (blank : AllBlank tail)
    (reads : ∀ c text, at? (c :: text ++ tail) = at? (c :: text)) (insideWord : Bool)
    (text : List Char) :
    findNumber? at? insideWord (text ++ tail) = findNumber? at? insideWord text := by
  induction text generalizing insideWord with
  | nil =>
      have none : findNumber? at? false (tail ++ []) = findNumber? at? false [] :=
        findNumber?_append_lead blank.isWord []
      rw [List.append_nil] at none
      cases tail with
      | nil => rfl
      | cons c tail =>
          simp only [List.nil_append, findNumber?, isDigit_of_isBlank blank.of_cons.1,
            Bool.and_false, Bool.false_eq_true, if_false] at none ⊢
          exact none
  | cons c text induction =>
      have here := reads c text
      rw [List.cons_append] at here ⊢
      simp only [findNumber?, here, induction]

theorem findNumber?_trim
    (reads : ∀ {tail}, AllBlank tail → ∀ c text, at? (c :: text ++ tail) = at? (c :: text))
    (text : List Char) : findNumber? at? false (trim text) = findNumber? at? false text := by
  obtain ⟨lead, tail, leadBlank, tailBlank, equation⟩ := exists_trim text
  conv => rhs; rw [equation]
  rw [findNumber?_append_tail tailBlank (reads tailBlank), findNumber?_append_lead leadBlank.isWord]

end Find

theorem findTwelveHour?_trim (text : List Char) :
    findTwelveHour? (trim text) = findTwelveHour? text :=
  findNumber?_trim (fun blank c text => twelveHourAt?_append_tail (c :: text) blank) text

theorem findTwentyFourHour?_trim (text : List Char) :
    findTwentyFourHour? (trim text) = findTwentyFourHour? text :=
  findNumber?_trim (fun blank c text => twentyFourHourAt?_append_tail c text blank) text

theorem single?_append_lead {lead : List Char} (noWord : ∀ c ∈ lead, isWord c = false)
    (text : List Char) : single? (lead ++ text) = single? text := by
  simp only [single?, findTwelveHour?, findTwentyFourHour?, findNumber?_append_lead noWord]

theorem single?_trim (text : List Char) : single? (trim text) = single? text := by
  rw [single?, single?, findTwelveHour?_trim, findTwentyFourHour?_trim]

/-! Bare hours. -/

/-- An hour and a minute that stand alone, of one or two digits and of two. -/
inductive IsBareTime : (hour minute text : List Char) → Prop where
  | short {a mark c d : Char} (isMark : isTimeMark mark = true)
      (digits : isDigit a = true ∧ isDigit c = true ∧ isDigit d = true) :
      IsBareTime [a] [c, d] [a, mark, c, d]
  | long {a b mark c d : Char} (isMark : isTimeMark mark = true)
      (digits : isDigit a = true ∧ isDigit b = true ∧ isDigit c = true ∧ isDigit d = true) :
      IsBareTime [a, b] [c, d] [a, b, mark, c, d]

theorem isDigit_of_isTimeMark {mark : Char} (isMark : isTimeMark mark = true) :
    isDigit mark = false ∧ isWord mark = false := by
  simp only [isTimeMark, Bool.or_eq_true, beq_iff_eq] at isMark
  rcases isMark with rfl | rfl <;> decide

theorem isWord_of_isDigit {c : Char} (digit : isDigit c = true) : isWord c = true := by
  cases word : isWord c with
  | true => rfl
  | false =>
      rw [isDigit_of_not_isWord word] at digit
      cases digit

theorem minuteAt?_eq_some {text minute rest : List Char}
    (found : minuteAt? text = some (minute, rest)) :
    ∃ mark c d, minute = [c, d] ∧ text = mark :: c :: d :: rest ∧
      isTimeMark mark = true ∧ isDigit c = true ∧ isDigit d = true := by
  unfold minuteAt? at found
  split at found
  · rename_i mark c d rest
    split at found
    · rename_i marked
      cases found
      exact ⟨mark, c, d, rfl, rfl, marked⟩
    · cases found
  · cases found

theorem minute_of_bare {rest : List Char}
    (bare : (match rest with
      | [] => true
      | rest => match minuteAt? rest with
        | some (_, []) => true
        | _ => false) = true) :
    rest = [] ∨ ∃ mark c d, rest = [mark, c, d] ∧
      isTimeMark mark = true ∧ isDigit c = true ∧ isDigit d = true := by
  cases rest with
  | nil => exact .inl rfl
  | cons c rest =>
      dsimp only at bare
      split at bare
      · rename_i found
        obtain ⟨mark, c, d, -, whole, marked⟩ := minuteAt?_eq_some found
        exact .inr ⟨mark, c, d, whole, marked⟩
      · cases bare

theorem bareHour_cases {text : List Char} (bare : isBareHour text = true) :
    (∃ a, text = [a] ∧ isDigit a = true) ∨
      (∃ a b, text = [a, b] ∧ isDigit a = true ∧ isDigit b = true) ∨
      ∃ hour minute, IsBareTime hour minute text := by
  match text with
  | [] => cases bare
  | [a] =>
      cases digit : isDigit a with
      | false => simp [isBareHour, takeUpTo, digit] at bare
      | true => exact .inl ⟨a, rfl, digit⟩
  | a :: b :: rest =>
      cases first : isDigit a with
      | false => simp [isBareHour, takeUpTo, first] at bare
      | true =>
          cases second : isDigit b with
          | false =>
              simp only [isBareHour, takeUpTo, first, second, if_true, Bool.false_eq_true,
                if_false, ne_eq, List.cons_ne_nil, not_false_eq_true, decide_true,
                Bool.true_and] at bare
              rcases @minute_of_bare (b :: rest) bare with
                none | ⟨mark, c, d, equation, isMark, digits⟩
              · cases none
              · cases equation
                exact .inr (.inr ⟨_, _, .short isMark ⟨first, digits⟩⟩)
          | true =>
              simp only [isBareHour, takeUpTo, first, second, if_true, ne_eq, List.cons_ne_nil,
                not_false_eq_true, decide_true, Bool.true_and] at bare
              rcases minute_of_bare bare with rfl | ⟨mark, c, d, rfl, isMark, digits⟩
              · exact .inr (.inl ⟨a, b, rfl, first, second⟩)
              · exact .inr (.inr ⟨_, _, .long isMark ⟨first, second, digits⟩⟩)

/-! Where the parts of a time on the 12-hour clock come from. -/

theorem meridiemAt?_mem {text : List Char} {letter : Char}
    (found : meridiemAt? text = some letter) : letter ∈ text ∧ isMeridiem letter = true := by
  have kept : skipBlanks text ⊆ text := (List.dropWhile_sublist isBlank).subset
  unfold meridiemAt? at found
  split at found
  · rename_i first rest skipped
    have member : first ∈ text := kept (skipped ▸ List.mem_cons_self)
    split at found
    · rename_i isLetter
      split at found
      · split at found
        · cases found
          exact ⟨member, isLetter⟩
        · cases found
      · cases found
    · cases found
  · cases found

theorem twelveHourAt?_mem {text : List Char} {printed : TwelveHour}
    (found : twelveHourAt? text = some printed) :
    printed.meridiem ∈ text ∧ isMeridiem printed.meridiem = true := by
  have kept : (takeUpTo isDigit 2 text).2 ⊆ text := by
    conv => rhs; rw [← takeUpTo_append isDigit 2 text]
    exact List.subset_append_right _ _
  unfold twelveHourAt? at found
  dsimp only at found
  split at found
  · rename_i minute rest minuteFound
    obtain ⟨letter, letterFound, rfl⟩ := Option.map_eq_some_iff.mp found
    obtain ⟨member, isLetter⟩ := meridiemAt?_mem letterFound
    obtain ⟨mark, c, d, -, whole, -⟩ := minuteAt?_eq_some minuteFound
    refine ⟨kept ?_, isLetter⟩
    rw [whole]
    exact List.mem_cons_of_mem _ (List.mem_cons_of_mem _ (List.mem_cons_of_mem _ member))
  · obtain ⟨letter, letterFound, rfl⟩ := Option.map_eq_some_iff.mp found
    obtain ⟨member, isLetter⟩ := meridiemAt?_mem letterFound
    exact ⟨kept member, isLetter⟩

theorem exists_suffix_of_findNumber? {at? : List Char → Option α} {insideWord : Bool}
    {text : List Char} {found : α} (read : findNumber? at? insideWord text = some found) :
    ∃ c rest, c :: rest <:+ text ∧ isDigit c = true ∧ at? (c :: rest) = some found := by
  induction text generalizing insideWord with
  | nil => cases read
  | cons c text induction =>
      rw [findNumber?] at read
      split at read
      · rename_i here
        cases read
        split at here
        · rename_i begins
          exact ⟨c, text, List.suffix_rfl, (Bool.and_eq_true_iff.mp begins).2, here⟩
        · cases here
      · obtain ⟨d, rest, behind, found⟩ := induction read
        exact ⟨d, rest, behind.trans (List.suffix_cons c text), found⟩

theorem findTwelveHour?_mem {text : List Char} {printed : TwelveHour}
    (found : findTwelveHour? text = some printed) :
    printed.meridiem ∈ text ∧ isMeridiem printed.meridiem = true := by
  obtain ⟨c, rest, behind, -, read⟩ := exists_suffix_of_findNumber? found
  obtain ⟨member, isLetter⟩ := twelveHourAt?_mem read
  exact ⟨behind.subset member, isLetter⟩

theorem exists_digit_of_single? {text : List Char} {time : TimeOfDay}
    (read : single? text = some time) : ∃ c ∈ text, isDigit c = true := by
  have digit {α : Type} {at? : List Char → Option α} {found : α}
      (read : findNumber? at? false text = some found) : ∃ c ∈ text, isDigit c = true := by
    obtain ⟨c, rest, behind, digit, -⟩ := exists_suffix_of_findNumber? read
    exact ⟨c, behind.subset List.mem_cons_self, digit⟩
  unfold single? at read
  split at read
  · rename_i found
    exact digit found
  · obtain ⟨printed, found, -⟩ := Option.bind_eq_some_iff.mp read
    exact digit found

theorem findTwelveHour?_of_no_meridiem {text : List Char}
    (noLetter : ∀ c ∈ text, isMeridiem c = false) : findTwelveHour? text = none := by
  cases found : findTwelveHour? text with
  | none => rfl
  | some printed =>
      obtain ⟨member, isLetter⟩ := findTwelveHour?_mem found
      rw [noLetter _ member] at isLetter
      cases isLetter

theorem isMeridiem_of_isDigit {c : Char} (digit : isDigit c = true) : isMeridiem c = false := by
  by_contra letter
  simp only [isMeridiem, Bool.not_eq_false, Bool.or_eq_true, beq_iff_eq] at letter
  rcases letter with ((rfl | rfl) | rfl) | rfl <;> exact absurd digit (by decide)

theorem isMeridiem_of_isTimeMark {c : Char} (isMark : isTimeMark c = true) :
    isMeridiem c = false := by
  simp only [isTimeMark, Bool.or_eq_true, beq_iff_eq] at isMark
  rcases isMark with rfl | rfl <;> decide

/-! Bare hours as times of the 24-hour clock, and with a borrowed letter. -/

theorem single?_lone {a b : Char} (first : isDigit a = true) (second : isDigit b = true) :
    single? [a] = none ∧ single? [a, b] = none := by
  have shorter : findTwelveHour? [a] = none :=
    findTwelveHour?_of_no_meridiem (by simp [isMeridiem_of_isDigit first])
  have longer : findTwelveHour? [a, b] = none :=
    findTwelveHour?_of_no_meridiem
      (by simp [isMeridiem_of_isDigit first, isMeridiem_of_isDigit second])
  simp [single?, shorter, longer, findTwentyFourHour?, findNumber?, twentyFourHourAt?, minuteEnd?,
    second]

namespace IsBareTime

variable {hour minute text : List Char}

theorem findTwelveHour? (bare : IsBareTime hour minute text) :
    TimeText.findTwelveHour? text = none := by
  apply findTwelveHour?_of_no_meridiem
  cases bare with
  | short isMark digits =>
      simp [isMeridiem_of_isTimeMark isMark, isMeridiem_of_isDigit, digits]
  | long isMark digits =>
      simp [isMeridiem_of_isTimeMark isMark, isMeridiem_of_isDigit, digits]

theorem eq_of_findTwentyFourHour? (bare : IsBareTime hour minute text) {printed : TwentyFourHour}
    (found : findTwentyFourHour? text = some printed) : printed = ⟨hour, minute⟩ := by
  cases bare with
  | @short a mark c d isMark digits =>
      obtain ⟨noDigit, noWord⟩ := isDigit_of_isTimeMark isMark
      obtain ⟨first, second, third⟩ := digits
      simp only [findTwentyFourHour?, findNumber?, twentyFourHourAt?, minuteEnd?, isMark, noDigit,
        noWord, first, second, third, isWord_of_isDigit, startsWithWord] at found
      by_cases small : '0' ≤ c ∧ c ≤ '5'
      · simpa [small] using found.symm
      · simp [small] at found
  | @long a b mark c d isMark digits =>
      obtain ⟨noDigit, noWord⟩ := isDigit_of_isTimeMark isMark
      obtain ⟨first, second, third, fourth⟩ := digits
      simp only [findTwentyFourHour?, findNumber?, twentyFourHourAt?, minuteEnd?, isMark, noDigit,
        noWord, first, second, third, fourth, isWord_of_isDigit, startsWithWord] at found
      by_cases pair : isHourPair a b = true
      · by_cases small : '0' ≤ c ∧ c ≤ '5'
        · simpa [pair, small] using found.symm
        · simp [pair, small] at found
      · simp [pair] at found

theorem findTwelveHour?_append (bare : IsBareTime hour minute text) {letter : Char}
    (isLetter : isMeridiem letter = true) :
    TimeText.findTwelveHour? (text ++ [letter, 'm']) = some ⟨hour, some minute, letter⟩ := by
  have ending : meridiemAt? [letter, 'm'] = some letter := by
    simp only [isMeridiem, Bool.or_eq_true, beq_iff_eq] at isLetter
    rcases isLetter with ((rfl | rfl) | rfl) | rfl <;> decide
  cases bare with
  | short isMark digits =>
      simp [TimeText.findTwelveHour?, findNumber?, twelveHourAt?, takeUpTo, minuteAt?, isMark,
        (isDigit_of_isTimeMark isMark).1, digits, ending]
  | long isMark digits =>
      simp [TimeText.findTwelveHour?, findNumber?, twelveHourAt?, takeUpTo, minuteAt?, isMark,
        digits, ending]

end IsBareTime

theorem exists_isBareTime {text : List Char} (bare : isBareHour text = true) {time : TimeOfDay}
    (read : single? text = some time) :
    ∃ hour minute, IsBareTime hour minute text ∧
      (TwentyFourHour.mk hour minute).time? = some time := by
  rcases bareHour_cases bare with
    ⟨a, rfl, digit⟩ | ⟨a, b, rfl, first, second⟩ | ⟨hour, minute, isBare⟩
  · rw [(single?_lone digit digit).1] at read
    cases read
  · rw [(single?_lone first second).2] at read
    cases read
  · refine ⟨hour, minute, isBare, ?_⟩
    rw [single?, isBare.findTwelveHour?] at read
    obtain ⟨printed, found, read⟩ := Option.bind_eq_some_iff.mp read
    rwa [isBare.eq_of_findTwentyFourHour? found] at read

theorem single?_append_meridiem {text : List Char} (bare : isBareHour text = true)
    {time : TimeOfDay} (read : single? text = some time) {letter : Char}
    (isLetter : isMeridiem letter = true) :
    single? (text ++ [letter, 'm']) =
      if 1 ≤ time.hour ∧ time.hour ≤ 12 then
        TimeOfDay.ofHourMinute? (hourOfDay time.hour (asciiLower letter == 'p')) time.minute
      else none := by
  obtain ⟨hour, minute, isBare, printed⟩ := exists_isBareTime bare read
  simp only [TwentyFourHour.time?, Option.bind_eq_bind, Option.bind_eq_some_iff] at printed
  obtain ⟨hours, hourRead, minutes, minuteRead, same⟩ := printed
  obtain ⟨rfl, rfl⟩ := TimeOfDay.hour_of_ofHourMinute? same
  rw [single?, isBare.findTwelveHour?_append isLetter]
  simp only [TwelveHour.time?, hourRead, Option.map_some, minuteRead, Option.getD_some,
    Option.bind_eq_bind, Option.bind_some]

end TimeText

end GigListings
