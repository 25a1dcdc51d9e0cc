import GigListings.Proofs.Printed.TrailingRange
import Mathlib.Computability.StateTransition

namespace GigListings.TimeText

open Text

/-! Chains of times, as `Doors: 19:00 - 20:30 until 23:00`. The range that such a chain is read as
starts with its first time and ends with its last. -/

/-! Doors in front of a time. -/

def IsOpened (opened : List Char) : Prop :=
  opened = [] ∨ ∃ blanks word, DateText.IsBlanks blanks ∧
    word.map foldChar = ['o', 'p', 'e', 'n'] ∧ opened = blanks ++ word

/-- `Doors`, `door open:`, `DOORS -` and the like, with blanks around them. -/
inductive IsDoors : List Char → Prop where
  | intro {lead door plural opened gap mark tail : List Char} (leadBlank : AllBlank lead)
      (isDoor : door.map foldChar = ['d', 'o', 'o', 'r'])
      (isPlural : plural = [] ∨ plural.map foldChar = ['s'])
      (isOpened : IsOpened opened) (gapBlank : AllBlank gap) (isMark : mark ∈ [[], [':'], ['-']])
      (tailBlank : AllBlank tail) :
      IsDoors (lead ++ (door ++ (plural ++ (opened ++ (gap ++ (mark ++ tail))))))

/-- So begins what stands behind the doors: neither a plural nor `open` is found in it. -/
def BeginsWithoutLetter (text : List Char) : Prop :=
  ∀ c ∈ text.head?, DateText.isFoldedLetter c = false

theorem beginsWithoutLetter_cons {c : Char} (noLetter : DateText.isFoldedLetter c = false)
    (text : List Char) : BeginsWithoutLetter (c :: text) := by
  rintro _ ⟨⟩
  exact noLetter

theorem BeginsWithoutLetter.of_skipBlanks {text : List Char}
    (begins : BeginsWithoutLetter (skipBlanks text)) : BeginsWithoutLetter text := by
  cases text with
  | nil => exact begins
  | cons c text =>
      by_cases blank : isBlank c = true
      · exact beginsWithoutLetter_cons (DateText.isFoldedLetter_of_isBlank blank) text
      · have kept : skipBlanks (c :: text) = c :: text := List.dropWhile_cons_of_neg blank
        rwa [kept] at begins

theorem afterFolded?_of_beginsWithoutLetter {letter : Char} (isLetter : isAsciiLower letter = true)
    (lead : List Char) {text : List Char} (begins : BeginsWithoutLetter text) :
    afterFolded? foldChar (letter :: lead) text = none := by
  cases text with
  | nil => rfl
  | cons c text =>
      have noLetter := begins c rfl
      refine if_neg ?_
      rintro rfl
      rw [DateText.isFoldedLetter, isLetter] at noLetter
      cases noLetter

theorem afterFolded?_self (fold : Char → Char) (word rest : List Char) :
    afterFolded? fold (word.map fold) (word ++ rest) = some rest := by
  induction word with
  | nil => rfl
  | cons c word induction => exact (if_pos rfl).trans induction

theorem skipBlanks_word {letter : Char} {lead word : List Char}
    (isLetter : isAsciiLower letter = true) (folds : word.map foldChar = letter :: lead)
    (rest : List Char) : skipBlanks (word ++ rest) = word ++ rest := by
  obtain ⟨c, others, rfl, first, -⟩ := List.map_eq_cons_iff.mp folds
  refine List.dropWhile_cons_of_neg fun blank => ?_
  have noLetter := DateText.isFoldedLetter_of_isBlank blank
  rw [DateText.isFoldedLetter, first, isLetter] at noLetter
  cases noLetter

/-! What stands between the words and the time is skipped. -/

def isDoorMark (c : Char) : Bool := c == ':' || c == '-'

section Skipped

variable {gap mark tail : List Char} {c : Char} (gapBlank : AllBlank gap)
  (isMark : mark ∈ [[], [':'], ['-']]) (tailBlank : AllBlank tail) (digit : isDigit c = true)

include digit

theorem beginsWithoutLetter_of_isDigit (text : List Char) : BeginsWithoutLetter (c :: text) := by
  refine beginsWithoutLetter_cons (Bool.eq_false_of_not_eq_true fun letter => ?_) text
  rw [isDigit_of_isFoldedLetter letter] at digit
  cases digit

theorem isBlank_of_isDigit : isBlank c = false := by
  refine Bool.eq_false_of_not_eq_true fun blank => ?_
  rw [isDigit_of_isBlank blank] at digit
  cases digit

theorem skipBlanks_digit (text : List Char) : skipBlanks (c :: text) = c :: text :=
  List.dropWhile_cons_of_neg (by simp [isBlank_of_isDigit digit])

theorem skipOne_isDoorMark_digit (text : List Char) :
    skipOne isDoorMark (c :: text) = c :: text := by
  apply if_neg
  intro isMark
  simp only [isDoorMark, Bool.or_eq_true, beq_iff_eq] at isMark
  rcases isMark with rfl | rfl <;> exact absurd digit (by decide)

include gapBlank isMark tailBlank

theorem skipOne_behind (text : List Char) :
    BeginsWithoutLetter (skipBlanks (gap ++ (mark ++ (tail ++ c :: text)))) ∧
      skipBlanks (skipOne isDoorMark (skipBlanks (gap ++ (mark ++ (tail ++ c :: text))))) =
        c :: text := by
  have behind : skipBlanks (tail ++ c :: text) = c :: text :=
    (skipBlanks_append tailBlank _).trans (skipBlanks_digit digit text)
  rw [skipBlanks_append gapBlank]
  simp only [List.mem_cons, List.not_mem_nil, or_false] at isMark
  rcases isMark with rfl | rfl | rfl
  · rw [List.nil_append, behind, skipOne_isDoorMark_digit digit, skipBlanks_digit digit]
    exact ⟨beginsWithoutLetter_of_isDigit digit text, rfl⟩
  · exact ⟨beginsWithoutLetter_cons (by decide) _, behind⟩
  · exact ⟨beginsWithoutLetter_cons (by decide) _, behind⟩

end Skipped

theorem skipOne_plural {plural rest : List Char}
    (isPlural : plural = [] ∨ plural.map foldChar = ['s']) (begins : BeginsWithoutLetter rest) :
    skipOne (foldChar · == 's') (plural ++ rest) = rest := by
  rcases isPlural with rfl | folds
  · cases rest with
    | nil => rfl
    | cons c rest =>
        have noLetter := begins c rfl
        refine if_neg fun same => ?_
        rw [DateText.isFoldedLetter, beq_iff_eq.mp same] at noLetter
        cases noLetter
  · obtain ⟨c, _, rfl, same, none⟩ := List.map_eq_cons_iff.mp folds
    rw [List.map_eq_nil_iff.mp none]
    exact if_pos (beq_iff_eq.mpr same)

theorem afterBlanks?_append {blanks : List Char} (isBlanks : DateText.IsBlanks blanks)
    (rest : List Char) : afterBlanks? (blanks ++ rest) = some (skipBlanks rest) := by
  obtain ⟨c, others, rfl⟩ := List.exists_cons_of_ne_nil isBlanks.nonempty
  obtain ⟨first, later⟩ := isBlanks.blank.of_cons
  rw [List.cons_append, afterBlanks?, if_pos first, skipBlanks_append later]

theorem beginsWithoutLetter_opened {opened behind : List Char}
    (isOpened : IsOpened opened) (begins : BeginsWithoutLetter behind) :
    BeginsWithoutLetter (opened ++ behind) := by
  rcases isOpened with rfl | ⟨blanks, word, isBlanks, -, rfl⟩
  · exact begins
  · obtain ⟨c, others, rfl⟩ := List.exists_cons_of_ne_nil isBlanks.nonempty
    exact beginsWithoutLetter_cons
      (DateText.isFoldedLetter_of_isBlank isBlanks.blank.of_cons.1) _

theorem afterOpened_eq {opened behind : List Char}
    (isOpened : IsOpened opened) (begins : BeginsWithoutLetter (skipBlanks behind)) :
    (afterBlanks? (opened ++ behind)).bind (afterFolded? foldChar ['o', 'p', 'e', 'n']) =
      if opened = [] then none else some behind := by
  rcases isOpened with rfl | ⟨blanks, word, isBlanks, folds, rfl⟩
  · cases behind with
    | nil => rfl
    | cons c behind =>
        rw [List.nil_append, if_pos rfl, afterBlanks?]
        split
        · rename_i blank
          have skipped : skipBlanks (c :: behind) = skipBlanks behind :=
            List.dropWhile_cons_of_pos blank
          rw [skipped] at begins
          exact afterFolded?_of_beginsWithoutLetter (by decide) _ begins
        · rfl
  · have found := afterFolded?_self foldChar word behind
    rw [folds] at found
    rw [if_neg (List.append_ne_nil_of_left_ne_nil isBlanks.nonempty _), List.append_assoc,
      afterBlanks?_append isBlanks, skipBlanks_word (by decide) folds]
    exact found

theorem stripDoors_words {door plural opened behind : List Char}
    (isDoor : door.map foldChar = ['d', 'o', 'o', 'r'])
    (isPlural : plural = [] ∨ plural.map foldChar = ['s']) (isOpened : IsOpened opened)
    (noLetter : BeginsWithoutLetter (skipBlanks behind)) :
    stripDoors (door ++ (plural ++ (opened ++ behind))) =
      skipBlanks (skipOne isDoorMark (skipBlanks behind)) := by
  have begins : BeginsWithoutLetter (opened ++ behind) :=
    beginsWithoutLetter_opened isOpened (.of_skipBlanks noLetter)
  have found := afterFolded?_self foldChar door (plural ++ (opened ++ behind))
  rw [isDoor] at found
  rw [stripDoors, skipBlanks_word (by decide) isDoor, found]
  simp only [skipOne_plural isPlural begins, afterOpened_eq isOpened noLetter]
  -- Where the doors are not said to be open, the text goes on as if they were.
  by_cases closed : opened = []
  · simp only [closed, if_true, List.nil_append]
    rfl
  · simp only [closed, if_false]
    rfl

theorem stripDoors_trim_append {doors text : List Char} {c : Char}
    (isDoors : doors = [] ∨ IsDoors doors) (digit : isDigit c = true)
    (trimmed : trim (c :: text) = c :: text) :
    stripDoors (trim (doors ++ c :: text)) = c :: text := by
  rcases isDoors with rfl | isDoors
  · have none := afterFolded?_of_beginsWithoutLetter (by decide : isAsciiLower 'd' = true)
      ['o', 'o', 'r'] (beginsWithoutLetter_of_isDigit digit text)
    rw [List.nil_append, trimmed, stripDoors, skipBlanks_digit digit, none]
  · cases isDoors with
    | @intro lead door plural opened gap mark tail leadBlank isDoor isPlural isOpened gapBlank
        isMark tailBlank =>
        -- Trimming takes the blanks in front of the doors, and none behind the last time.
        obtain ⟨noLetter, left⟩ := skipOne_behind gapBlank isMark tailBlank digit text
        have starts := skipBlanks_word (by decide) isDoor
          (plural ++ (opened ++ (gap ++ (mark ++ tail))) ++ c :: text)
        rw [← List.append_assoc door] at starts
        have kept := trim_append_trimmed starts trimmed (List.cons_ne_nil c text)
        rw [List.append_assoc lead, trim_append_lead leadBlank, kept]
        simp only [List.append_assoc]
        rw [stripDoors_words isDoor isPlural isOpened noLetter, left]

/-! The chain. -/

/-- A dash with or without blanks, or a word between blanks. -/
inductive IsSpacedSeparator : List Char → Prop where
  | dash {lead tail : List Char} {mark : Char} (leadBlank : AllBlank lead)
      (dash : isDash mark = true) (tailBlank : AllBlank tail) :
      IsSpacedSeparator (lead ++ mark :: tail)
  | word {lead word tail : List Char} (leadBlanks : DateText.IsBlanks lead)
      (listed : word ∈ separatorWords) (tailBlanks : DateText.IsBlanks tail) :
      IsSpacedSeparator (lead ++ (word ++ tail))

/-- Times in a row, each one behind the first with what separates it from the one before. -/
def chainChars : TimeOfDay → List (List Char × TimeOfDay) → List Char
  | first, [] => first.hourMinuteChars
  | first, (separator, next) :: others =>
      first.hourMinuteChars ++ (separator ++ chainChars next others)

variable {first : TimeOfDay} {others : List (List Char × TimeOfDay)}

theorem endsInWord_append (insideWord : Bool) (text : List Char) {last : Char} :
    endsInWord insideWord (text ++ [last]) = isWord last := by
  induction text generalizing insideWord with
  | nil => rfl
  | cons c text induction => exact induction (isWord c)

theorem IsSpacedSeparator.isSeparator {separator : List Char}
    (spaced : IsSpacedSeparator separator) (before after : List Char) :
    IsSeparator before after separator := by
  cases spaced with
  | dash leadBlank dash tailBlank => exact .dash leadBlank dash tailBlank
  | @word lead word tail leadBlanks listed tailBlanks =>
      refine .word leadBlanks.blank listed tailBlanks.blank ?_
        (tailBlanks.startsWithWord_append after)
      obtain ⟨inner, last, rfl⟩ := List.eq_nil_or_concat lead |>.resolve_left leadBlanks.nonempty
      have blank := leadBlanks.blank last (by simp)
      rw [List.concat_eq_append, ← List.append_assoc, endsInWord_append]
      exact isWord_of_isBlank blank

theorem IsSpacedSeparator.noMeridiem {separator : List Char}
    (spaced : IsSpacedSeparator separator) : ∀ c ∈ separator, isMeridiem c = false := by
  have blanks {text : List Char} (blank : AllBlank text) : ∀ c ∈ text, isMeridiem c = false := by
    intro c member
    refine Bool.eq_false_of_not_eq_true fun letter => ?_
    have isBlank := blank c member
    simp only [isMeridiem, Bool.or_eq_true, beq_iff_eq] at letter
    rcases letter with ((rfl | rfl) | rfl) | rfl <;> exact absurd isBlank (by decide)
  cases spaced with
  | dash leadBlank dash tailBlank =>
      exact List.forall_mem_append.mpr ⟨blanks leadBlank, List.forall_mem_cons.mpr
        ⟨isDash_cases (motive := (isMeridiem · = false)) dash (by decide) (by decide),
          blanks tailBlank⟩⟩
  | word leadBlanks listed tailBlanks =>
      have letters : separatorWords.all (·.all fun c => !isMeridiem c) = true := by decide
      have word := List.all_eq_true.mp (List.all_eq_true.mp letters _ listed)
      exact List.forall_mem_append.mpr ⟨blanks leadBlanks.blank, List.forall_mem_append.mpr
        ⟨fun c member => by simpa using word c member, blanks tailBlanks.blank⟩⟩

theorem noMeridiem_chainChars (first : TimeOfDay)
    (spaced : ∀ other ∈ others, IsSpacedSeparator other.1) :
    ∀ c ∈ chainChars first others, isMeridiem c = false := by
  have time (time : TimeOfDay) : ∀ c ∈ time.hourMinuteChars, isMeridiem c = false :=
    time.of_mem_hourMinuteChars (by decide) fun _ digit =>
      isMeridiem_of_isDigit (isDigit_of_isAsciiDigit digit)
  induction others generalizing first with
  | nil => exact time first
  | cons other others induction =>
      obtain ⟨current, later⟩ := List.forall_mem_cons.mp spaced
      exact List.forall_mem_append.mpr
        ⟨time first, List.forall_mem_append.mpr ⟨current.noMeridiem, induction other.2 later⟩⟩

theorem exists_chainChars_eq_cons (first : TimeOfDay) (others : List (List Char × TimeOfDay)) :
    ∃ c text, chainChars first others = c :: text ∧ isDigit c = true := by
  obtain ⟨a, b, c, d, hour, minute, printed⟩ := exists_hourMinute first
  have digit := isDigit_of_isAsciiDigit (printed.digits a List.mem_cons_self)
  cases others with
  | nil => exact ⟨a, _, by rw [chainChars, TimeOfDay.hourMinuteChars, hour]; rfl, digit⟩
  | cons other others =>
      exact ⟨a, _, by rw [chainChars, TimeOfDay.hourMinuteChars, hour]; rfl, digit⟩

theorem exists_chainChars_eq_append (first : TimeOfDay) (others : List (List Char × TimeOfDay)) :
    ∃ text last, chainChars first others = text ++ [last] ∧ isBlank last = false := by
  induction others generalizing first with
  | nil =>
      obtain ⟨a, b, c, d, hour, minute, printed⟩ := exists_hourMinute first
      refine ⟨[a, b, ':', c], d, ?_, isBlank_of_isAsciiDigit (printed.digits d (by simp))⟩
      rw [chainChars, TimeOfDay.hourMinuteChars, hour, minute]
      rfl
  | cons other others induction =>
      obtain ⟨text, last, whole, visible⟩ := induction other.2
      refine ⟨first.hourMinuteChars ++ (other.1 ++ text), last, ?_, visible⟩
      rw [chainChars, whole, List.append_assoc, List.append_assoc]

theorem trim_chainChars (first : TimeOfDay) (others : List (List Char × TimeOfDay)) :
    trim (chainChars first others) = chainChars first others := by
  obtain ⟨c, behind, begins, digit⟩ := exists_chainChars_eq_cons first others
  obtain ⟨text, last, ends, visible⟩ := exists_chainChars_eq_append first others
  have starts := skipBlanks_digit digit behind
  rw [← begins, ends] at starts
  rw [ends]
  exact trim_of_starts starts visible

theorem splitRange_chainChars_nil (first : TimeOfDay) :
    splitRange (chainChars first []) = (chainChars first [], none) := by
  have noSeparator : HasNoSeparator (chainChars first []) := noSeparator_hourMinuteChars first
  rw [splitRange_of_no_separator noSeparator, trim_chainChars]

theorem splitRange_chainChars_cons {separator : List Char}
    (spaced : IsSpacedSeparator separator) (first next : TimeOfDay)
    (others : List (List Char × TimeOfDay)) :
    splitRange (chainChars first ((separator, next) :: others)) =
      (first.hourMinuteChars, some (chainChars next others)) := by
  obtain ⟨c, text, begins, -⟩ := exists_chainChars_eq_cons next others
  have nonempty : chainChars next others ≠ [] := by
    rw [begins]
    exact List.cons_ne_nil c text
  have alone : trim first.hourMinuteChars = first.hourMinuteChars := trim_chainChars first []
  have none := splitAt?_of_no_separator false (noSeparator_hourMinuteChars first)
  rw [chainChars, splitRange_separated none (spaced.isSeparator _ _), trim_chainChars,
    if_neg nonempty, alone]

/-- The loop that looks for the last time of a chain ends, on every text. -/
theorem lastSegment_mem_eval (text : List Char) :
    lastSegment text ∈ StateTransition.eval (fun text => (splitRange text).2) text := by
  rw [StateTransition.mem_eval]
  induction text using lastSegment.induct with
  | case1 text start finish split induction =>
      have step : (splitRange text).2 = some finish := congrArg Prod.snd split
      obtain ⟨reached, ends⟩ := induction
      rw [lastSegment_of_some step]
      exact ⟨.head step reached, ends⟩
  | case2 text start split =>
      have none : (splitRange text).2 = none := congrArg Prod.snd split
      rw [lastSegment_of_none none]
      exact ⟨.refl, none⟩

theorem single?_lastSegment_chainChars (separator : List Char)
    (whole : ∀ time ∈ first :: others.map Prod.snd, time.IsWholeMinute)
    (spaced : ∀ other ∈ others, IsSpacedSeparator other.1) :
    single? (lastSegment (chainChars first others)) =
      ((separator, first) :: others).getLast?.map Prod.snd := by
  induction others generalizing first separator with
  | nil =>
      have none := congrArg Prod.snd (splitRange_chainChars_nil first)
      rw [lastSegment_of_none none]
      exact DateText.single?_hourMinuteChars (whole first List.mem_cons_self) (.inl rfl)
  | cons other others induction =>
      obtain ⟨current, later⟩ := List.forall_mem_cons.mp spaced
      have split := splitRange_chainChars_cons current first other.2 others
      rw [lastSegment_of_some (congrArg Prod.snd split),
        induction other.1 (List.forall_mem_cons.mp whole).2 later]
      rfl

theorem rangeStart?_of_no_letter {start : List Char} {finish : Option (List Char)}
    {time : TimeOfDay} (read : single? start = some time)
    (noLetter : finish.bind findTwelveHour? = none) : rangeStart? start finish = some time := by
  rw [rangeStart?, noLetter, ite_self]
  exact read

/-- The end of a chain is found on every text, and a chain of times is a range from the first to
the last of them. -/
theorem lastSegment_ends_and_range?_chain :
    (∀ text, lastSegment text ∈ StateTransition.eval (fun text => (splitRange text).2) text) ∧
    ∀ {doors : List Char} {first : TimeOfDay} {others : List (List Char × TimeOfDay)},
      doors = [] ∨ IsDoors doors →
      (∀ time ∈ first :: others.map Prod.snd, time.IsWholeMinute) →
      (∀ other ∈ others, IsSpacedSeparator other.1) →
      range? (doors ++ chainChars first others) =
        some (first, others.getLast?.map Prod.snd) := by
  refine ⟨lastSegment_mem_eval, fun {doors first others} isDoors whole spaced => ?_⟩
  obtain ⟨c, text, begins, digit⟩ := exists_chainChars_eq_cons first others
  have trimmed := trim_chainChars first others
  have stripped : stripDoors (trim (doors ++ chainChars first others)) =
      chainChars first others := by
    rw [begins] at trimmed ⊢
    exact stripDoors_trim_append isDoors digit trimmed
  have read := DateText.single?_hourMinuteChars (whole first List.mem_cons_self) (.inl rfl)
  rw [List.nil_append] at read
  rw [range?, stripped]
  cases others with
  | nil =>
      rw [splitRange_chainChars_nil]
      simp only [chainChars, rangeStart?_of_no_letter read (Option.bind_none _)]
      rfl
  | cons other others =>
      obtain ⟨current, later⟩ := List.forall_mem_cons.mp spaced
      have noLetter := findTwelveHour?_of_no_meridiem
        (noMeridiem_chainChars other.2 later)
      rw [splitRange_chainChars_cons current first other.2 others]
      simp only [rangeStart?_of_no_letter read ((Option.bind_some ..).trans noLetter),
        Option.map_some, Option.bind_some,
        single?_lastSegment_chainChars other.1 (List.forall_mem_cons.mp whole).2 later]

/-- Three times, set apart in different ways. -/
theorem range?_chain_evening :
    IsDoors "Doors open: ".toList ∧ IsSpacedSeparator " to ".toList ∧
      IsSpacedSeparator "–".toList ∧
      range? "Doors open: 19:00 to 20:30–23:00".toList =
        some (⟨68400, 0, by decide, by decide⟩, some ⟨82800, 0, by decide, by decide⟩) := by
  have space : DateText.IsBlanks [' '] := ⟨by decide, List.forall_mem_singleton.mpr rfl⟩
  have blankless : AllBlank [] := List.forall_mem_nil _
  have isDoors : IsDoors "Doors open: ".toList :=
    @IsDoors.intro [] "Door".toList ['s'] " open".toList [] [':'] [' '] blankless (by decide)
      (.inr (by decide)) (.inr ⟨[' '], "open".toList, space, by decide, rfl⟩) blankless (by decide)
      space.blank
  have word : IsSpacedSeparator " to ".toList :=
    @IsSpacedSeparator.word [' '] ['t', 'o'] [' '] space (by decide) space
  have dash : IsSpacedSeparator "–".toList :=
    @IsSpacedSeparator.dash [] [] '–' blankless (by decide) blankless
  have printed : "Doors open: 19:00 to 20:30–23:00".toList = "Doors open: ".toList ++
      chainChars ⟨68400, 0, by decide, by decide⟩
        [(" to ".toList, ⟨73800, 0, by decide, by decide⟩),
          ("–".toList, ⟨82800, 0, by decide, by decide⟩)] := by
    decide +kernel
  refine ⟨isDoors, word, dash, ?_⟩
  rw [printed]
  exact lastSegment_ends_and_range?_chain.2 (.inr isDoors)
    (by simp [TimeOfDay.IsWholeMinute])
    (List.forall_mem_cons.mpr ⟨word, List.forall_mem_singleton.mpr dash⟩)

end GigListings.TimeText
