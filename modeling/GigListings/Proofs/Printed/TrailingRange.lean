import GigListings.Proofs.Printed.DayAndMonth
import GigListings.Proofs.Printed.Followed
import GigListings.Proofs.Printed.RangeStart

namespace GigListings

open Text

/-! Ranges behind dates. The two ends are discarded, and so does a time that is printed apart apply,
unless a dash stands in front of them: then the range's start is taken for what follows a range. -/

/-- What may stand between a date and a time: blanks, `@` and `|`, and perhaps a dash. -/
inductive IsIntroduction : (dashed : Bool) → List Char → Prop where
  | plain {marks : List Char} (introduces : ∀ c ∈ marks, DateText.isIntroducer c = true) :
      IsIntroduction false marks
  | dashed {before behind : List Char} {dash : Char} (isDash : TimeText.isDash dash = true)
      (introduces : ∀ c ∈ before, DateText.isIntroducer c = true)
      (continues : ∀ c ∈ behind, DateText.isIntroducer c = true) :
      IsIntroduction true (before ++ dash :: behind)

def rangeChars (start finish : TimeOfDay) : List Char :=
  start.hourMinuteChars ++ ([' ', '-', ' '] ++ finish.hourMinuteChars)

/-! The characters of introductions and times. -/

theorem introducer_cases {motive : Char → Prop} {c : Char}
    (introduces : DateText.isIntroducer c = true) (mark : motive '@') (bar : motive '|')
    (blank : ∀ c, isBlank c = true → motive c) : motive c := by
  simp only [DateText.isIntroducer, Bool.or_eq_true, beq_iff_eq] at introduces
  rcases introduces with (rfl | rfl) | isBlank
  · exact mark
  · exact bar
  · exact blank c isBlank

theorem TimeOfDay.of_mem_hourMinuteChars {motive : Char → Prop} (time : TimeOfDay)
    (colon : motive ':') (digit : ∀ c, isAsciiDigit c = true → motive c) :
    ∀ c ∈ time.hourMinuteChars, motive c := by
  intro c member
  rcases List.mem_append.mp member with hour | behind
  · exact digit c (isAsciiDigit_of_mem_padded hour)
  · rcases List.mem_cons.mp behind with rfl | minute
    · exact colon
    · exact digit c (isAsciiDigit_of_mem_padded minute)

namespace TimeText

theorem noSeparator_of_isIntroducer {c : Char} (introduces : DateText.isIntroducer c = true) :
    isDash c = false ∧ c ≠ 't' ∧ c ≠ 'u' := by
  refine introducer_cases (motive := fun c => isDash c = false ∧ c ≠ 't' ∧ c ≠ 'u') introduces
    (by decide) (by decide) fun c blank => ⟨isDash_of_isBlank blank, ?_, ?_⟩
  · rintro rfl
    exact absurd blank (by decide)
  · rintro rfl
    exact absurd blank (by decide)

theorem isWord_of_isIntroducer {c : Char} (introduces : DateText.isIntroducer c = true) :
    isWord c = false :=
  introducer_cases (motive := (isWord · = false)) introduces (by decide) (by decide)
    fun _ => isWord_of_isBlank

theorem noSeparator_hourMinuteChars (time : TimeOfDay) : HasNoSeparator time.hourMinuteChars :=
  time.of_mem_hourMinuteChars (by decide) fun _ digit =>
    of_isAsciiDigit (fun c => isDash c = false ∧ c ≠ 't' ∧ c ≠ 'u') (by decide) digit

theorem beginsWithDoors_eq_false {text : List Char} (noLetter : ∀ c ∈ text, foldChar c ≠ 'd') :
    beginsWithDoors text = false := by
  unfold beginsWithDoors
  cases skipped : skipBlanks text with
  | nil => rfl
  | cons c rest =>
      have kept : skipBlanks text ⊆ text := (List.dropWhile_sublist isBlank).subset
      have member : c ∈ text := kept (skipped ▸ List.mem_cons_self)
      rw [afterFolded?, if_neg (noLetter c member)]
      rfl

theorem findTwelveHour?_hourMinuteChars (time : TimeOfDay) :
    findTwelveHour? time.hourMinuteChars = none :=
  findTwelveHour?_of_no_meridiem
    (time.of_mem_hourMinuteChars (by decide) fun _ digit =>
      of_isAsciiDigit (isMeridiem · = false) (by decide) digit)

theorem time?_trim (text : List Char) : time? (trim text) = time? text := by
  rw [time?, time?, trim_trim]

theorem noDoors_of_isIntroducer {c : Char} (introduces : DateText.isIntroducer c = true) :
    foldChar c ≠ 'd' := by
  refine introducer_cases (motive := (foldChar · ≠ 'd')) introduces (by decide) (by decide)
    fun c blank => ?_
  rw [foldChar_of_isBlank blank]
  rintro rfl
  exact absurd blank (by decide)

theorem time?_rangeChars {start finish : TimeOfDay} (whole : start.IsWholeMinute)
    {marks : List Char} (introduce : ∀ c ∈ marks, DateText.isIntroducer c = true) :
    time? (marks ++ rangeChars start finish) = some start := by
  have noSeparator : splitAt? false (marks ++ start.hourMinuteChars) = none :=
    splitAt?_of_no_separator false (List.forall_mem_append.mpr
      ⟨fun c member => noSeparator_of_isIntroducer (introduce c member),
        noSeparator_hourMinuteChars start⟩)
  have noDoors : beginsWithDoors (marks ++ start.hourMinuteChars) = false :=
    beginsWithDoors_eq_false (List.forall_mem_append.mpr
      ⟨fun c member => noDoors_of_isIntroducer (introduce c member),
        start.of_mem_hourMinuteChars (by decide) fun _ digit =>
          of_isAsciiDigit (foldChar · ≠ 'd') (by decide) digit⟩)
  have read : single? (marks ++ start.hourMinuteChars) = some start := by
    rw [single?_append_lead fun c member => isWord_of_isIntroducer (introduce c member)]
    exact DateText.single?_hourMinuteChars whole (.inl rfl)
  obtain ⟨starts, -⟩ := range?_separated noSeparator noDoors read
    (isSeparator_spacedHyphen _ finish.hourMinuteChars)
  rw [rangeStart?_of_not_borrowed read (.inr (findTwelveHour?_hourMinuteChars finish)),
    List.append_assoc] at starts
  exact starts

end TimeText

namespace DateText

/-! The normal form. -/

theorem keepsForm_of_isIntroducer {c : Char} (introduces : isIntroducer c = true) :
    KeepsForm c :=
  introducer_cases introduces ⟨by decide, by decide⟩ ⟨by decide, by decide⟩ fun _ => .of_isBlank

theorem keepsForm_of_isDash {c : Char} (dash : TimeText.isDash c = true) : KeepsForm c :=
  ⟨TimeText.lowerChar_of_isDash dash,
    TimeText.isDash_cases (motive := (· ∉ ['Σ', ',', 's', 'n', 'r', 't'])) dash (by decide)
      (by decide)⟩

theorem keepsForm_rangeChars (start finish : TimeOfDay) :
    ∀ c ∈ rangeChars start finish, KeepsForm c := by
  have digit (c : Char) (digit : isAsciiDigit c = true) : KeepsForm c :=
    ⟨of_isAsciiDigit (fun c => lowerChar c = [c]) (by decide) digit,
      of_isAsciiDigit (· ∉ ['Σ', ',', 's', 'n', 'r', 't']) (by decide) digit⟩
  have times (time : TimeOfDay) : ∀ c ∈ time.hourMinuteChars, KeepsForm c :=
    time.of_mem_hourMinuteChars ⟨by decide, by decide⟩ digit
  have space : KeepsForm ' ' := .of_isBlank rfl
  have hyphen : ∀ c ∈ [' ', '-', ' '], KeepsForm c :=
    List.forall_mem_cons.mpr ⟨space, List.forall_mem_cons.mpr
      ⟨keepsForm_of_isDash rfl, List.forall_mem_singleton.mpr space⟩⟩
  exact List.forall_mem_append.mpr ⟨times start, List.forall_mem_append.mpr ⟨hyphen, times finish⟩⟩

theorem isVisible_hourMinuteChars (time : TimeOfDay) : IsVisible time.hourMinuteChars :=
  ⟨List.append_ne_nil_of_right_ne_nil _ (List.cons_ne_nil _ _),
    time.of_mem_hourMinuteChars (by decide) fun _ => isBlank_of_isAsciiDigit⟩

theorem allSpaced_rangeChars (start finish : TimeOfDay) :
    AllSpaced IsVisible IsBlanks start.hourMinuteChars
      [([' '], ['-']), ([' '], finish.hourMinuteChars)] := by
  have space : IsBlanks [' '] := ⟨List.cons_ne_nil _ _, List.forall_mem_singleton.mpr rfl⟩
  have hyphen : IsVisible ['-'] := ⟨List.cons_ne_nil _ _, List.forall_mem_singleton.mpr rfl⟩
  exact ⟨isVisible_hourMinuteChars start, List.forall_mem_cons.mpr
    ⟨⟨space, hyphen⟩, List.forall_mem_singleton.mpr ⟨space, isVisible_hourMinuteChars finish⟩⟩⟩

theorem head_rangeChars (start finish : TimeOfDay) :
    ∀ c ∈ (rangeChars start finish).head?, isBlank c = false := by
  have solid := isVisible_hourMinuteChars start
  rw [rangeChars, List.head?_append_of_ne_nil _ solid.nonempty]
  exact head_visible solid.visible

theorem collapse_append_rangeChars (text : List Char) (start finish : TimeOfDay) :
    collapse (text ++ rangeChars start finish) =
      squeeze (skipBlanks text) ++ rangeChars start finish := by
  obtain ⟨inner, last, whole, -, lastVisible⟩ :=
    exists_spaced_eq_concat (allSpaced_rangeChars start finish)
  replace whole : rangeChars start finish = inner ++ [last] := whole
  have head := head_rangeChars start finish
  have kept : squeeze (rangeChars start finish) = rangeChars start finish :=
    squeezeAfter_spaced false (allSpaced_rangeChars start finish)
  have trimmed : trim (text ++ rangeChars start finish) =
      skipBlanks text ++ rangeChars start finish := by
    change trimEnd (skipBlanks (text ++ rangeChars start finish)) = _
    rw [skipBlanks_append_visible text head, whole, ← List.append_assoc]
    simp [trimEnd, lastVisible]
  rw [collapse, trimmed, squeeze, squeezeAfter_append false _ head, kept]
  rfl

theorem isIntroduction_squeeze {dashed : Bool} {text : List Char}
    (introduction : IsIntroduction dashed text) :
    IsIntroduction dashed (squeeze (skipBlanks text)) := by
  have kept {blank : Bool} {marks : List Char} (introduces : ∀ c ∈ marks, isIntroducer c = true) :
      ∀ c ∈ squeezeAfter blank marks, isIntroducer c = true := by
    intro c member
    rcases mem_of_mem_squeezeAfter member with rfl | listed
    · rfl
    · exact introduces c listed
  have skipped {marks : List Char} (introduces : ∀ c ∈ marks, isIntroducer c = true) :
      ∀ c ∈ skipBlanks marks, isIntroducer c = true := fun c member =>
    introduces c ((List.dropWhile_sublist isBlank).subset member)
  cases introduction with
  | plain introduces => exact .plain (kept (skipped introduces))
  | @dashed before behind dash isDash introduces continues =>
      have visible := TimeText.isBlank_of_isDash isDash
      have head : ∀ c ∈ (dash :: behind).head?, isBlank c = false := by
        rintro _ ⟨⟩
        exact visible
      have rest : squeeze (dash :: behind) = dash :: squeezeAfter false behind := by
        simp [squeeze, squeezeAfter, visible]
      rw [skipBlanks_append_visible before head, squeeze, squeezeAfter_append false _ head, rest]
      exact .dashed isDash (kept (skipped introduces)) (kept continues)

/-! Trailing times. -/

theorem trailingTime?_separated {lead start finish separator : List Char}
    (introduces : ∀ c ∈ lead, isIntroducer c = true)
    (opens : ∀ c ∈ (start ++ (separator ++ finish)).head?, isIntroducer c = false)
    (noSeparator : TimeText.splitAt? false start = none)
    (separates : TimeText.IsSeparator start finish separator) (ends : trim finish ≠ []) :
    trailingTime? (lead ++ (start ++ (separator ++ finish))) =
      if trim start = [] then TimeText.time? (trim finish) else none := by
  have sides := TimeText.splitRange_separated noSeparator separates
  have kept : (start ++ (separator ++ finish)).dropWhile isIntroducer =
      start ++ (separator ++ finish) := by
    generalize start ++ (separator ++ finish) = text at opens
    cases text with
    | nil => rfl
    | cons c text => exact List.dropWhile_cons_of_neg (by simp [opens c rfl])
  rw [if_neg ends] at sides
  rw [trailingTime?, List.dropWhile_append_of_pos introduces, kept]
  generalize start ++ (separator ++ finish) = text at sides
  cases text with
  | nil =>
      have none : Option.none = some (trim finish) := congrArg Prod.snd sides
      cases none
  | cons c text =>
      simp only [sides]
      cases trim start <;> rfl

theorem isIntroducer_of_isDash {c : Char} (dash : TimeText.isDash c = true) :
    isIntroducer c = false :=
  TimeText.isDash_cases (motive := (isIntroducer · = false)) dash (by decide) (by decide)

theorem head_hourMinuteChars (time : TimeOfDay) (rest : List Char) :
    ∀ c ∈ (time.hourMinuteChars ++ rest).head?, isIntroducer c = false := by
  rw [List.head?_append_of_ne_nil _ (isVisible_hourMinuteChars time).nonempty]
  intro c head
  exact time.of_mem_hourMinuteChars (motive := (isIntroducer · = false)) (by decide)
    (fun _ digit => of_isAsciiDigit (isIntroducer · = false) (by decide) digit) c
    (List.mem_of_mem_head? head)

theorem trim_append_hourMinuteChars (text : List Char) (time : TimeOfDay) :
    trim (text ++ time.hourMinuteChars) ≠ [] := by
  have solid := isVisible_hourMinuteChars time
  obtain ⟨c, member⟩ := List.exists_mem_of_ne_nil _ solid.nonempty
  exact trim_ne_nil (List.mem_append_right text member) (solid.visible c member)

theorem trim_append_rangeChars (text : List Char) (start finish : TimeOfDay) :
    trim (text ++ rangeChars start finish) ≠ [] := by
  rw [rangeChars, ← List.append_assoc, ← List.append_assoc]
  exact trim_append_hourMinuteChars _ finish

theorem isSeparator_single {dash : Char} (isDash : TimeText.isDash dash = true)
    (before after : List Char) : TimeText.IsSeparator before after [dash] :=
  @TimeText.IsSeparator.dash before after [] [] dash (List.forall_mem_nil _) isDash
    (List.forall_mem_nil _)

section Range

variable {dashed : Bool} {introduction : List Char} {start finish : TimeOfDay}

theorem trailingTime?_rangeChars (isIntroduction : IsIntroduction dashed introduction)
    (whole : start.IsWholeMinute) :
    trailingTime? (introduction ++ rangeChars start finish) =
      if dashed then some start else none := by
  cases isIntroduction with
  | plain introduces =>
      have read := trailingTime?_separated introduces (head_hourMinuteChars start _)
        (TimeText.splitAt?_of_no_separator false (TimeText.noSeparator_hourMinuteChars start))
        (TimeText.isSeparator_spacedHyphen _ finish.hourMinuteChars)
        (trim_append_hourMinuteChars [] finish)
      have solid : trim start.hourMinuteChars ≠ [] := trim_append_hourMinuteChars [] start
      rw [if_neg solid] at read
      exact read
  | @dashed before behind dash isDash introduces continues =>
      have opens : ∀ c ∈ ([] ++ ([dash] ++ (behind ++ rangeChars start finish))).head?,
          isIntroducer c = false := by
        rintro _ ⟨⟩
        exact isIntroducer_of_isDash isDash
      have read := trailingTime?_separated introduces opens rfl (isSeparator_single isDash _ _)
        (trim_append_rangeChars behind start finish)
      have empty : trim [] = [] := rfl
      rw [if_pos empty, TimeText.time?_trim, TimeText.time?_rangeChars whole continues] at read
      rw [List.append_assoc]
      exact read

/-- Behind the point of an abbreviation, a range has no time. -/
theorem trailingTime?_point_rangeChars (isIntroduction : IsIntroduction dashed introduction) :
    trailingTime? ('.' :: ' ' :: (introduction ++ rangeChars start finish)) = none := by
  have pointed (text : List Char) : trim ('.' :: ' ' :: text) ≠ [] :=
    trim_ne_nil List.mem_cons_self rfl
  have opens (text : List Char) : ∀ c ∈ ('.' :: ' ' :: text).head?, isIntroducer c = false := by
    rintro _ ⟨⟩
    rfl
  have noSeparator {marks : List Char}
      (others : TimeText.HasNoSeparator marks) :
      TimeText.splitAt? false ('.' :: ' ' :: marks) = none :=
    TimeText.splitAt?_of_no_separator false (List.forall_mem_cons.mpr
      ⟨by decide, List.forall_mem_cons.mpr ⟨by decide, others⟩⟩)
  cases isIntroduction with
  | plain introduces =>
      have others : TimeText.HasNoSeparator (introduction ++ start.hourMinuteChars) :=
        List.forall_mem_append.mpr
          ⟨fun c member => TimeText.noSeparator_of_isIntroducer (introduces c member),
            TimeText.noSeparator_hourMinuteChars start⟩
      have read := trailingTime?_separated (List.forall_mem_nil _) (opens _) (noSeparator others)
        (TimeText.isSeparator_spacedHyphen _ finish.hourMinuteChars)
        (trim_append_hourMinuteChars [] finish)
      rw [if_neg (pointed _), List.nil_append, List.cons_append, List.cons_append,
        List.append_assoc] at read
      exact read
  | @dashed before behind dash isDash introduces continues =>
      have others : TimeText.HasNoSeparator before :=
        fun c member => TimeText.noSeparator_of_isIntroducer (introduces c member)
      have read := trailingTime?_separated (List.forall_mem_nil _) (opens _) (noSeparator others)
        (isSeparator_single isDash _ _) (trim_append_rangeChars behind start finish)
      rw [if_neg (pointed _)] at read
      rw [List.append_assoc]
      exact read

theorem keepsForm_introduced (isIntroduction : IsIntroduction dashed introduction) :
    ∀ c ∈ introduction ++ rangeChars start finish, KeepsForm c := by
  refine List.forall_mem_append.mpr ⟨?_, keepsForm_rangeChars start finish⟩
  cases isIntroduction with
  | plain introduces => exact fun c member => keepsForm_of_isIntroducer (introduces c member)
  | dashed isDash introduces continues =>
      exact List.forall_mem_append.mpr
        ⟨fun c member => keepsForm_of_isIntroducer (introduces c member),
          List.forall_mem_cons.mpr ⟨keepsForm_of_isDash isDash,
            fun c member => keepsForm_of_isIntroducer (continues c member)⟩⟩

theorem yearDigits?_of_not_isDigit {c : Char} (noDigit : isDigit c = false) (rest : List Char) :
    yearDigits? (c :: rest) = none := by
  simp [yearDigits?, takeUpTo, noDigit]

theorem yearDigits?_rangeChars (isIntroduction : IsIntroduction dashed introduction) :
    yearDigits? (introduction ++ rangeChars start finish) = none := by
  have marked {c : Char} (introduces : isIntroducer c = true) : isDigit c = false :=
    isDigit_of_not_isWord (TimeText.isWord_of_isIntroducer introduces)
  have unmarked : yearDigits? (rangeChars start finish) = none := by
    obtain ⟨a, b, c, d, hour, -, printed⟩ := TimeText.exists_hourMinute start
    have first := isDigit_of_isAsciiDigit (printed.digits a (by simp))
    have second := isDigit_of_isAsciiDigit (printed.digits b (by simp))
    have colon : isDigit ':' = false := by decide
    rw [rangeChars, TimeOfDay.hourMinuteChars, hour]
    simp [yearDigits?, takeUpTo, first, second, colon]
  cases isIntroduction with
  | plain introduces =>
      cases introduction with
      | nil => exact unmarked
      | cons c marks =>
          exact yearDigits?_of_not_isDigit (marked (introduces c List.mem_cons_self)) _
  | @dashed before behind dash isDash introduces continues =>
      cases before with
      | nil =>
          exact yearDigits?_of_not_isDigit
            (isDigit_of_not_isWord (TimeText.isWord_of_isDash isDash)) _
      | cons c before =>
          exact yearDigits?_of_not_isDigit (marked (introduces c List.mem_cons_self)) _

theorem trailingTime?_followedBy {parts : Parts}
    (dateOnly : parts.rest = [] ∨ parts.rest = ['.'])
    (isIntroduction : IsIntroduction dashed introduction) (whole : start.IsWholeMinute) :
    trailingTime? (parts.followedBy (introduction ++ rangeChars start finish)).rest = none ↔
      (dashed = true → parts.rest = ['.']) := by
  unfold Parts.followedBy
  rcases dateOnly with ends | ends
  · rw [ends, if_pos rfl, trailingTime?_rangeChars isIntroduction whole]
    cases dashed <;> simp
  · rw [ends]
    simp only [List.cons_ne_nil, if_false, implies_true, iff_true]
    exact trailingTime?_point_rangeChars isIntroduction

end Range

end DateText

namespace DateFormat

open DateText

theorem parse_of_read? {format : DateFormat} {text : String} {context : DateContext}
    {printed : PrintedDate} (read : format.read? text.toList none context = some printed)
    (time : Option String) :
    ∃ clock, format.parse text time context = .ok ⟨printed.date, clock⟩ ∧
      (time = none → clock = printed.time) ∧
      (printed.time = none → clock = time.bind fun time => TimeText.time? time.toList) := by
  have apart : (time.map String.toList).bind TimeText.time? =
      time.bind fun time => TimeText.time? time.toList := by
    rw [Option.bind_map]
    rfl
  by_cases explicit : format = .explicitYear
  · subst explicit
    simp only [read?, explicitYear?, Option.bind_eq_bind, Option.bind_eq_some_iff] at read
    obtain ⟨parts, found, day, dayRead, month, monthRead, year, ⟨digits, printedYear, yearRead⟩,
      date, named, same⟩ := read
    cases same
    have explicit : explicitYear.read? text.toList (time.map String.toList) context = some
        ⟨date, ((time.map String.toList).bind TimeText.time?).or (trailingTime? parts.rest)⟩ := by
      simp only [read?, explicitYear?, found, dayRead, monthRead, printedYear, yearRead, named,
        Option.bind_eq_bind, Option.bind_some]
      rfl
    refine ⟨_, by rw [parse, explicit]; rfl, ?_, fun dateOnly => ?_⟩
    · rintro rfl
      exact Option.or_none
    · replace dateOnly : trailingTime? parts.rest = none := dateOnly
      rw [dateOnly, apart]
      cases time.bind fun time => TimeText.time? time.toList <;> rfl
  · have same := @read?_congr_time _ (time.map String.toList) (fun same => absurd same explicit)
      text.toList context
    rw [read] at same
    refine ⟨_, by rw [parse, same]; rfl, ?_, ?_⟩
    · rintro rfl
      exact Option.or_none
    · intro dateOnly
      rw [dateOnly, apart]
      rfl

theorem exists_read?_of_parse {format : DateFormat} {text : String} {context : DateContext}
    {printed : PrintedDate} (read : format.parse text none context = .ok printed) :
    ∃ first, format.read? text.toList none context = some first ∧ first.date = printed.date := by
  rw [parse] at read
  split at read
  · rename_i first firstRead
    cases read
    exact ⟨first, firstRead, rfl⟩
  · cases read

theorem read?_append_rangeChars {format : DateFormat} {text : String} {context : DateContext}
    {parts : Parts} {printed : PrintedDate} (found : format.parts? text.toList = some parts)
    (read : format.parse text none context = .ok printed) {gap introduction : List Char}
    (blanks : IsBlanks gap) {dashed : Bool} (isIntroduction : IsIntroduction dashed introduction)
    (start finish : TimeOfDay) :
    format.read?
        (text ++ String.ofList (gap ++ (introduction ++ rangeChars start finish))).toList none
        context =
      some ⟨printed.date, trailingTime? (parts.followedBy
        (squeeze (skipBlanks introduction) ++ rangeChars start finish)).rest⟩ := by
  have normal := collapse_append_rangeChars introduction start finish
  have form := normalize_append_gap (normalize_ne_nil found) blanks
    (@keepsForm_introduced dashed introduction start finish isIntroduction)
    (trim_append_rangeChars introduction start finish)
  have begins := skipBlanks_collapse (introduction ++ rangeChars start finish)
  rw [normal] at form begins
  have noYear := @yearDigits?_rangeChars _ _ start finish (isIntroduction_squeeze isIntroduction)
  obtain ⟨first, firstRead, sameDate⟩ := exists_read?_of_parse read
  rw [String.toList_append, String.toList_ofList, ← sameDate]
  exact read?_followed form noYear begins found firstRead

/-- A range behind a date leaves the date as it is. It is discarded, and so does the time that is
printed apart apply, exactly if no dash stands in front of it, or else the date ends with the point
of an abbreviation. -/
theorem parse_append_rangeChars {format : DateFormat} {text : String} {context : DateContext}
    {parts : Parts} {printed : PrintedDate} (found : format.parts? text.toList = some parts)
    (dateOnly : parts.rest = [] ∨ parts.rest = ['.'])
    (read : format.parse text none context = .ok printed) {gap introduction : List Char}
    (blanks : IsBlanks gap) {dashed : Bool} (isIntroduction : IsIntroduction dashed introduction)
    {start : TimeOfDay} (whole : start.IsWholeMinute) (finish : TimeOfDay) :
    (∀ time, ∃ clock,
      format.parse (text ++ String.ofList (gap ++ (introduction ++ rangeChars start finish))) time
        context = .ok ⟨printed.date, clock⟩) ∧
      ((∀ time : Option String,
          format.parse (text ++ String.ofList (gap ++ (introduction ++ rangeChars start finish)))
            time context =
              .ok ⟨printed.date, time.bind fun time => TimeText.time? time.toList⟩) ↔
        (dashed = true → parts.rest = ['.'])) := by
  have longer := read?_append_rangeChars found read blanks isIntroduction start finish
  have trailing := @trailingTime?_followedBy _ _ start finish parts dateOnly
    (isIntroduction_squeeze isIntroduction) whole
  refine ⟨fun time => ?_, ?_⟩
  · obtain ⟨clock, parsed, -⟩ := parse_of_read? longer time
    exact ⟨clock, parsed⟩
  · rw [← trailing]
    constructor
    · intro applies
      obtain ⟨clock, parsed, alone, -⟩ := parse_of_read? longer none
      rw [applies none] at parsed
      have discarded : none = clock := congrArg PrintedDate.time (Except.ok.inj parsed)
      exact (alone rfl).symm.trans discarded.symm
    · intro discarded time
      obtain ⟨clock, parsed, -, applies⟩ := parse_of_read? longer time
      rw [parsed, applies discarded]

theorem parse_append_rangeChars_friday :
    weekdayDayMonth.parse
        ("Fri 3rd Oct 2025" ++ String.ofList ([' '] ++ (['@', ' '] ++
          rangeChars ⟨72000, 0, by decide, by decide⟩ ⟨82800, 0, by decide, by decide⟩)))
        (some "19:00") ⟨⟨2025, 9, 1, by decide⟩, none⟩ =
      .ok ⟨⟨2025, 10, 3, by decide⟩, some ⟨68400, 0, by decide, by decide⟩⟩ := by
  have read : weekdayDayMonth.parse "Fri 3rd Oct 2025" none ⟨⟨2025, 9, 1, by decide⟩, none⟩ =
      .ok ⟨⟨2025, 10, 3, by decide⟩, none⟩ := by
    decide +kernel
  have rest : (weekdayDayMonth.parts? "Fri 3rd Oct 2025".toList).map (·.rest) = some [] := by
    decide +kernel
  obtain ⟨parts, found, ends⟩ := Option.map_eq_some_iff.mp rest
  have space : IsBlanks [' '] := ⟨List.cons_ne_nil _ _, List.forall_mem_singleton.mpr rfl⟩
  have mark : IsIntroduction false ['@', ' '] :=
    .plain (List.all_eq_true.mp (by decide))
  have applies := (parse_append_rangeChars found (.inl ends) read space mark
    (⟨rfl, rfl⟩ : TimeOfDay.IsWholeMinute ⟨72000, 0, by decide, by decide⟩)
    ⟨82800, 0, by decide, by decide⟩).2.mpr nofun (some "19:00")
  have hint : TimeText.time? "19:00".toList = some ⟨68400, 0, by decide, by decide⟩ := by
    decide +kernel
  rw [Option.bind_some, hint] at applies
  exact applies

/-- Behind a dash the start of the range counts as the time of the date, and wins over the one that
is printed apart. -/
theorem parse_range_behind_dash :
    weekdayDayMonth.parse "Fri 3rd Oct 2025" none ⟨⟨2025, 9, 1, by decide⟩, none⟩ =
        .ok ⟨⟨2025, 10, 3, by decide⟩, none⟩ ∧
      (weekdayDayMonth.parts? "Fri 3rd Oct 2025".toList).map (·.rest) = some [] ∧
      weekdayDayMonth.parse "Fri 3rd Oct 2025 - 20:00 - 23:00" (some "19:00")
          ⟨⟨2025, 9, 1, by decide⟩, none⟩ =
        .ok ⟨⟨2025, 10, 3, by decide⟩, some ⟨72000, 0, by decide, by decide⟩⟩ := by
  decide +kernel

end DateFormat

end GigListings
