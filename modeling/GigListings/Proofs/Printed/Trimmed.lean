import GigListings.Proofs.Printed.BlankEnds

namespace GigListings.DateText

open Text

/-! Dates in texts that have not been trimmed. Blanks at the ends make no difference, but for
compact dates: these end with their line. -/

theorem ordinalAt?_length {text digits rest : List Char}
    (found : ordinalAt? text = some (digits, rest)) :
    digits ≠ [] ∧ digits.length + 2 ≤ text.length := by
  unfold ordinalAt? at found
  simp only at found
  split at found
  · simp at found
  · rename_i nonempty
    cases ending : afterOrdinal? (takeUpTo isDigit 2 text).2 with
    | none => simp [ending] at found
    | some after =>
        simp only [ending, Option.map_some, Option.some.injEq, Prod.mk.injEq] at found
        have total := congrArg List.length (takeUpTo_append isDigit 2 text)
        have long : 2 ≤ (takeUpTo isDigit 2 text).2.length := by
          unfold afterOrdinal? at ending
          split at ending
          · rename_i equation
            simp [equation]
          · simp at ending
        rw [List.length_append] at total
        refine ⟨found.1 ▸ nonempty, ?_⟩
        rw [← found.1]
        omega

theorem stripOrdinalsAfter_skip (insideWord : Bool) (skip : Nat) (c : Char) (rest : List Char) :
    stripOrdinalsAfter insideWord (skip + 1) (c :: rest) =
      stripOrdinalsAfter (isWord c) skip rest := by
  rw [stripOrdinalsAfter.eq_def]

theorem stripOrdinalsAfter_inside (c : Char) (rest : List Char) :
    stripOrdinalsAfter true 0 (c :: rest) = c :: stripOrdinalsAfter (isWord c) 0 rest := by
  rw [stripOrdinalsAfter.eq_def]
  rfl

theorem stripOrdinalsAfter_outside (c : Char) (rest : List Char) :
    stripOrdinalsAfter false 0 (c :: rest) =
      match ordinalAt? (c :: rest) with
      | some ([_], _) => c :: stripOrdinalsAfter true 2 rest
      | some (_, _) => match rest with
        | d :: rest => c :: d :: stripOrdinalsAfter true 2 rest
        | [] => [c]
      | none => c :: stripOrdinalsAfter (isWord c) 0 rest := by
  rw [stripOrdinalsAfter.eq_def]
  rfl

theorem ordinalAt?_of_not_isDigit {c : Char} (noDigit : isDigit c = false) (rest : List Char) :
    ordinalAt? (c :: rest) = none := by
  simp [ordinalAt?, takeUpTo, noDigit]

theorem stripOrdinalsAfter_of_ends (insideWord : Bool) {text : List Char}
    (ends : startsWithWord text = false) :
    stripOrdinalsAfter insideWord 0 text = stripOrdinals text := by
  cases insideWord with
  | false => rfl
  | true =>
      cases text with
      | nil => rfl
      | cons c text =>
          rw [stripOrdinals, stripOrdinalsAfter_inside, stripOrdinalsAfter_outside,
            ordinalAt?_of_not_isDigit (isDigit_of_not_isWord ends)]

theorem stripOrdinalsAfter_append (insideWord : Bool) (skip : Nat) (text : List Char)
    {tail : List Char} (ends : startsWithWord tail = false) (enough : skip ≤ text.length) :
    stripOrdinalsAfter insideWord skip (text ++ tail) =
      stripOrdinalsAfter insideWord skip text ++ stripOrdinals tail := by
  fun_induction stripOrdinalsAfter insideWord skip text with
  | case1 insideWord skip =>
      have none : skip = 0 := Nat.le_zero.mp enough
      subst none
      exact stripOrdinalsAfter_of_ends insideWord ends
  | case2 insideWord skip c rest induction =>
      rw [List.cons_append, stripOrdinalsAfter_skip]
      exact induction (Nat.le_of_succ_le_succ enough)
  | case3 c rest induction =>
      rw [List.cons_append, stripOrdinalsAfter_inside, induction (Nat.zero_le _)]
      rfl
  | case4 insideWord c rest outside digit after found induction =>
      have long := (ordinalAt?_length found).2
      have foundBefore := ordinalAt?_append_tail (c :: rest) ends
      rw [found, List.cons_append] at foundBefore
      rw [Bool.not_eq_true] at outside
      rw [outside, List.cons_append, stripOrdinalsAfter_outside, foundBefore]
      simp only [Option.map_some, List.cons_append, List.length_cons, List.length_nil] at long ⊢
      rw [induction (by omega)]
  | case5 insideWord c outside digits after twoDigits d rest found induction =>
      have long := ordinalAt?_length found
      have foundBefore := ordinalAt?_append_tail (c :: d :: rest) ends
      rw [found, List.cons_append] at foundBefore
      rw [Bool.not_eq_true] at outside
      rw [outside, List.cons_append, stripOrdinalsAfter_outside, foundBefore]
      simp only [Option.map_some, List.cons_append, List.length_cons] at long ⊢
      have two : 2 ≤ digits.length := by
        rcases Nat.lt_or_ge 1 digits.length with many | few
        · exact many
        · obtain ⟨digit, single⟩ := List.length_eq_one_iff.mp
            (Nat.le_antisymm few (List.length_pos_iff.mpr long.1))
          exact absurd single (twoDigits digit)
      rw [induction (by omega)]
  | case6 insideWord c outside digits after twoDigits found =>
      have long := (ordinalAt?_length found).2
      simp only [List.length_cons, List.length_nil] at long
      omega
  | case7 insideWord c rest outside none induction =>
      have noneBefore := ordinalAt?_append_tail (c :: rest) ends
      rw [none, List.cons_append] at noneBefore
      rw [Bool.not_eq_true] at outside
      rw [outside, List.cons_append, stripOrdinalsAfter_outside, noneBefore]
      simp only [Option.map_none, List.cons_append]
      rw [induction (Nat.zero_le _)]

/-- Ordinal endings are dropped on the two sides of a place where no word goes on. -/
theorem stripOrdinals_append (text : List Char) {tail : List Char}
    (ends : startsWithWord tail = false) :
    stripOrdinals (text ++ tail) = stripOrdinals text ++ stripOrdinals tail :=
  stripOrdinalsAfter_append false 0 text ends (Nat.zero_le _)

theorem stripOrdinals_append_lead {lead : List Char} (blank : AllBlank lead) (text : List Char) :
    stripOrdinals (lead ++ text) = lead ++ stripOrdinals text := by
  induction lead with
  | nil => rfl
  | cons c lead induction =>
      obtain ⟨first, others⟩ := blank.of_cons
      unfold stripOrdinals at *
      rw [List.cons_append, stripOrdinalsAfter_outside,
        ordinalAt?_of_not_isDigit (isDigit_of_isBlank first), isWord_of_isBlank first]
      simp only [induction others, List.cons_append]

theorem stripOrdinals_append_tail (text : List Char) {tail : List Char} (blank : AllBlank tail) :
    stripOrdinals (text ++ tail) = stripOrdinals text ++ tail := by
  have kept := stripOrdinals_append_lead blank []
  rw [List.append_nil] at kept
  rw [stripOrdinals_append text blank.startsWithWord, kept]
  exact congrArg (stripOrdinals text ++ ·) (List.append_nil tail)

theorem normalize_append {lead tail : List Char} (leadBlank : AllBlank lead)
    (tailBlank : AllBlank tail) (text : List Char) :
    normalize (lead ++ text ++ tail) = normalize text := by
  have noComma : ∀ c, isBlank c = true → (if c == ',' then ' ' else c) = c := by
    intro c blank
    have differ : c ≠ ',' := by
      rintro rfl
      exact absurd blank (by decide)
    simp [differ]
  unfold normalize
  rw [lower_append leadBlank tailBlank, List.map_append, List.map_append, leadBlank.map noComma,
    tailBlank.map noComma, stripOrdinals_append_tail _ tailBlank,
    stripOrdinals_append_lead leadBlank]
  unfold collapse
  rw [trim_append leadBlank tailBlank]

theorem normalize_trim (text : List Char) : normalize (trim text) = normalize text := by
  obtain ⟨lead, tail, leadBlank, tailBlank, equation⟩ := exists_trim text
  have same := normalize_append leadBlank tailBlank (trim text)
  rw [← equation] at same
  exact same.symm

theorem normalize_skipBlanks (text : List Char) : normalize (skipBlanks text) = normalize text := by
  have same := normalize_append
    (List.all_eq_true.mp (List.all_takeWhile (p := isBlank) (l := text)))
    (fun _ member => absurd member List.not_mem_nil) (skipBlanks text)
  rw [List.append_nil] at same
  have whole : text.takeWhile isBlank ++ skipBlanks text = text := List.takeWhile_append_dropWhile
  rw [whole] at same
  exact same.symm

/-! Compact dates. -/

theorem isFoldedLetter_of_isBlank {c : Char} (blank : isBlank c = true) :
    isFoldedLetter c = false := by
  rw [isFoldedLetter, foldChar_of_isBlank blank, isAsciiLower_of_isBlank blank]

theorem foldedWord?_append_tail (text : List Char) {tail : List Char} (blank : AllBlank tail) :
    foldedWord? (text ++ tail) =
      (foldedWord? text).map fun (word, rest) => (word, rest ++ tail) := by
  unfold foldedWord?
  rw [takeRun_append_tail text fun c head =>
    isFoldedLetter_of_isBlank (blank c (List.mem_of_mem_head? head))]
  rcases takeRun isFoldedLetter text with ⟨_ | ⟨c, word⟩, rest⟩ <;> rfl

theorem dayDigits?_append_tail (text : List Char) {tail : List Char}
    (ends : startsWithWord tail = false) :
    dayDigits? (text ++ tail) =
      (dayDigits? text).map fun (digits, rest) => (digits, rest ++ tail) := by
  unfold dayDigits?
  rw [takeUpTo_append_tail 2 text (isDigit_head ends)]
  rcases takeUpTo isDigit 2 text with ⟨_ | ⟨c, digits⟩, rest⟩ <;> rfl

theorem afterPoint?_append_tail (text : List Char) {tail : List Char}
    (blank : ∀ c ∈ tail.head?, isBlank c = true) :
    afterPoint? (text ++ tail) = (afterPoint? text).map (· ++ tail) := by
  cases text with
  | nil =>
      cases tail with
      | nil => rfl
      | cons c tail =>
          have differ : c ≠ '.' := by
            rintro rfl
            exact absurd (blank _ rfl) (by decide)
          simp only [List.nil_append, afterPoint?]
          split
          · rename_i equation
            cases equation
            exact absurd rfl differ
          · rfl
  | cons c text =>
      by_cases point : c = '.'
      · subst point
        rfl
      · simp [afterPoint?, point]

theorem yearDigits?_append_tail (text : List Char) {tail : List Char}
    (ends : startsWithWord tail = false) :
    yearDigits? (text ++ tail) =
      (yearDigits? text).map fun (digits, rest) => (digits, rest ++ tail) := by
  unfold yearDigits?
  rw [takeUpTo_append_tail 4 text (isDigit_head ends)]
  generalize takeUpTo isDigit 4 text = taken
  obtain ⟨digits, rest⟩ := taken
  match digits with
  | [] => rfl
  | [_] => rfl
  | [_, _] => rfl
  | [_, _, _] => rfl
  | [_, _, _, _] =>
      simp only [startsWithWord_append_tail rest ends]
      split <;> rfl
  | _ :: _ :: _ :: _ :: _ :: _ => rfl

theorem compactYear?_append_tail (text : List Char) {tail : List Char} (blank : AllBlank tail) :
    compactYear? (text ++ tail) =
      (compactYear? text).map fun (digits, rest) => (digits, rest ++ tail) := by
  unfold compactYear?
  rw [yearDigits?_append_tail text blank.startsWithWord,
    takeUpTo_append_tail 2 text (isDigit_head blank.startsWithWord)]
  cases yearDigits? text with
  | some found => rfl
  | none =>
      generalize takeUpTo isDigit 2 text = taken
      obtain ⟨digits, rest⟩ := taken
      match digits with
      | [] => rfl
      | [_] => rfl
      | [_, _] =>
          simp only [Option.map_none, startsWithWord_append_tail rest blank.startsWithWord]
          split <;> rfl
      | _ :: _ :: _ :: _ => rfl

/-- Blanks behind a compact date go to its rest, if it has one; the rest must be on one line. -/
def Parts.withTail (parts : Parts) (tail : List Char) : Option Parts :=
  if parts.rest = [] then some parts
  else if tail.contains '\n' then none
  else some { parts with rest := parts.rest ++ tail }

def compactAfter? (text : List Char) : Option Parts := do
  let (day, rest) ← dayDigits? text
  let rest ← afterPoint? rest
  let (month, rest) ← foldedWord? rest
  let rest ← afterPoint? rest
  let (year, rest) ← compactYear? rest
  let rest := skipBlanks rest
  if rest.contains '\n' then none else some ⟨day, month, some year, rest⟩

def afterWeekday? (text : List Char) : Option (List Char) :=
  match foldedWord? text with
  | some (_, rest) => (afterPoint? rest).map skipBlanks
  | none => some text

theorem compactParts?_eq (text : List Char) :
    compactParts? text = (afterWeekday? (skipBlanks text)).bind compactAfter? := by
  simp only [compactParts?, afterWeekday?]
  cases foldedWord? (skipBlanks text) <;> rfl

theorem compactAfter?_append_tail (text : List Char) {tail : List Char} (blank : AllBlank tail) :
    compactAfter? (text ++ tail) = (compactAfter? text).bind (·.withTail tail) := by
  unfold compactAfter?
  rw [dayDigits?_append_tail text blank.startsWithWord]
  cases dayDigits? text with
  | none => rfl
  | some found =>
  obtain ⟨day, afterDay⟩ := found
  simp only [Option.map_some, Option.bind_eq_bind, Option.bind_some,
    afterPoint?_append_tail afterDay blank.head]
  cases afterPoint? afterDay with
  | none => rfl
  | some afterDay =>
  simp only [Option.map_some, Option.bind_some, foldedWord?_append_tail afterDay blank]
  cases foldedWord? afterDay with
  | none => rfl
  | some found =>
  obtain ⟨month, afterMonth⟩ := found
  simp only [Option.map_some, Option.bind_some, afterPoint?_append_tail afterMonth blank.head]
  cases afterPoint? afterMonth with
  | none => rfl
  | some afterMonth =>
  simp only [Option.map_some, Option.bind_some, compactYear?_append_tail afterMonth blank]
  cases compactYear? afterMonth with
  | none => rfl
  | some found =>
  obtain ⟨year, afterYear⟩ := found
  simp only [Option.map_some, Option.bind_some, skipBlanks_append_tail afterYear blank]
  by_cases none : skipBlanks afterYear = []
  · simp [none, Parts.withTail]
  · by_cases broken : '\n' ∈ skipBlanks afterYear
    · simp [none, broken]
    · by_cases tailBroken : '\n' ∈ tail
      · simp [none, broken, tailBroken, Parts.withTail]
      · simp [none, broken, tailBroken, Parts.withTail]

theorem afterWeekday?_append_tail {text : List Char} (nonempty : text ≠ []) {tail : List Char}
    (blank : AllBlank tail) :
    afterWeekday? (text ++ tail) =
      (afterWeekday? text).map fun rest => if rest = [] then [] else rest ++ tail := by
  unfold afterWeekday?
  rw [foldedWord?_append_tail text blank]
  cases foldedWord? text with
  | none => simp [nonempty]
  | some found =>
      obtain ⟨word, rest⟩ := found
      simp only [Option.map_some, afterPoint?_append_tail rest blank.head]
      cases afterPoint? rest with
      | none => rfl
      | some rest => simp only [Option.map_some, skipBlanks_append_tail rest blank]

theorem compactParts?_append_tail (text : List Char) {tail : List Char} (blank : AllBlank tail) :
    compactParts? (text ++ tail) = (compactParts? text).bind (·.withTail tail) := by
  rw [compactParts?_eq, compactParts?_eq, skipBlanks_append_tail text blank]
  by_cases empty : skipBlanks text = []
  · rw [if_pos empty, empty]
    rfl
  · rw [if_neg empty, afterWeekday?_append_tail empty blank]
    cases afterWeekday? (skipBlanks text) with
    | none => rfl
    | some rest =>
        simp only [Option.map_some, Option.bind_some]
        split
        · rename_i none
          rw [none]
          rfl
        · exact compactAfter?_append_tail rest blank

/-- Whether a compact date with something behind it is followed by blanks with a line break. -/
def IsCut (text : List Char) : Prop :=
  ∃ parts, compactParts? (trim text) = some parts ∧ parts.rest ≠ [] ∧ '\n' ∈ blanksBehind text

theorem compactParts?_skipBlanks (text : List Char) :
    compactParts? (skipBlanks text) = compactParts? text := by
  rw [compactParts?_eq, compactParts?_eq, skipBlanks_skipBlanks]

theorem compactParts?_untrimmed (text : List Char) :
    compactParts? text = (compactParts? (trim text)).bind (·.withTail (blanksBehind text)) := by
  rw [← compactParts?_skipBlanks text]
  conv => lhs; rw [← trim_append_blanksBehind text]
  exact compactParts?_append_tail (trim text) (blanksBehind_allBlank text)

theorem compact?_of_isCut {text : List Char} (cut : IsCut text) (today : Date) :
    compact? text today = none := by
  obtain ⟨parts, found, rest, broken⟩ := cut
  have none : compactParts? text = none := by
    rw [compactParts?_untrimmed, found]
    simp [Parts.withTail, rest, broken]
  simp [compact?, none]

theorem compact?_trim {text : List Char} (whole : ¬IsCut text) (today : Date) :
    compact? text today = compact? (trim text) today := by
  unfold compact?
  rw [compactParts?_untrimmed]
  cases found : compactParts? (trim text) with
  | none => rfl
  | some parts =>
      by_cases none : parts.rest = []
      · simp [Parts.withTail, none]
      · have unbroken : '\n' ∉ blanksBehind text := fun broken =>
          whole ⟨parts, found, none, broken⟩
        simp [Parts.withTail, none, unbroken,
          trailingTime?_append_tail parts.rest (blanksBehind_allBlank text)]

/-! All formats. -/

def otherThanCompact? (text : List Char) (context : DateContext) : Option PrintedDate :=
  relative? text context.today <|> iso? text context <|> weekdayDayMonth? text context.today <|>
    dayMonth? text context.today

theorem relative?_trim (text : List Char) (today : Date) :
    relative? (trim text) today = relative? text today := by
  simp only [relative?, normalize_trim]

theorem weekdayDayMonth?_trim (text : List Char) (today : Date) :
    weekdayDayMonth? (trim text) today = weekdayDayMonth? text today := by
  simp only [weekdayDayMonth?, normalize_trim]

theorem dayMonth?_trim (text : List Char) (today : Date) :
    dayMonth? (trim text) today = dayMonth? text today := by
  simp only [dayMonth?, normalize_trim]

theorem iso?_trim (text : List Char) (context : DateContext) :
    iso? (trim text) context = iso? text context := by
  simp only [iso?, trim_trim]

/-- Reading a text as it stands is reading it trimmed, unless a compact date is cut off. -/
theorem auto?_trim {text : List Char} (whole : ¬IsCut text) (context : DateContext) :
    auto? text context = auto? (trim text) context := by
  simp only [auto?, relative?_trim, iso?_trim, weekdayDayMonth?_trim, dayMonth?_trim,
    compact?_trim whole]

theorem auto?_of_isCut {text : List Char} (cut : IsCut text) (context : DateContext) :
    auto? text context = otherThanCompact? (trim text) context := by
  simp only [auto?, otherThanCompact?, relative?_trim, iso?_trim, weekdayDayMonth?_trim,
    dayMonth?_trim, compact?_of_isCut cut, Option.none_or, Option.orElse_eq_orElse,
    Option.orElse_eq_or]

end GigListings.DateText
