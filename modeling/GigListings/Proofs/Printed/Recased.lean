import GigListings.Proofs.Printed.Separators
import GigListings.Proofs.Text.Caseless
import GigListings.Transform.Basic

namespace GigListings

open Text

/-! Times in capital and small letters. Single times are read alike. Of the ends of a range this
holds if the words that set them apart are written alike. -/

namespace TimeText

/-! Single times. -/

theorem isTimeMark_asciiLower (c : Char) : isTimeMark (asciiLower c) = isTimeMark c :=
  apply_asciiLower isTimeMark (by decide) c

theorem isMeridiem_asciiLower (c : Char) : isMeridiem (asciiLower c) = isMeridiem c :=
  apply_asciiLower isMeridiem (by decide) c

theorem meridiemAt?_lowered (text : List Char) :
    meridiemAt? (lowered text) = (meridiemAt? text).map asciiLower := by
  have isPoint := skipOne_lowered (p := (· == '.')) (apply_asciiLower (· == '.') (by decide))
  have isLast := iff_asciiLower (fun c => c = 'm' ∨ c = 'M') (by decide)
  unfold meridiemAt?
  rw [skipBlanks_lowered]
  cases skipBlanks text with
  | nil => rfl
  | cons letter rest =>
      simp only [lowered_cons, isMeridiem_asciiLower, isPoint, skipBlanks_lowered]
      cases skipBlanks (skipOne (· == '.') rest) with
      | nil => cases isMeridiem letter <;> rfl
      | cons m rest =>
          simp only [lowered_cons, isLast, startsWithWord_lowered,
            apply_ite (Option.map asciiLower)]
          rfl

theorem minuteAt?_lowered (text : List Char) :
    minuteAt? (lowered text) =
      (minuteAt? text).map fun (minute, rest) => (lowered minute, lowered rest) := by
  match text with
  | [] => rfl
  | [_] => rfl
  | [_, _] => rfl
  | mark :: a :: b :: rest =>
      simp only [lowered_cons, minuteAt?, isTimeMark_asciiLower, isDigit_asciiLower]
      split <;> rfl

def TwelveHour.lowered (printed : TwelveHour) : TwelveHour :=
  ⟨Text.lowered printed.hour, printed.minute.map Text.lowered, asciiLower printed.meridiem⟩

theorem twelveHourAt?_lowered (text : List Char) :
    twelveHourAt? (lowered text) = (twelveHourAt? text).map TwelveHour.lowered := by
  unfold twelveHourAt?
  simp only [takeUpTo_lowered isDigit_asciiLower, minuteAt?_lowered]
  cases minuteAt? (takeUpTo isDigit 2 text).2 with
  | none =>
      simp only [Option.map_none, meridiemAt?_lowered, Option.map_map]
      rfl
  | some found =>
      simp only [Option.map_some, meridiemAt?_lowered, Option.map_map]
      rfl

def TwentyFourHour.lowered (printed : TwentyFourHour) : TwentyFourHour :=
  ⟨Text.lowered printed.hour, Text.lowered printed.minute⟩

theorem minuteEnd?_lowered (text : List Char) :
    minuteEnd? (lowered text) = (minuteEnd? text).map lowered := by
  have least := iff_asciiLower ('0' ≤ ·) (by decide)
  have most := iff_asciiLower (· ≤ '5') (by decide)
  match text with
  | [] => rfl
  | [_] => rfl
  | [_, _] => rfl
  | mark :: a :: b :: rest =>
      simp only [lowered_cons, minuteEnd?, isTimeMark_asciiLower, isDigit_asciiLower,
        startsWithWord_lowered, least, most]
      split <;> rfl

theorem isHourPair_asciiLower (a b : Char) :
    isHourPair (asciiLower a) (asciiLower b) = isHourPair a b := by
  have zero := apply_asciiLower (· == '0') (by decide) a
  have one := apply_asciiLower (· == '1') (by decide) a
  have two := apply_asciiLower (· == '2') (by decide) a
  have least := apply_asciiLower (fun c => decide ('0' ≤ c)) (by decide) b
  have most := apply_asciiLower (fun c => decide (c ≤ '3')) (by decide) b
  simp only [isHourPair, zero, one, two, isDigit_asciiLower, least, most]

theorem twentyFourHourAt?_lowered (text : List Char) :
    twentyFourHourAt? (lowered text) =
      (twentyFourHourAt? text).map TwentyFourHour.lowered := by
  match text with
  | [] => rfl
  | [_] => rfl
  | a :: b :: rest =>
      have short := minuteEnd?_lowered (b :: rest)
      rw [lowered_cons] at short
      simp only [lowered_cons, twentyFourHourAt?, isDigit_asciiLower, isHourPair_asciiLower, short,
        minuteEnd?_lowered]
      split
      · split
        · split
          · rw [Option.map_map, Option.map_map]
            rfl
          · rfl
        · rw [Option.map_map, Option.map_map]
          rfl
      · rfl

theorem findNumber?_lowered {at? : List Char → Option α} {image : α → α}
    (reads : ∀ text, at? (lowered text) = (at? text).map image) (insideWord : Bool)
    (text : List Char) :
    findNumber? at? insideWord (lowered text) = (findNumber? at? insideWord text).map image := by
  induction text generalizing insideWord with
  | nil => rfl
  | cons c text induction =>
      have here := reads (c :: text)
      rw [lowered_cons] at here
      simp only [lowered_cons, findNumber?, isDigit_asciiLower, isWord_asciiLower, induction, here]
      cases !insideWord && isDigit c with
      | false => rfl
      | true => cases at? (c :: text) <;> rfl

theorem TwelveHour.time?_lowered (printed : TwelveHour) :
    printed.lowered.time? = printed.time? := by
  simp only [time?, TwelveHour.lowered, number?_lowered, asciiLower_asciiLower]
  cases printed.minute with
  | none => rfl
  | some minute => simp only [Option.map_some, number?_lowered]

theorem TwentyFourHour.time?_lowered (printed : TwentyFourHour) :
    printed.lowered.time? = printed.time? := by
  simp only [time?, TwentyFourHour.lowered, number?_lowered]

theorem findTwelveHour?_lowered (text : List Char) :
    findTwelveHour? (lowered text) = (findTwelveHour? text).map TwelveHour.lowered :=
  findNumber?_lowered twelveHourAt?_lowered false text

theorem single?_lowered (text : List Char) : single? (lowered text) = single? text := by
  have twentyFour : findTwentyFourHour? (lowered text) = _ :=
    findNumber?_lowered twentyFourHourAt?_lowered false text
  unfold single?
  rw [findTwelveHour?_lowered, twentyFour]
  cases findTwelveHour? text with
  | some printed => exact printed.time?_lowered
  | none =>
      have same : TwentyFourHour.time? ∘ TwentyFourHour.lowered = TwentyFourHour.time? :=
        funext TwentyFourHour.time?_lowered
      rw [Option.map_none, Option.bind_map, same]
      rfl

/-! What is in front of a time and around it. -/

theorem isBareHour_lowered (text : List Char) : isBareHour (lowered text) = isBareHour text := by
  have empty : ∀ hour : List Char, lowered hour ≠ [] ↔ hour ≠ [] :=
    fun hour => not_congr List.map_eq_nil_iff
  unfold isBareHour
  simp only [takeUpTo_lowered isDigit_asciiLower, empty]
  congr 1
  cases rest : (takeUpTo isDigit 2 text).2 with
  | nil => rfl
  | cons c behind =>
      have minute := minuteAt?_lowered (c :: behind)
      rw [lowered_cons] at minute
      simp only [lowered_cons, minute]
      cases minuteAt? (c :: behind) with
      | none => rfl
      | some found =>
          obtain ⟨digits, rest⟩ := found
          cases rest <;> rfl

theorem stripDoors_lowered (text : List Char) :
    stripDoors (lowered text) = lowered (stripDoors text) := by
  have ending := skipOne_lowered (p := (foldChar · == 's'))
    (fun c => congrArg (· == 's') (foldChar_asciiLower c))
  have mark := skipOne_lowered (p := fun c => c == ':' || c == '-')
    (apply_asciiLower (fun c => c == ':' || c == '-') (by decide))
  unfold stripDoors
  rw [skipBlanks_lowered, afterFolded?_lowered]
  cases afterFolded? foldChar ['d', 'o', 'o', 'r'] (skipBlanks text) with
  | none => rfl
  | some rest =>
      have opened : ((afterBlanks? (lowered (skipOne (foldChar · == 's') rest))).bind
            (afterFolded? foldChar ['o', 'p', 'e', 'n'])) =
          ((afterBlanks? (skipOne (foldChar · == 's') rest)).bind
            (afterFolded? foldChar ['o', 'p', 'e', 'n'])).map lowered := by
        rw [afterBlanks?_lowered]
        cases afterBlanks? (skipOne (foldChar · == 's') rest) with
        | none => rfl
        | some behind => exact afterFolded?_lowered _ behind
      simp only [Option.map_some, ending, opened]
      cases (afterBlanks? (skipOne (foldChar · == 's') rest)).bind
          (afterFolded? foldChar ['o', 'p', 'e', 'n']) with
      | none => simp only [Option.map_none, skipBlanks_lowered, mark]
      | some behind => simp only [Option.map_some, skipBlanks_lowered, mark]

/-! Ranges. -/

def separatorsAfter : (insideWord : Bool) → List Char → List Bool
  | _, [] => []
  | insideWord, c :: rest =>
      (afterSeparator? insideWord (c :: rest)).isSome :: separatorsAfter (isWord c) rest

def separators (text : List Char) : List Bool := separatorsAfter false text

/-- Texts that differ only in the case of letters of ASCII, with their separators at the same
places. -/
structure Recased (insideWord : Bool) (text other : List Char) : Prop where
  letters : lowered text = lowered other
  separators : separatorsAfter insideWord text = separatorsAfter insideWord other

def SidesAlike (sides others : List Char × List Char) : Prop :=
  lowered sides.1 = lowered others.1 ∧ Recased false sides.2 others.2

theorem Recased.eq_nil_iff {insideWord : Bool} {text other : List Char}
    (recased : Recased insideWord text other) : text = [] ↔ other = [] := by
  have images := iff_of_eq (congrArg (· = []) recased.letters)
  rwa [lowered, lowered, List.map_eq_nil_iff, List.map_eq_nil_iff] at images

theorem Recased.of_cons {insideWord : Bool} {c d : Char} {text other : List Char}
    (recased : Recased insideWord (c :: text) (d :: other)) :
    asciiLower c = asciiLower d ∧
      (afterSeparator? insideWord (c :: text)).isSome =
        (afterSeparator? insideWord (d :: other)).isSome ∧
      Recased (isWord c) text other := by
  obtain ⟨letters, separators⟩ := recased
  obtain ⟨first, others⟩ := List.cons.inj letters
  obtain ⟨separator, later⟩ := List.cons.inj separators
  refine ⟨first, separator, others, ?_⟩
  rw [later, apply_eq_of_asciiLower_eq isWord_asciiLower first]

theorem afterWord?_eq_none {c d : Char} (noWord : isWord d = false) (isLetter : isWord c = true)
    (word text : List Char) : afterWord? (c :: word) (d :: text) = none := by
  have differ : c ≠ d := by
    rintro rfl
    rw [isLetter] at noWord
    cases noWord
  rw [afterWord?, afterLead?, if_neg differ]

theorem separatorsAfter_of_ends (insideWord : Bool) {text : List Char}
    (ends : startsWithWord text = false) :
    separatorsAfter insideWord text = separatorsAfter false text := by
  cases text with
  | nil => rfl
  | cons c text =>
      have noTo := afterWord?_eq_none (c := 't') ends (by decide) ['o'] text
      have noUntil := afterWord?_eq_none (c := 'u') ends (by decide) ['n', 't', 'i', 'l'] text
      simp only [separatorsAfter, afterSeparator?, noTo, noUntil]
      cases insideWord <;> rfl

theorem Recased.of_ends {insideWord : Bool} {text other : List Char}
    (recased : Recased insideWord text other) (ends : startsWithWord text = false) :
    Recased false text other := by
  have otherEnds : startsWithWord other = false := by
    rw [← startsWithWord_lowered, ← recased.letters, startsWithWord_lowered, ends]
  refine ⟨recased.letters, ?_⟩
  rw [← separatorsAfter_of_ends insideWord ends, ← separatorsAfter_of_ends insideWord otherEnds]
  exact recased.separators

theorem Recased.behind {insideWord : Bool} {word rest others : List Char}
    (recased : Recased insideWord (word ++ rest) (word ++ others)) (nonempty : word ≠ [])
    (ends : startsWithWord rest = false) : Recased false rest others := by
  induction word generalizing insideWord with
  | nil => exact absurd rfl nonempty
  | cons c word induction =>
      obtain ⟨-, -, later⟩ := recased.of_cons
      cases word with
      | nil => exact later.of_ends ends
      | cons d word => exact induction later (List.cons_ne_nil d word)

theorem isDash_asciiLower (c : Char) : isDash (asciiLower c) = isDash c :=
  apply_asciiLower isDash (by decide) c

theorem eq_of_mem_separatorWords {word other rest others : List Char}
    (listed : word ∈ separatorWords) (otherListed : other ∈ separatorWords)
    (same : lowered (word ++ rest) = lowered (other ++ others)) : word = other := by
  simp only [separatorWords, List.mem_cons, List.not_mem_nil, or_false] at listed otherListed
  rcases listed with rfl | rfl <;> rcases otherListed with rfl | rfl
  · rfl
  · exact absurd (List.cons.inj same).1 (by decide)
  · exact absurd (List.cons.inj same).1 (by decide)
  · rfl

theorem ne_nil_of_mem_separatorWords {word : List Char} (listed : word ∈ separatorWords) :
    word ≠ [] := by
  revert word
  decide

/-- Behind separators that stand at the same place, the texts are alike again. -/
theorem Recased.behindSeparators {insideWord : Bool} {c d : Char}
    {text other rest others : List Char} (recased : Recased insideWord (c :: text) (d :: other))
    (found : afterSeparator? insideWord (c :: text) = some rest)
    (otherFound : afterSeparator? insideWord (d :: other) = some others) :
    Recased false rest others := by
  obtain ⟨same, -, later⟩ := recased.of_cons
  have dashes : isDash d = isDash c := apply_eq_of_asciiLower_eq isDash_asciiLower same.symm
  rcases afterSeparator?_cases found with ⟨dash, rfl⟩ | ⟨noDash, word, listed, whole, ends⟩ <;>
    rcases afterSeparator?_cases otherFound with
      ⟨otherDash, rfl⟩ | ⟨otherNoDash, otherWord, otherListed, otherWhole, -⟩
  · rwa [isWord_of_isDash dash] at later
  · rw [dashes, dash] at otherNoDash
    cases otherNoDash
  · rw [dashes, noDash] at otherDash
    cases otherDash
  · have letters := recased.letters
    rw [whole, otherWhole] at letters recased
    obtain rfl := eq_of_mem_separatorWords listed otherListed letters
    exact recased.behind (ne_nil_of_mem_separatorWords listed) ends

theorem afterSeparator?_recased {insideWord : Bool} {c d : Char} {text other : List Char}
    (recased : Recased insideWord (c :: text) (d :: other)) :
    Option.Rel (Recased false) (afterSeparator? insideWord (c :: text))
      (afterSeparator? insideWord (d :: other)) := by
  have together := recased.of_cons.2.1
  cases found : afterSeparator? insideWord (c :: text) with
  | none =>
      rw [found] at together
      rw [Option.isNone_iff_eq_none.mp (Option.isSome_eq_false_iff.mp together.symm)]
      exact .none
  | some rest =>
      rw [found] at together
      obtain ⟨others, otherFound⟩ := Option.isSome_iff_exists.mp together.symm
      rw [otherFound]
      exact .some (recased.behindSeparators found otherFound)

theorem splitAt?_recased {insideWord : Bool} {text other : List Char}
    (recased : Recased insideWord text other) :
    Option.Rel SidesAlike (splitAt? insideWord text) (splitAt? insideWord other) := by
  induction text generalizing insideWord other with
  | nil =>
      rw [List.map_eq_nil_iff.mp recased.letters.symm]
      exact .none
  | cons c text induction =>
      cases other with
      | nil => exact absurd recased.letters (List.cons_ne_nil _ _)
      | cons d other =>
          obtain ⟨same, -, later⟩ := recased.of_cons
          have word : isWord d = isWord c := apply_eq_of_asciiLower_eq isWord_asciiLower same.symm
          rw [splitAt?, splitAt?, word]
          have behind := afterSeparator?_recased recased
          have sides := induction later
          generalize afterSeparator? insideWord (c :: text) = after,
            afterSeparator? insideWord (d :: other) = otherAfter at behind
          generalize splitAt? (isWord c) text = split, splitAt? (isWord c) other = otherSplit
            at sides
          cases behind with
          | some behind => exact .some ⟨rfl, behind⟩
          | none =>
              cases sides with
              | none => exact .none
              | some sides => exact .some ⟨congrArg₂ List.cons same sides.1, sides.2⟩

/-! Blanks at the ends. -/

theorem separatorsAfter_append_tail (insideWord : Bool) (text : List Char) {tail : List Char}
    (blank : AllBlank tail) :
    (separatorsAfter insideWord (text ++ tail)).take text.length =
      separatorsAfter insideWord text := by
  induction text generalizing insideWord with
  | nil => rfl
  | cons c text induction =>
      have separator := afterSeparator?_append_tail insideWord c text blank
      rw [List.cons_append] at separator ⊢
      rw [separatorsAfter, separatorsAfter, List.length_cons, List.take_succ_cons, induction,
        separator, Option.isSome_map]

theorem Recased.of_append_tail {insideWord : Bool} {text other tail others : List Char}
    (recased : Recased insideWord (text ++ tail) (other ++ others)) (blank : AllBlank tail)
    (otherBlank : AllBlank others) (letters : lowered text = lowered other) :
    Recased insideWord text other := by
  have length : text.length = other.length := by
    have lengths := congrArg List.length letters
    rwa [lowered, lowered, List.length_map, List.length_map] at lengths
  refine ⟨letters, ?_⟩
  rw [← separatorsAfter_append_tail insideWord text blank,
    ← separatorsAfter_append_tail insideWord other otherBlank, recased.separators, length]

theorem Recased.skipBlanks {text other : List Char} (recased : Recased false text other) :
    Recased false (skipBlanks text) (skipBlanks other) := by
  induction text generalizing other with
  | nil =>
      rw [List.map_eq_nil_iff.mp recased.letters.symm]
      exact ⟨rfl, rfl⟩
  | cons c text induction =>
      cases other with
      | nil => exact absurd recased.letters (List.cons_ne_nil _ _)
      | cons d other =>
          obtain ⟨same, -, later⟩ := recased.of_cons
          have blanks : isBlank d = isBlank c :=
            apply_eq_of_asciiLower_eq isBlank_asciiLower same.symm
          unfold Text.skipBlanks
          rw [List.dropWhile_cons, List.dropWhile_cons, blanks]
          split
          · rename_i blank
            rw [isWord_of_isBlank blank] at later
            exact induction later
          · exact recased

theorem Recased.trim {text other : List Char} (recased : Recased false text other) :
    Recased false (trim text) (trim other) := by
  have skipped := recased.skipBlanks
  rw [← trim_append_blanksBehind text, ← trim_append_blanksBehind other] at skipped
  refine skipped.of_append_tail (blanksBehind_allBlank text) (blanksBehind_allBlank other) ?_
  rw [← trim_lowered, recased.letters, trim_lowered]

/-! Ends. -/

theorem splitRange_recased {text other : List Char} (recased : Recased false text other) :
    lowered (splitRange text).1 = lowered (splitRange other).1 ∧
      Option.Rel (Recased false) (splitRange text).2 (splitRange other).2 := by
  have trimmed {text other : List Char} (letters : lowered text = lowered other) :
      lowered (trim text) = lowered (trim other) := by
    rw [← trim_lowered, letters, trim_lowered]
  have sides := splitAt?_recased recased
  unfold splitRange
  generalize splitAt? false text = split, splitAt? false other = otherSplit at sides
  cases sides with
  | none => exact ⟨trimmed recased.letters, .none⟩
  | some alike =>
      rename_i sides others
      have behind := alike.2.trim
      refine ⟨trimmed alike.1, ?_⟩
      simp only [behind.eq_nil_iff]
      split
      · exact .none
      · exact .some behind

theorem lastSegment_recased {text other : List Char} (recased : Recased false text other) :
    lowered (lastSegment text) = lowered (lastSegment other) := by
  have sides := (splitRange_recased recased).2
  induction text using lastSegment.induct generalizing other with
  | case1 text start finish split induction =>
      rw [split] at sides
      cases otherSides : (splitRange other).2 with
      | none =>
          rw [otherSides] at sides
          cases sides
      | some otherFinish =>
          rw [otherSides] at sides
          cases sides with
          | some behind =>
              rw [lastSegment_of_some (congrArg Prod.snd split), lastSegment_of_some otherSides]
              exact induction behind (splitRange_recased behind).2
  | case2 text start split =>
      rw [split] at sides
      cases otherSides : (splitRange other).2 with
      | none =>
          rw [lastSegment_of_none (congrArg Prod.snd split), lastSegment_of_none otherSides]
          exact recased.letters
      | some otherFinish =>
          rw [otherSides] at sides
          cases sides

theorem rangeStart?_lowered (start : List Char) (finish : Option (List Char)) :
    rangeStart? (lowered start) (finish.map lowered) = rangeStart? start finish := by
  have borrowed : (finish.map lowered).bind findTwelveHour? =
      (finish.bind findTwelveHour?).map TwelveHour.lowered := by
    cases finish with
    | none => rfl
    | some finish => exact findTwelveHour?_lowered finish
  unfold rangeStart?
  rw [isBareHour_lowered, borrowed]
  cases isBareHour start with
  | false => exact single?_lowered start
  | true =>
      simp only [if_true]
      cases finish.bind findTwelveHour? with
      | none => exact single?_lowered start
      | some printed =>
          have image : lowered (start ++ [printed.meridiem, 'm']) =
              lowered start ++ [asciiLower printed.meridiem, 'm'] := lowered_append _ _
          have same := single?_lowered (start ++ [printed.meridiem, 'm'])
          rw [image] at same
          exact same

theorem rangeStart?_recased {text other : List Char} (recased : Recased false text other) :
    rangeStart? (splitRange text).1 (splitRange text).2 =
      rangeStart? (splitRange other).1 (splitRange other).2 := by
  obtain ⟨starts, ends⟩ := splitRange_recased recased
  have finishes : (splitRange text).2.map lowered = (splitRange other).2.map lowered := by
    generalize (splitRange text).2 = finish, (splitRange other).2 = otherFinish at ends
    cases ends with
    | none => rfl
    | some behind => exact congrArg some behind.letters
  rw [← rangeStart?_lowered, starts, finishes, rangeStart?_lowered]

theorem rangeEnd?_recased {text other : List Char} (recased : Recased false text other) :
    ((splitRange text).2.bind fun finish => single? (lastSegment finish)) =
      (splitRange other).2.bind fun finish => single? (lastSegment finish) := by
  have ends := (splitRange_recased recased).2
  generalize (splitRange text).2 = finish, (splitRange other).2 = otherFinish at ends
  cases ends with
  | none => rfl
  | some behind =>
      simp only [Option.bind_some]
      rw [← single?_lowered, lastSegment_recased behind, single?_lowered]

theorem time?_recased {text other : List Char}
    (recased : Recased false (stripDoors (trim text)) (stripDoors (trim other))) :
    time? text = time? other := rangeStart?_recased recased

theorem range?_recased {text other : List Char}
    (recased : Recased false (stripDoors (trim text)) (stripDoors (trim other))) :
    range? text = range? other := by
  unfold range?
  simp only [rangeStart?_recased recased, rangeEnd?_recased recased]

end TimeText

namespace Transform

def readsTimes : Transform → Bool
  | timeRangeStart | timeRangeEnd | parseTime | dateTime => true
  | _ => false

/-- Texts that differ only in the case of letters of ASCII give the same times, if behind what is
said of the doors the same places separate the ends of ranges. -/
theorem apply_recased {text other : String}
    (letters : lowered text.toList = lowered other.toList)
    (separators : TimeText.separators (TimeText.stripDoors (Text.trim text.toList)) =
      TimeText.separators (TimeText.stripDoors (Text.trim other.toList))) :
    TimeText.time? text.toList = TimeText.time? other.toList ∧
      TimeText.range? text.toList = TimeText.range? other.toList ∧
      ∀ (transform : Transform) (args : Args) (context : TransformContext),
        transform.readsTimes = true →
          transform.apply text args context = transform.apply other args context := by
  have recased : TimeText.Recased false (TimeText.stripDoors (Text.trim text.toList))
      (TimeText.stripDoors (Text.trim other.toList)) := by
    refine ⟨?_, separators⟩
    rw [← TimeText.stripDoors_lowered, ← trim_lowered, letters, trim_lowered,
      TimeText.stripDoors_lowered]
  have times := TimeText.time?_recased recased
  have ranges := TimeText.range?_recased recased
  refine ⟨times, ranges, fun transform args context reads => ?_⟩
  cases transform with
  | timeRangeStart => simp only [apply, applyIn, rangeStart?, ranges]
  | timeRangeEnd => simp only [apply, applyIn, rangeEnd?, ranges]
  | parseTime => simp only [apply, applyIn, time?, times]
  | dateTime => simp only [apply, applyIn, dateTimeIn?, timeOn?, ranges]
  | _ => cases reads

theorem apply_recased_doors :
    TimeText.range? "Doors 7PM to 11pm".toList = TimeText.range? "DOORS 7pm to 11PM".toList :=
  (@apply_recased "Doors 7PM to 11pm" "DOORS 7pm to 11PM" (by decide) (by decide)).2.1

/-- A word in capitals separates nothing: the end of the range is lost, or is read as its start. -/
theorem capitals_separate_nothing :
    lowered "20:00 TO 23:00".toList = lowered "20:00 to 23:00".toList ∧
      rangeEnd? "20:00 TO 23:00" = some "20:00" ∧ rangeEnd? "20:00 to 23:00" = some "23:00" ∧
      lowered "7 TO 11pm".toList = lowered "7 to 11pm".toList ∧
      time? "7 TO 11pm" = some "23:00" ∧ time? "7 to 11pm" = some "19:00" := by
  decide +kernel

end Transform

end GigListings
