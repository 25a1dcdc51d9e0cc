import GigListings.Proofs.Printed.Separators
import GigListings.Proofs.Printed.SingleTimes

namespace GigListings.TimeText

open Text

/-! The start of a range. A time in front of a separator is the start, but for a bare hour: where
there is a time with `am` or `pm` behind the separator, it borrows that, and then an hour that the
12-hour clock does not have is lost. -/

/-! Blanks around ranges. -/

theorem splitRange_append_lead {lead : List Char} (blank : AllBlank lead) (text : List Char) :
    splitRange (lead ++ text) = splitRange text := by
  have outside := endsInWord_allBlank blank
  unfold splitRange
  rw [splitAt?_append_apart (splitAt?_allBlank false blank) (.inl outside), outside]
  cases splitAt? false text with
  | none => simp only [Option.map_none, trim_append_lead blank]
  | some sides => simp only [Option.map_some, trim_append_lead blank]

theorem splitRange_trim (text : List Char) : splitRange (trim text) = splitRange text := by
  obtain ⟨lead, tail, leadBlank, tailBlank, equation⟩ := exists_trim text
  conv => rhs; rw [equation]
  rw [splitRange_append_tail _ tailBlank, splitRange_append_lead leadBlank]

/-! Doors. -/

/-- Whether the doors are named at the start of a text. -/
def beginsWithDoors (text : List Char) : Bool :=
  (afterFolded? foldChar ['d', 'o', 'o', 'r'] (skipBlanks text)).isSome

theorem stripDoors_eq_self {text : List Char} (noDoors : beginsWithDoors text = false) :
    stripDoors text = text := by
  have none : afterFolded? foldChar ['d', 'o', 'o', 'r'] (skipBlanks text) = none :=
    Option.isNone_iff_eq_none.mp (Option.isSome_eq_false_iff.mp noDoors)
  rw [stripDoors, none]

theorem isDigit_of_isFoldedLetter {c : Char} (letter : DateText.isFoldedLetter c = true) :
    isDigit c = false := by
  refine folded_cases (motive := (isDigit · = false)) letter (by decide) fun code member => ?_
  have large : ¬code < 128 ∧ (Char.ofNat code).toNat = code := by
    revert code
    decide
  rw [isDigit, large.2, if_neg large.1, leftOut.decimal code (List.mem_append_right _ member)]

theorem afterFolded?_append_eq_none {fold : Char → Char} {lead text : List Char}
    (none : afterFolded? fold lead text = none) {c : Char} (member : c ∈ text)
    (foreign : fold c ∉ lead) (rest : List Char) :
    afterFolded? fold lead (text ++ rest) = Option.none := by
  induction lead generalizing text with
  | nil => cases none
  | cons l lead induction =>
      cases text with
      | nil => cases member
      | cons d text =>
          rw [List.cons_append]
          rw [afterFolded?] at none ⊢
          split
          · rename_i same
            rw [if_pos same] at none
            obtain ⟨notFirst, notLater⟩ := not_or.mp (mt List.mem_cons.mpr foreign)
            have later : c ∈ text := by
              rcases List.mem_cons.mp member with rfl | later
              · exact absurd same notFirst
              · exact later
            exact induction none later notLater
          · rfl

theorem afterFolded?_append {fold : Char → Char} {lead text behind : List Char}
    (found : afterFolded? fold lead text = some behind) (rest : List Char) :
    afterFolded? fold lead (text ++ rest) = some (behind ++ rest) := by
  induction lead generalizing text with
  | nil =>
      cases found
      rfl
  | cons l lead induction =>
      cases text with
      | nil => cases found
      | cons d text =>
          rw [List.cons_append]
          rw [afterFolded?] at found ⊢
          split
          · rename_i same
            rw [if_pos same] at found
            exact induction found
          · rename_i differ
            rw [if_neg differ] at found
            cases found

theorem foldChar_notMem_door {c : Char} (digit : isDigit c = true) :
    foldChar c ∉ ['d', 'o', 'o', 'r'] := by
  intro letter
  have lower : ['d', 'o', 'o', 'r'].all isAsciiLower = true := by decide
  have folded : DateText.isFoldedLetter c = true := List.all_eq_true.mp lower _ letter
  rw [isDigit_of_isFoldedLetter folded] at digit
  cases digit

/-- In front of a text that has a time in it no doors are named, whatever follows, unless they are
named in that text. -/
theorem beginsWithDoors_trim_append {text : List Char} {time : TimeOfDay}
    (read : single? text = some time) (noDoors : beginsWithDoors text = false) (rest : List Char) :
    beginsWithDoors (trim (text ++ rest)) = false := by
  obtain ⟨c, member, digit⟩ : ∃ c ∈ skipBlanks text, isDigit c = true := by
    obtain ⟨c, member, digit⟩ := exists_digit_of_single? ((single?_trim text).trans read)
    refine ⟨c, ?_, digit⟩
    rw [← trim_append_blanksBehind]
    exact List.mem_append_left _ member
  have skipped : skipBlanks (text ++ rest) = skipBlanks text ++ rest := by
    have nonempty : (skipBlanks text).isEmpty = false := by
      rw [List.isEmpty_eq_false_iff]
      exact List.ne_nil_of_mem member
    unfold skipBlanks at *
    rw [List.dropWhile_append, nonempty]
    rfl
  unfold beginsWithDoors at *
  rw [skipBlanks_trim, Option.isSome_eq_false_iff, Option.isNone_iff_eq_none] at *
  have none := afterFolded?_append_eq_none noDoors member (foldChar_notMem_door digit) rest
  rw [← skipped, ← trim_append_blanksBehind (text ++ rest)] at none
  cases found : afterFolded? foldChar ['d', 'o', 'o', 'r'] (trim (text ++ rest)) with
  | none => rfl
  | some behind =>
      rw [afterFolded?_append found] at none
      cases none

/-! The start. -/

/-- A bare hour that the 12-hour clock does not have stands in front of a time with `am` or `pm`. -/
def StartIsLost (start finish : List Char) (time : TimeOfDay) : Prop :=
  isBareHour (trim start) = true ∧ (findTwelveHour? finish).isSome = true ∧
    ¬(1 ≤ time.hour ∧ time.hour ≤ 12)

variable {start finish separator : List Char} {time : TimeOfDay}

theorem borrowed_trim (finish : List Char) :
    (if trim finish = [] then none else some (trim finish)).bind findTwelveHour? =
      findTwelveHour? finish := by
  rw [← findTwelveHour?_trim finish]
  split
  · rename_i empty
    rw [empty]
    rfl
  · rfl

theorem rangeStart?_of_not_borrowed (read : single? start = some time)
    (own : isBareHour (trim start) = false ∨ findTwelveHour? finish = none) :
    rangeStart? (trim start) (if trim finish = [] then none else some (trim finish)) =
      some time := by
  have none : (if isBareHour (trim start) = true then findTwelveHour? finish else none) = none := by
    rcases own with noBare | noLetter
    · rw [if_neg (by rw [noBare]; decide)]
    · rw [noLetter, ite_self]
  rw [rangeStart?, borrowed_trim, none]
  exact (single?_trim start).trans read

/-- A bare hour is read with the letter of the first time behind the separator that has one. -/
theorem rangeStart?_of_borrowed (read : single? start = some time)
    (bare : isBareHour (trim start) = true) {printed : TwelveHour}
    (lends : findTwelveHour? finish = some printed) :
    rangeStart? (trim start) (if trim finish = [] then none else some (trim finish)) =
      if 1 ≤ time.hour ∧ time.hour ≤ 12 then
        TimeOfDay.ofHourMinute? (hourOfDay time.hour (asciiLower printed.meridiem == 'p'))
          time.minute
      else none := by
  rw [rangeStart?, borrowed_trim, if_pos bare, lends]
  exact single?_append_meridiem bare ((single?_trim start).trans read) (findTwelveHour?_mem lends).2

theorem hourOfDay_lt (hour : Nat) (afternoon : Bool) : hourOfDay hour afternoon < 24 := by
  unfold hourOfDay
  split <;> omega

theorem range?_separated (noSeparator : splitAt? false start = none)
    (noDoors : beginsWithDoors start = false) (read : single? start = some time)
    (separates : IsSeparator start finish separator) :
    time? (start ++ (separator ++ finish)) =
        rangeStart? (trim start) (if trim finish = [] then none else some (trim finish)) ∧
      (range? (start ++ (separator ++ finish))).map Prod.fst =
        time? (start ++ (separator ++ finish)) := by
  have stripped := stripDoors_eq_self
    (beginsWithDoors_trim_append read noDoors (separator ++ finish))
  have sides := splitRange_separated noSeparator separates
  rw [time?, range?, stripped, splitRange_trim, sides]
  refine ⟨rfl, ?_⟩
  rw [Option.map_map]
  exact congrFun Option.map_id _

theorem findTwelveHour?_of_bare (read : single? start = some time)
    (bare : isBareHour (trim start) = true) : findTwelveHour? start = none := by
  obtain ⟨hour, minute, isBare, -⟩ := exists_isBareTime bare ((single?_trim start).trans read)
  rw [← findTwelveHour?_trim, isBare.findTwelveHour?]

theorem rangeStart?_of_lost (read : single? start = some time)
    (lost : StartIsLost start finish time) :
    rangeStart? (trim start) (if trim finish = [] then none else some (trim finish)) = none := by
  obtain ⟨bare, lends, beyond⟩ := lost
  obtain ⟨printed, lends⟩ := Option.isSome_iff_exists.mp lends
  rw [rangeStart?_of_borrowed read bare lends, if_neg beyond]

/-- A start that is not lost only moves if it borrows, and then it is a bare hour from 1 to 12. -/
theorem exists_rangeStart?_of_kept (read : single? start = some time)
    (kept : ¬StartIsLost start finish time) :
    ∃ moved,
      rangeStart? (trim start) (if trim finish = [] then none else some (trim finish)) =
        some moved ∧
      ((findTwelveHour? start).isSome = true ∨ ¬(1 ≤ time.hour ∧ time.hour ≤ 12) →
        moved = time) := by
  by_cases borrows : isBareHour (trim start) = true ∧ (findTwelveHour? finish).isSome = true
  · obtain ⟨bare, lends⟩ := borrows
    have within : 1 ≤ time.hour ∧ time.hour ≤ 12 := by
      by_contra beyond
      exact kept ⟨bare, lends, beyond⟩
    obtain ⟨printed, lends⟩ := Option.isSome_iff_exists.mp lends
    obtain ⟨moved, borrowed, -⟩ := TimeOfDay.exists_ofHourMinute?
      ⟨hourOfDay_lt time.hour (asciiLower printed.meridiem == 'p'),
        Nat.mod_lt (time.seconds / 60) (by decide : 60 > 0)⟩
    refine ⟨moved, ?_, ?_⟩
    · rw [rangeStart?_of_borrowed read bare lends, if_pos within]
      exact borrowed
    · rintro (ownLetter | beyond)
      · rw [findTwelveHour?_of_bare read bare] at ownLetter
        cases ownLetter
      · exact absurd within beyond
  · have own : isBareHour (trim start) = false ∨ findTwelveHour? finish = none := by
      rcases not_and_or.mp borrows with noBare | noLetter
      · exact .inl (Bool.eq_false_of_not_eq_true noBare)
      · exact .inr (Option.not_isSome_iff_eq_none.mp noLetter)
    exact ⟨time, rangeStart?_of_not_borrowed read own, fun _ => rfl⟩

/-- A time in front of a separator gives a start, whatever follows, unless it is a bare hour that
is lost. A time with its own `am` or `pm`, or with an hour that the 12-hour clock does not have, is
the start itself then. -/
theorem time?_separated (noSeparator : splitAt? false start = none)
    (noDoors : beginsWithDoors start = false) (read : single? start = some time)
    (separates : IsSeparator start finish separator) :
    (range? (start ++ (separator ++ finish))).map Prod.fst =
        time? (start ++ (separator ++ finish)) ∧
      ((time? (start ++ (separator ++ finish))).isSome = true ↔ ¬StartIsLost start finish time) ∧
      ((findTwelveHour? start).isSome = true ∨ ¬(1 ≤ time.hour ∧ time.hour ≤ 12) →
        (time? (start ++ (separator ++ finish)) = some time ↔ ¬StartIsLost start finish time)) := by
  obtain ⟨starts, ranges⟩ := range?_separated noSeparator noDoors read separates
  refine ⟨ranges, ?_⟩
  rw [starts]
  by_cases lost : StartIsLost start finish time
  · rw [rangeStart?_of_lost read lost]
    exact ⟨iff_of_false Bool.false_ne_true (not_not_intro lost),
      fun _ => iff_of_false (fun read => nomatch read) (not_not_intro lost)⟩
  · obtain ⟨moved, started, unmoved⟩ := exists_rangeStart?_of_kept read lost
    rw [started]
    exact ⟨iff_of_true rfl lost, fun own => iff_of_true (congrArg some (unmoved own)) lost⟩

theorem isSeparator_spacedHyphen (before after : List Char) :
    IsSeparator before after " - ".toList :=
  have space : AllBlank [' '] := List.forall_mem_singleton.mpr rfl
  @IsSeparator.dash before after [' '] [' '] '-' space rfl space

theorem time?_separated_evening :
    time? ("19:30".toList ++ (" - ".toList ++ "23:00".toList)) =
      some ⟨70200, 0, by decide, by decide⟩ := by
  have kept : ¬StartIsLost "19:30".toList "23:00".toList ⟨70200, 0, by decide, by decide⟩ := by
    rintro ⟨-, lends, -⟩
    exact absurd lends (by decide)
  exact ((time?_separated (by decide) (by decide) (by decide)
    (isSeparator_spacedHyphen _ _)).2.2 (.inr (by decide))).mpr kept

/-- A bare hour from 13 on is lost where the end has `am` or `pm`, though it says all by itself. -/
theorem range?_lost_start :
    splitAt? false "19:30".toList = none ∧ beginsWithDoors "19:30".toList = false ∧
      single? "19:30".toList = some ⟨70200, 0, by decide, by decide⟩ ∧
      IsSeparator "19:30".toList "11pm".toList " - ".toList ∧
      time? "19:30 - 11pm".toList = none ∧ range? "19:30 - 11pm".toList = none :=
  ⟨by decide, by decide, by decide, isSeparator_spacedHyphen _ _, by decide +kernel,
    by decide +kernel⟩

end GigListings.TimeText
