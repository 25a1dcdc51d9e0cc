import GigListings.Printed.DateText
import GigListings.Proofs.Text.Blank
import Mathlib.Tactic.ByContra

namespace GigListings

open Text

/-! Reading dates from texts with blanks behind them. A reader that looks no further than it has
to gives the same with blanks behind the text, and leaves them in the rest. -/

namespace Text

theorem takeUpTo_append_tail {p : Char → Bool} (most : Nat) (text : List Char) {tail : List Char}
    (stops : ∀ c ∈ tail.head?, p c = false) :
    takeUpTo p most (text ++ tail) =
      ((takeUpTo p most text).1, (takeUpTo p most text).2 ++ tail) := by
  induction most generalizing text with
  | zero => rfl
  | succ most induction =>
      cases text with
      | nil =>
          cases tail with
          | nil => rfl
          | cons c tail => simp [takeUpTo, stops c rfl]
      | cons c text =>
          by_cases taken : p c = true
          · simp [takeUpTo, taken, induction text]
          · simp [takeUpTo, taken]

theorem takeRun_append_tail {p : Char → Bool} (text : List Char) {tail : List Char}
    (stops : ∀ c ∈ tail.head?, p c = false) :
    takeRun p (text ++ tail) = ((takeRun p text).1, (takeRun p text).2 ++ tail) := by
  have stopsAtOnce : tail.takeWhile p = [] ∧ tail.dropWhile p = tail := by
    cases tail with
    | nil => exact ⟨rfl, rfl⟩
    | cons c tail => simp [stops c rfl]
  induction text with
  | nil => simp [takeRun, stopsAtOnce]
  | cons c text induction =>
      simp only [takeRun, Prod.mk.injEq] at induction ⊢
      by_cases taken : p c = true
      · simp [taken, induction]
      · simp [taken]

theorem skipOne_append_tail {p : Char → Bool} (text : List Char) {tail : List Char}
    (kept : ∀ c ∈ tail.head?, p c = false) : skipOne p (text ++ tail) = skipOne p text ++ tail := by
  cases text with
  | cons c text =>
      simp only [List.cons_append, skipOne]
      split <;> rfl
  | nil =>
      cases tail with
      | nil => rfl
      | cons c tail => simp [skipOne, kept c rfl]

theorem AllBlank.isWord {text : List Char} (blank : AllBlank text) :
    ∀ c ∈ text, isWord c = false := fun c member => isWord_of_isBlank (blank c member)

theorem AllBlank.startsWithWord {text : List Char} (blank : AllBlank text) :
    startsWithWord text = false := by
  cases text with
  | nil => rfl
  | cons c text => exact isWord_of_isBlank blank.of_cons.1

theorem startsWithWord_append_tail (text : List Char) {tail : List Char}
    (ends : startsWithWord tail = false) :
    startsWithWord (text ++ tail) = startsWithWord text := by
  cases text with
  | cons c text => rfl
  | nil => exact ends

theorem isDigit_head {tail : List Char} (ends : startsWithWord tail = false) :
    ∀ c ∈ tail.head?, isDigit c = false := by
  cases tail with
  | nil => simp
  | cons c tail =>
      rintro _ ⟨⟩
      exact isDigit_of_not_isWord ends

theorem afterLead?_append_tail {lead : List Char} (visible : ∀ c ∈ lead, isBlank c = false)
    (text : List Char) {tail : List Char} (blank : AllBlank tail) :
    afterLead? lead (text ++ tail) = (afterLead? lead text).map (· ++ tail) := by
  induction lead generalizing text with
  | nil => rfl
  | cons c lead induction =>
      cases text with
      | nil =>
          cases tail with
          | nil => rfl
          | cons d tail =>
              have differ : c ≠ d := by
                rintro rfl
                exact absurd (blank.of_cons.1.symm.trans (visible c (by simp))) (by decide)
              simp [afterLead?, differ]
      | cons d text =>
          have others := induction (fun e member => visible e (by simp [member])) text
          simp only [List.cons_append, afterLead?, others]
          split <;> rfl

end Text

namespace TimeText

theorem afterWord?_append_tail {word : List Char} (visible : ∀ c ∈ word, isBlank c = false)
    (text : List Char) {tail : List Char} (blank : AllBlank tail) :
    afterWord? word (text ++ tail) = (afterWord? word text).map (· ++ tail) := by
  unfold afterWord?
  rw [afterLead?_append_tail visible text blank]
  cases afterLead? word text with
  | none => rfl
  | some rest =>
      simp only [Option.map_some, startsWithWord_append_tail rest blank.startsWithWord]
      split <;> rfl

theorem to_visible : ∀ c ∈ ['t', 'o'], isBlank c = false := by
  simp [isBlank]

theorem until_visible : ∀ c ∈ ['u', 'n', 't', 'i', 'l'], isBlank c = false := by
  simp [isBlank]

theorem afterSeparator?_append_tail (insideWord : Bool) (c : Char) (text : List Char)
    {tail : List Char} (blank : AllBlank tail) :
    afterSeparator? insideWord (c :: text ++ tail) =
      (afterSeparator? insideWord (c :: text)).map (· ++ tail) := by
  have first := afterWord?_append_tail to_visible (c :: text) blank
  have second := afterWord?_append_tail until_visible (c :: text) blank
  rw [List.cons_append] at first second ⊢
  simp only [afterSeparator?, first, second]
  split
  · rfl
  · split
    · rfl
    · cases afterWord? ['t', 'o'] (c :: text) <;> rfl

theorem isDash_of_isBlank {c : Char} (blank : isBlank c = true) : isDash c = false := by
  by_contra dash
  simp only [isDash, Bool.not_eq_false, Bool.or_eq_true, beq_iff_eq] at dash
  rcases dash with (rfl | rfl) | rfl <;> exact absurd blank (by decide)

theorem splitAt?_allBlank (insideWord : Bool) {text : List Char} (blank : AllBlank text) :
    splitAt? insideWord text = none := by
  induction text generalizing insideWord with
  | nil => rfl
  | cons c text induction =>
      obtain ⟨first, others⟩ := blank.of_cons
      have noTo : afterWord? ['t', 'o'] (c :: text) = none :=
        afterWord?_append_tail to_visible [] blank
      have noUntil : afterWord? ['u', 'n', 't', 'i', 'l'] (c :: text) = none :=
        afterWord?_append_tail until_visible [] blank
      simp [splitAt?, afterSeparator?, isDash_of_isBlank first, noTo, noUntil, induction _ others]

theorem splitAt?_append_tail (insideWord : Bool) (text : List Char) {tail : List Char}
    (blank : AllBlank tail) :
    splitAt? insideWord (text ++ tail) =
      (splitAt? insideWord text).map fun (before, after) => (before, after ++ tail) := by
  induction text generalizing insideWord with
  | nil => exact splitAt?_allBlank insideWord blank
  | cons c text induction =>
      have separator := afterSeparator?_append_tail insideWord c text blank
      rw [List.cons_append] at separator ⊢
      simp only [splitAt?, separator, induction]
      cases afterSeparator? insideWord (c :: text) with
      | some after => rfl
      | none => cases splitAt? (isWord c) text <;> rfl

theorem splitRange_append_tail (text : List Char) {tail : List Char} (blank : AllBlank tail) :
    splitRange (text ++ tail) = splitRange text := by
  unfold splitRange
  rw [splitAt?_append_tail false text blank]
  cases splitAt? false text with
  | none => simp only [Option.map_none, trim_append_tail blank]
  | some sides => simp only [Option.map_some, trim_append_tail blank]

end TimeText

namespace DateText

theorem isIntroducer_of_isBlank {c : Char} (blank : isBlank c = true) : isIntroducer c = true := by
  simp [isIntroducer, blank]

theorem trailingTime?_append_tail (text : List Char) {tail : List Char} (blank : AllBlank tail) :
    trailingTime? (text ++ tail) = trailingTime? text := by
  have introduces : tail.dropWhile isIntroducer = [] := by
    have dropped : (tail ++ []).dropWhile isIntroducer = [].dropWhile isIntroducer :=
      List.dropWhile_append_of_pos fun c member => isIntroducer_of_isBlank (blank c member)
    rwa [List.append_nil] at dropped
  unfold trailingTime?
  rw [List.dropWhile_append, introduces]
  cases text.dropWhile isIntroducer with
  | nil => rfl
  | cons c rest =>
      have range := TimeText.splitRange_append_tail (c :: rest) blank
      rw [List.cons_append] at range
      simp only [List.isEmpty_cons, Bool.false_eq_true, if_false, List.cons_append, range]

/-! Ordinal endings. -/

theorem afterOrdinal?_append_tail (text : List Char) {tail : List Char}
    (ends : startsWithWord tail = false) :
    afterOrdinal? (text ++ tail) = (afterOrdinal? text).map (· ++ tail) := by
  have noEnding : ∀ a b : Char, isWord a = false ∨ isWord b = false →
      [['s', 't'], ['n', 'd'], ['r', 'd'], ['t', 'h']].contains [a, b] = false := by
    intro a b outside
    by_contra found
    simp only [Bool.not_eq_false, List.contains_iff_mem, List.mem_cons, List.cons.injEq, and_true,
      List.not_mem_nil, or_false] at found
    rcases found with ⟨rfl, rfl⟩ | ⟨rfl, rfl⟩ | ⟨rfl, rfl⟩ | ⟨rfl, rfl⟩ <;>
      exact absurd outside (by decide)
  match text, tail, ends with
  | [], [], _ => rfl
  | [], [_], _ => rfl
  | [], a :: b :: tail, ends =>
      simp only [List.nil_append, afterOrdinal?, noEnding a b (.inl ends)]
      rfl
  | [_], [], _ => rfl
  | [a], b :: tail, ends =>
      simp only [List.cons_append, List.nil_append, afterOrdinal?, noEnding a b (.inr ends)]
      rfl
  | a :: b :: text, tail, ends =>
      simp only [List.cons_append, afterOrdinal?, startsWithWord_append_tail text ends]
      split <;> rfl

theorem ordinalAt?_append_tail (text : List Char) {tail : List Char}
    (ends : startsWithWord tail = false) :
    ordinalAt? (text ++ tail) =
      (ordinalAt? text).map fun (digits, rest) => (digits, rest ++ tail) := by
  unfold ordinalAt?
  rw [takeUpTo_append_tail 2 text (isDigit_head ends)]
  simp only
  split
  · rfl
  · rw [afterOrdinal?_append_tail _ ends]
    cases afterOrdinal? (takeUpTo isDigit 2 text).2 <;> rfl

end DateText

end GigListings
