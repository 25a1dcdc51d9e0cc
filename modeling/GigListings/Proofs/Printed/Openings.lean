import GigListings.Proofs.Printed.Reread

namespace GigListings

open Text

/-! How the normal form of a text begins, where its beginning tells: with digits and a mark, or with
a word, a point, and such digits. -/

namespace Text

theorem eq_append_of_afterLead? {lead text rest : List Char}
    (found : afterLead? lead text = some rest) : text = lead ++ rest := by
  induction lead generalizing text with
  | nil => exact Option.some.inj found
  | cons c lead induction =>
      cases text with
      | nil => cases found
      | cons d text =>
          rw [afterLead?] at found
          split at found
          · rename_i same
            rw [same, induction found, List.cons_append]
          · cases found

theorem squeezeAfter_visible (blank : Bool) {text : List Char} (nonempty : text ≠ [])
    (visible : ∀ c ∈ text, isBlank c = false) (rest : List Char) :
    squeezeAfter blank (text ++ rest) = text ++ squeezeAfter false rest := by
  induction text generalizing blank with
  | nil => exact absurd rfl nonempty
  | cons c text induction =>
      obtain ⟨first, others⟩ := List.forall_mem_cons.mp visible
      rw [List.cons_append, squeezeAfter, first]
      cases text with
      | nil => rfl
      | cons d text =>
          exact congrArg (c :: ·) (induction false (List.cons_ne_nil d text) others)

theorem squeezeAfter_append_cons (blank : Bool) {text : List Char}
    (visible : ∀ c ∈ text, isBlank c = false) {mark : Char} (markVisible : isBlank mark = false)
    (rest : List Char) :
    squeezeAfter blank (text ++ mark :: rest) = text ++ mark :: squeezeAfter false rest := by
  have all : ∀ c ∈ text ++ [mark], isBlank c = false := by
    rw [List.forall_mem_append, List.forall_mem_singleton]
    exact ⟨visible, markVisible⟩
  rw [List.append_cons, squeezeAfter_visible blank (by simp) all, ← List.append_cons]

theorem squeezeAfter_true_allBlank {gap : List Char} (blank : AllBlank gap) (rest : List Char) :
    squeezeAfter true (gap ++ rest) = squeezeAfter true rest := by
  induction gap with
  | nil => rfl
  | cons c gap induction =>
      obtain ⟨first, others⟩ := blank.of_cons
      rw [List.cons_append, squeezeAfter, first]
      exact induction others

theorem squeezeAfter_allBlank {gap : List Char} (nonempty : gap ≠ []) (blank : AllBlank gap)
    (rest : List Char) : squeezeAfter false (gap ++ rest) = ' ' :: squeezeAfter true rest := by
  cases gap with
  | nil => exact absurd rfl nonempty
  | cons c gap =>
      obtain ⟨first, others⟩ := blank.of_cons
      rw [List.cons_append, squeezeAfter, first]
      exact congrArg (' ' :: ·) (squeezeAfter_true_allBlank others rest)

/-! Letters in caseless comparison. -/

/-- What the letters that are taken for those of ASCII become in lower case. -/
def loweredLetters : List Char := "abcdefghijklmnopqrstuvwxyzſ".toList

theorem folded_cases {motive : Char → Prop} {c : Char}
    (letter : DateText.isFoldedLetter c = true)
    (ascii : ∀ code < 128, DateText.isFoldedLetter (Char.ofNat code) = true →
      motive (Char.ofNat code))
    (folded : ∀ code ∈ foldedCodes, motive (Char.ofNat code)) : motive c := by
  by_cases small : c.toNat < 128
  · have fact := ascii c.toNat small
    rw [Char.ofNat_toNat] at fact
    exact fact letter
  · rw [DateText.isFoldedLetter, foldChar, if_neg small] at letter
    rw [← Char.ofNat_toNat c]
    refine folded c.toNat ?_
    cases found : foldRuns.get? c.toNat with
    | some image =>
        rw [found, Option.getD_some] at letter
        exact mem_foldedCodes found letter
    | none =>
        rw [found, Option.getD_none] at letter
        have bounds : 'a'.toNat ≤ c.toNat ∧ c.toNat ≤ 'z'.toNat := by
          simpa [isAsciiLower, Char.le_def, UInt32.le_iff_toNat_le] using letter
        have limit : 'z'.toNat = 122 := rfl
        omega

theorem lowerChar_foldedCodes : ∀ code ∈ foldedCodes,
    lowerChar (Char.ofNat code) = [(lowerRuns.get? code).getD (Char.ofNat code)] := by
  intro code member
  have none := lowerExpansions_eq_none code (List.mem_append_right _ member)
  have large : ¬code < 128 ∧ (Char.ofNat code).toNat = code := by
    revert code
    decide
  rw [lowerChar, large.2, if_neg large.1, none]

theorem ne_sigma_of_isFoldedLetter {c : Char} (letter : DateText.isFoldedLetter c = true) :
    c ≠ 'Σ' :=
  folded_cases (motive := (· ≠ 'Σ')) letter (by decide) (by decide)

theorem lowerChar_of_isFoldedLetter {c : Char} (letter : DateText.isFoldedLetter c = true) :
    lowerChar c ≠ [] ∧ lowerChar c ⊆ loweredLetters := by
  refine folded_cases (motive := fun c => lowerChar c ≠ [] ∧ lowerChar c ⊆ loweredLetters)
    letter (by decide) fun code member => ?_
  obtain ⟨long, kelvin⟩ := lowerRuns_foldedCodes
  rw [lowerChar_foldedCodes code member]
  rw [foldedCodes, List.mem_cons, List.mem_singleton] at member
  rcases member with rfl | rfl
  · rw [long]
    decide
  · rw [kelvin]
    decide

theorem mem_loweredLetters {word : List Char}
    (letters : ∀ c ∈ word, DateText.isFoldedLetter c = true) :
    ∀ c ∈ word.flatMap lowerChar, c ∈ loweredLetters := by
  intro d member
  obtain ⟨c, inWord, image⟩ := List.mem_flatMap.mp member
  exact (lowerChar_of_isFoldedLetter (letters c inWord)).2 image

theorem flatMap_lowerChar_ne_nil {word : List Char} (nonempty : word ≠ [])
    (letters : ∀ c ∈ word, DateText.isFoldedLetter c = true) : word.flatMap lowerChar ≠ [] := by
  intro none
  obtain ⟨c, member⟩ := List.exists_mem_of_ne_nil word nonempty
  exact (lowerChar_of_isFoldedLetter (letters c member)).1
    (List.flatMap_eq_nil_iff.mp none c member)

theorem of_mem_loweredLetters (P : Char → Prop) [DecidablePred P]
    (listed : loweredLetters.all (fun c => P c) = true) {c : Char}
    (member : c ∈ loweredLetters) : P c := by
  simpa using List.all_eq_true.mp listed c member

theorem isDigit_of_mem_loweredLetters {c : Char} (member : c ∈ loweredLetters) :
    isDigit c = false := by
  have known : (c.toNat < 128 ∧ isAsciiDigit c = false) ∨
      (¬c.toNat < 128 ∧ c.toNat ∈ foldedCodes) :=
    of_mem_loweredLetters (fun c => (c.toNat < 128 ∧ isAsciiDigit c = false) ∨
      (¬c.toNat < 128 ∧ c.toNat ∈ foldedCodes)) (by decide) member
  rw [isDigit]
  rcases known with ⟨ascii, noDigit⟩ | ⟨beyond, folded⟩
  · rw [if_pos ascii, noDigit]
  · rw [if_neg beyond, leftOut.decimal c.toNat (List.mem_append_right _ folded)]

theorem isBlank_of_mem_loweredLetters {c : Char} (member : c ∈ loweredLetters) :
    isBlank c = false :=
  of_mem_loweredLetters (isBlank · = false) (by decide) member

end Text

namespace DateText

/-! Texts without ordinal endings. -/

theorem stripOrdinalsAfter_eq_self (insideWord : Bool) {text : List Char}
    (kept : ∀ suffix, suffix <:+ text → ordinalAt? suffix = none) :
    stripOrdinalsAfter insideWord 0 text = text := by
  induction text generalizing insideWord with
  | nil => cases insideWord <;> rfl
  | cons c text induction =>
      have others := induction (isWord c) fun suffix behind =>
        kept suffix (behind.trans (List.suffix_cons c text))
      cases insideWord with
      | true => rw [stripOrdinalsAfter_inside, others]
      | false =>
          rw [stripOrdinalsAfter_outside, kept _ List.suffix_rfl]
          exact congrArg (c :: ·) others

theorem stripOrdinals_of_no_digit {text : List Char} (noDigit : ∀ c ∈ text, isDigit c = false) :
    stripOrdinals text = text := by
  refine stripOrdinalsAfter_eq_self false fun suffix behind => ?_
  cases suffix with
  | nil => rfl
  | cons c suffix =>
      exact ordinalAt?_of_not_isDigit (noDigit c (behind.subset List.mem_cons_self)) suffix

theorem stripOrdinals_of_no_ending {text : List Char}
    (noEnding : ∀ c ∈ text, c ∉ ['s', 'n', 'r', 't']) : stripOrdinals text = text := by
  refine stripOrdinalsAfter_eq_self false fun suffix behind => ?_
  have none : afterOrdinal? (takeUpTo isDigit 2 suffix).2 = none := by
    have part : (takeUpTo isDigit 2 suffix).2 <:+ suffix :=
      ⟨(takeUpTo isDigit 2 suffix).1, takeUpTo_append isDigit 2 suffix⟩
    generalize (takeUpTo isDigit 2 suffix).2 = rest at part
    match rest with
    | [] => rfl
    | [_] => rfl
    | a :: b :: rest =>
        have first := noEnding a (behind.subset (part.subset List.mem_cons_self))
        simp only [List.mem_cons, List.not_mem_nil, or_false, not_or] at first
        simp [afterOrdinal?, first]
  unfold ordinalAt?
  simp only [none, Option.map_none, ite_self]

def uncomma (c : Char) : Char := if c == ',' then ' ' else c

theorem normalize_eq (text : List Char) :
    normalize text = collapse (stripOrdinals ((lower text).map uncomma)) := rfl

theorem map_uncomma {text : List Char} (noComma : ',' ∉ text) : text.map uncomma = text := by
  induction text with
  | nil => rfl
  | cons c text induction =>
      obtain ⟨differ, others⟩ := not_or.mp (mt List.mem_cons.mpr noComma)
      rw [List.map_cons, induction others, uncomma, beq_eq_false_iff_ne.mpr (Ne.symm differ)]
      rfl

/-- Normal forms before their blanks are collapsed; `before` is what case is to look back at. -/
def stripped (before text : List Char) : List Char :=
  stripOrdinals ((lowerAfter before text).map uncomma)

theorem normalize_eq_stripped (text : List Char) :
    normalize text = collapse (stripped [] text) := rfl

theorem stripOrdinals_append_cons (text : List Char) {c : Char} (noWord : isWord c = false)
    (rest : List Char) :
    stripOrdinals (text ++ c :: rest) = stripOrdinals text ++ c :: stripOrdinals rest := by
  have first : stripOrdinals (c :: rest) = c :: stripOrdinals rest := by
    rw [stripOrdinals, stripOrdinalsAfter_outside,
      ordinalAt?_of_not_isDigit (isDigit_of_not_isWord noWord), noWord]
    rfl
  have ends : startsWithWord (c :: rest) = false := noWord
  rw [stripOrdinals_append text ends, first]

def isDateMark (c : Char) : Bool := c == '-' || c == '.'

theorem of_isDateMark (P : Char → Prop) (dash : P '-') (point : P '.') {mark : Char}
    (isMark : isDateMark mark = true) : P mark := by
  rw [isDateMark, Bool.or_eq_true, beq_iff_eq, beq_iff_eq] at isMark
  rcases isMark with rfl | rfl
  · exact dash
  · exact point

theorem exists_stripped_digits (before : List Char) {digits : List Char}
    (allDigits : ∀ c ∈ digits, isAsciiDigit c = true) {mark : Char}
    (isMark : isDateMark mark = true) (rest : List Char) :
    ∃ after, stripped before (digits ++ mark :: rest) = digits ++ mark :: after := by
  obtain ⟨noSigma, same, noComma⟩ : (∀ c ∈ digits ++ [mark], c ≠ 'Σ') ∧
      (∀ c ∈ digits ++ [mark], lowerChar c = [c]) ∧ ∀ c ∈ digits ++ [mark], c ≠ ',' := by
    simp only [List.forall_mem_append, List.forall_mem_singleton]
    exact ⟨⟨fun c member => of_isAsciiDigit (· ≠ 'Σ') (by decide) (allDigits c member),
        of_isDateMark (· ≠ 'Σ') (by decide) (by decide) isMark⟩,
      ⟨fun c member =>
          of_isAsciiDigit (fun c => lowerChar c = [c]) (by decide) (allDigits c member),
        of_isDateMark (fun c => lowerChar c = [c]) (by decide) (by decide) isMark⟩,
      fun c member => of_isAsciiDigit (· ≠ ',') (by decide) (allDigits c member),
        of_isDateMark (· ≠ ',') (by decide) (by decide) isMark⟩
  have noWord : isWord mark = false :=
    of_isDateMark (isWord · = false) (by decide) (by decide) isMark
  have noEnding : ∀ c ∈ digits, c ∉ ['s', 'n', 'r', 't'] := fun c member =>
    of_isAsciiDigit (· ∉ ['s', 'n', 'r', 't']) (by decide) (allDigits c member)
  refine ⟨stripped ((digits ++ [mark]).reverse ++ before) rest, ?_⟩
  rw [stripped, List.append_cons digits, lowerAfter_append before fun sigma => noSigma _ sigma rfl,
    flatMap_lowerChar_eq_self same, List.map_append, map_uncomma fun comma => noComma _ comma rfl,
    List.append_assoc, List.singleton_append, stripOrdinals_append_cons digits noWord,
    stripOrdinals_of_no_ending noEnding]
  rfl

theorem stripped_word (before : List Char) {word blanks : List Char}
    (letters : ∀ c ∈ word, isFoldedLetter c = true) (blank : AllBlank blanks) (rest : List Char) :
    stripped before (word ++ '.' :: (blanks ++ rest)) =
      word.flatMap lowerChar ++ '.' ::
        (blanks ++ stripped (blanks.reverse ++ ((word ++ ['.']).reverse ++ before)) rest) := by
  have noSigma : 'Σ' ∉ word ++ ['.'] := by
    intro sigma
    rcases List.mem_append.mp sigma with inWord | point
    · exact ne_sigma_of_isFoldedLetter (letters _ inWord) rfl
    · exact absurd point (by decide)
  have lowered := mem_loweredLetters letters
  have noComma : ',' ∉ word.flatMap lowerChar ++ ['.'] := by
    intro comma
    rcases List.mem_append.mp comma with inWord | point
    · exact absurd (lowered _ inWord) (by decide)
    · exact absurd point (by decide)
  have noDigit : ∀ c ∈ word.flatMap lowerChar, isDigit c = false := fun c member =>
    isDigit_of_mem_loweredLetters (lowered c member)
  have blankComma : ',' ∉ blanks := fun comma => absurd (blank _ comma) (by decide)
  have point : lowerChar '.' = ['.'] := by decide
  rw [stripped, List.append_cons word, lowerAfter_append before noSigma,
    lowerAfter_allBlank _ blank, List.flatMap_append, List.flatMap_singleton, point,
    List.map_append, map_uncomma noComma, List.map_append, map_uncomma blankComma,
    List.append_assoc, List.singleton_append,
    stripOrdinals_append_cons _ (by decide), stripOrdinals_of_no_digit noDigit,
    stripOrdinals_append_lead blank]
  rfl

theorem head_visible {text : List Char} (visible : ∀ c ∈ text, isBlank c = false) :
    ∀ c ∈ text.head?, isBlank c = false := fun c head => visible c (List.mem_of_mem_head? head)

theorem exists_normalize_digits {digits : List Char}
    (allDigits : ∀ c ∈ digits, isAsciiDigit c = true) {mark : Char}
    (isMark : isDateMark mark = true) (rest : List Char) :
    ∃ others, normalize (digits ++ mark :: rest) = digits ++ mark :: others := by
  obtain ⟨after, equation⟩ := exists_stripped_digits [] allDigits isMark rest
  have markVisible : isBlank mark = false :=
    of_isDateMark (isBlank · = false) (by decide) (by decide) isMark
  have visible : ∀ c ∈ digits, isBlank c = false := fun c member =>
    isBlank_of_isAsciiDigit (allDigits c member)
  obtain ⟨others, trimmed⟩ := exists_trim_append digits (head_visible visible) markVisible after
  refine ⟨squeezeAfter false others, ?_⟩
  rw [normalize_eq_stripped, equation, collapse, trimmed, squeeze,
    squeezeAfter_append_cons false visible markVisible]

theorem exists_collapse_word {word blanks digits : List Char}
    (wordVisible : ∀ c ∈ word, isBlank c = false) (nonempty : word ≠ []) (blank : AllBlank blanks)
    (visible : ∀ c ∈ digits, isBlank c = false) (rest : List Char) :
    ∃ gap others, (gap = [] ∨ gap = [' ']) ∧
      collapse (word ++ '.' :: (blanks ++ (digits ++ '.' :: rest))) =
        word ++ '.' :: (gap ++ (digits ++ '.' :: others)) := by
  have point : isBlank '.' = false := by decide
  have first : ∀ c ∈ (word ++ '.' :: (blanks ++ digits)).head?, isBlank c = false := by
    obtain ⟨c, later, rfl⟩ := List.exists_cons_of_ne_nil nonempty
    rintro _ ⟨⟩
    exact wordVisible c List.mem_cons_self
  obtain ⟨others, trimmed⟩ := exists_trim_append _ first point rest
  have whole : ∀ tail, word ++ '.' :: (blanks ++ digits) ++ '.' :: tail =
      word ++ '.' :: (blanks ++ (digits ++ '.' :: tail)) := by
    simp
  rw [whole, whole] at trimmed
  rw [collapse, trimmed, squeeze, squeezeAfter_append_cons false wordVisible point]
  cases blanks with
  | nil =>
      refine ⟨[], squeezeAfter false others, .inl rfl, ?_⟩
      rw [List.nil_append, squeezeAfter_append_cons false visible point]
      rfl
  | cons c blanks =>
      refine ⟨[' '], squeezeAfter false others, .inr rfl, ?_⟩
      rw [squeezeAfter_allBlank (List.cons_ne_nil c blanks) blank,
        squeezeAfter_append_cons true visible point]
      rfl

theorem exists_normalize_word {word blanks digits : List Char} (nonempty : word ≠ [])
    (letters : ∀ c ∈ word, isFoldedLetter c = true) (blank : AllBlank blanks)
    (allDigits : ∀ c ∈ digits, isAsciiDigit c = true) (rest : List Char) :
    ∃ gap others, (gap = [] ∨ gap = [' ']) ∧
      normalize (word ++ '.' :: (blanks ++ (digits ++ '.' :: rest))) =
        word.flatMap lowerChar ++ '.' :: (gap ++ (digits ++ '.' :: others)) := by
  obtain ⟨after, behind⟩ := exists_stripped_digits
    (blanks.reverse ++ ((word ++ ['.']).reverse ++ [])) allDigits (by rfl : isDateMark '.' = true)
    rest
  have lowered := mem_loweredLetters letters
  rw [normalize_eq_stripped, stripped_word [] letters blank, behind]
  exact exists_collapse_word (fun c member => isBlank_of_mem_loweredLetters (lowered c member))
    (flatMap_lowerChar_ne_nil nonempty letters) blank
    (fun c member => isBlank_of_isAsciiDigit (allDigits c member)) after

end DateText

end GigListings
