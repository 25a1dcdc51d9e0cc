import GigListings.Proofs.Printed.Openings

namespace GigListings.TimeText

open Text

/-! What sets the two ends of a range apart: a dash, or a word between others, with blanks around
it. A text is split at the first separator. -/

theorem isDash_cases {motive : Char → Prop} {c : Char} (dash : isDash c = true)
    (hyphen : motive '-') (longer : ∀ code ∈ dashCodes, motive (Char.ofNat code)) : motive c := by
  simp only [isDash, Bool.or_eq_true, beq_iff_eq] at dash
  rcases dash with (rfl | rfl) | rfl
  · exact hyphen
  · exact longer 0x2013 (by decide)
  · exact longer 0x2014 (by decide)

theorem large_of_mem_dashCodes {code : Nat} (member : code ∈ dashCodes) :
    ¬code < 128 ∧ (Char.ofNat code).toNat = code := by
  revert code
  decide

theorem isWord_of_isDash {c : Char} (dash : isDash c = true) : isWord c = false := by
  refine isDash_cases (motive := (isWord · = false)) dash (by decide) fun code member => ?_
  obtain ⟨large, same⟩ := large_of_mem_dashCodes member
  have noJoiner : code ≠ 0x200C ∧ code ≠ 0x200D := by
    revert code
    decide
  simp [isWord, same, large, ranges_eq_false (List.mem_append_right _ member), noJoiner]

theorem isBlank_of_isDash {c : Char} (dash : isDash c = true) : isBlank c = false :=
  isDash_cases (motive := (isBlank · = false)) dash (by decide) (by decide)

theorem lowerChar_of_isDash {c : Char} (dash : isDash c = true) : lowerChar c = [c] := by
  refine isDash_cases (motive := fun c => lowerChar c = [c]) dash (by decide) fun code member => ?_
  obtain ⟨large, same⟩ := large_of_mem_dashCodes member
  have noExpansion : lowerExpansions.lookup (Char.ofNat code) = none := by
    rw [lowerExpansions_eq]
    revert code
    decide
  rw [lowerChar, same, if_neg large, noExpansion, (runs_eq_none (List.mem_append_right _ member)).1]
  rfl

/-! Words as separators. -/

def endsInWord : (insideWord : Bool) → List Char → Bool
  | insideWord, [] => insideWord
  | _, c :: rest => endsInWord (isWord c) rest

theorem endsInWord_allBlank {text : List Char} (blank : AllBlank text) :
    endsInWord false text = false := by
  induction text with
  | nil => rfl
  | cons c text induction =>
      obtain ⟨first, others⟩ := blank.of_cons
      rw [endsInWord, isWord_of_isBlank first]
      exact induction others

theorem afterLead?_append_apart {lead : List Char} (letters : ∀ c ∈ lead, isWord c = true)
    (text : List Char) {rest : List Char}
    (apart : endsInWord true text = false ∨ startsWithWord rest = false) :
    afterLead? lead (text ++ rest) = (afterLead? lead text).map (· ++ rest) := by
  induction lead generalizing text with
  | nil => rfl
  | cons c lead induction =>
      obtain ⟨isLetter, others⟩ := List.forall_mem_cons.mp letters
      cases text with
      | nil =>
          have ends := apart.resolve_left (by decide)
          cases rest with
          | nil => rfl
          | cons d rest =>
              have differ : c ≠ d := by
                rintro rfl
                exact absurd (isLetter.symm.trans ends) (by decide)
              exact if_neg differ
      | cons d text =>
          by_cases same : c = d
          · subst same
            rw [endsInWord, isLetter] at apart
            simp only [List.cons_append, afterLead?, if_true]
            exact induction others text apart
          · simp only [List.cons_append, afterLead?, if_neg same, Option.map_none]

theorem endsInWord_word {word : List Char} (letters : ∀ c ∈ word, isWord c = true) :
    endsInWord true word = true := by
  induction word with
  | nil => rfl
  | cons c word induction =>
      obtain ⟨isLetter, others⟩ := List.forall_mem_cons.mp letters
      rw [endsInWord, isLetter]
      exact induction others

theorem afterWord?_append_apart {word : List Char} (letters : ∀ c ∈ word, isWord c = true)
    (text : List Char) {rest : List Char}
    (apart : endsInWord true text = false ∨ startsWithWord rest = false) :
    afterWord? word (text ++ rest) = (afterWord? word text).map (· ++ rest) := by
  unfold afterWord?
  rw [afterLead?_append_apart letters text apart]
  cases found : afterLead? word text with
  | none => rfl
  | some behind =>
      have ends : startsWithWord (behind ++ rest) = startsWithWord behind := by
        cases behind with
        | cons c behind => rfl
        | nil =>
            have whole := eq_append_of_afterLead? found
            rw [List.append_nil] at whole
            rw [whole, endsInWord_word letters] at apart
            exact apart.resolve_left (by decide)
      simp only [Option.map_some, ends]
      split <;> rfl

def separatorWords : List (List Char) := [['t', 'o'], ['u', 'n', 't', 'i', 'l']]

theorem isWord_of_mem_separatorWords {word : List Char} (listed : word ∈ separatorWords) :
    ∀ c ∈ word, isWord c = true := by
  have letters : separatorWords.all (·.all isWord) = true := by decide
  exact List.all_eq_true.mp (List.all_eq_true.mp letters word listed)

theorem afterWord?_eq_some {word text rest : List Char} (found : afterWord? word text = some rest) :
    text = word ++ rest ∧ startsWithWord rest = false := by
  unfold afterWord? at found
  split at found
  · rename_i lead behind
    split at found
    · cases found
    · rename_i ends
      cases found
      exact ⟨eq_append_of_afterLead? behind, Bool.not_eq_true _ ▸ ends⟩
  · cases found

theorem afterSeparator?_cases {insideWord : Bool} {c : Char} {text rest : List Char}
    (found : afterSeparator? insideWord (c :: text) = some rest) :
    (isDash c = true ∧ text = rest) ∨
      (isDash c = false ∧ ∃ word ∈ separatorWords,
        c :: text = word ++ rest ∧ startsWithWord rest = false) := by
  rw [afterSeparator?] at found
  split at found
  · rename_i dash
    exact .inl ⟨dash, Option.some.inj found⟩
  · rename_i noDash
    refine .inr ⟨Bool.not_eq_true _ ▸ noDash, ?_⟩
    split at found
    · cases found
    · split at found
      · rename_i short
        cases found
        exact ⟨_, by decide, afterWord?_eq_some short⟩
      · exact ⟨_, by decide, afterWord?_eq_some found⟩

theorem afterSeparator?_append_apart (insideWord : Bool) (c : Char) (text : List Char)
    {rest : List Char} (apart : endsInWord true (c :: text) = false ∨ startsWithWord rest = false) :
    afterSeparator? insideWord (c :: text ++ rest) =
      (afterSeparator? insideWord (c :: text)).map (· ++ rest) := by
  have short := afterWord?_append_apart (isWord_of_mem_separatorWords (by decide : ['t', 'o'] ∈ _))
    (c :: text) apart
  have long := afterWord?_append_apart
    (isWord_of_mem_separatorWords (by decide : ['u', 'n', 't', 'i', 'l'] ∈ _)) (c :: text) apart
  rw [List.cons_append] at short long ⊢
  simp only [afterSeparator?, short, long]
  cases isDash c with
  | true => rfl
  | false =>
      cases insideWord with
      | true => rfl
      | false => cases afterWord? ['t', 'o'] (c :: text) <;> rfl

theorem splitAt?_append_apart {insideWord : Bool} {text : List Char}
    (none : splitAt? insideWord text = none) {rest : List Char}
    (apart : endsInWord insideWord text = false ∨ startsWithWord rest = false) :
    splitAt? insideWord (text ++ rest) =
      (splitAt? (endsInWord insideWord text) rest).map fun (before, after) =>
        (text ++ before, after) := by
  induction text generalizing insideWord with
  | nil =>
      rw [List.nil_append, endsInWord]
      cases splitAt? insideWord rest <;> rfl
  | cons c text induction =>
      have separator := afterSeparator?_append_apart insideWord c text apart
      rw [splitAt?] at none
      cases noSeparator : afterSeparator? insideWord (c :: text) with
      | some after =>
          rw [noSeparator] at none
          cases none
      | none =>
          rw [noSeparator] at none separator
          rw [List.cons_append] at separator
          rw [List.cons_append, splitAt?, separator, endsInWord,
            induction (Option.map_eq_none_iff.mp none) apart]
          cases splitAt? (endsInWord (isWord c) text) rest <;> rfl

/-! Texts on two sides of a separator. -/

/-- A separator between two texts: a dash, or a word that goes on on neither side, with blanks
around it. -/
inductive IsSeparator (before after : List Char) : List Char → Prop where
  | dash {lead tail : List Char} {mark : Char} (leadBlank : AllBlank lead)
      (isDash : isDash mark = true) (tailBlank : AllBlank tail) :
      IsSeparator before after (lead ++ mark :: tail)
  | word {lead tail word : List Char} (leadBlank : AllBlank lead) (listed : word ∈ separatorWords)
      (tailBlank : AllBlank tail) (begins : endsInWord false (before ++ lead) = false)
      (ends : startsWithWord (tail ++ after) = false) :
      IsSeparator before after (lead ++ (word ++ tail))

theorem splitAt?_dash (insideWord : Bool) {mark : Char} (dash : isDash mark = true)
    (after : List Char) : splitAt? insideWord (mark :: after) = some ([], after) := by
  simp only [splitAt?, afterSeparator?, dash, if_true]

theorem afterWord?_self (word : List Char) {after : List Char}
    (ends : startsWithWord after = false) : afterWord? word (word ++ after) = some after := by
  have found : afterLead? word (word ++ after) = some after := by
    induction word with
    | nil => rfl
    | cons c word induction => simpa [afterLead?] using induction
  simp only [afterWord?, found, ends, Bool.false_eq_true, if_false]

theorem splitAt?_word {word : List Char} (listed : word ∈ separatorWords) {after : List Char}
    (ends : startsWithWord after = false) :
    splitAt? false (word ++ after) = some ([], after) := by
  have itself := afterWord?_self word ends
  simp only [separatorWords, List.mem_cons, List.not_mem_nil, or_false] at listed
  rcases listed with rfl | rfl
  · rw [List.cons_append] at itself ⊢
    simp only [splitAt?, afterSeparator?, itself]
    rfl
  · rw [List.cons_append] at itself ⊢
    simp only [splitAt?, afterSeparator?, itself]
    rfl

theorem splitRange_separated {before after separator : List Char}
    (none : splitAt? false before = none) (separates : IsSeparator before after separator) :
    splitRange (before ++ (separator ++ after)) =
      (trim before, if trim after = [] then Option.none else some (trim after)) := by
  obtain ⟨lead, tail, sides, leadBlank, tailBlank⟩ : ∃ lead tail,
      splitAt? false (before ++ (separator ++ after)) = some (before ++ lead, tail ++ after) ∧
        AllBlank lead ∧ AllBlank tail := by
    have passed (lead : List Char) (leadBlank : AllBlank lead) :
        splitAt? false (before ++ lead) = Option.none := by
      rw [splitAt?_append_tail false before leadBlank, none, Option.map_none]
    cases separates with
    | @dash lead tail mark leadBlank dash tailBlank =>
        refine ⟨lead, tail, ?_, leadBlank, tailBlank⟩
        have ends : startsWithWord (mark :: (tail ++ after)) = false := isWord_of_isDash dash
        rw [List.append_assoc lead, ← List.append_assoc before, List.cons_append,
          splitAt?_append_apart (passed lead leadBlank) (.inr ends), splitAt?_dash _ dash]
        simp only [Option.map_some, List.append_nil]
    | @word lead tail word leadBlank listed tailBlank begins ends =>
        refine ⟨lead, tail, ?_, leadBlank, tailBlank⟩
        rw [List.append_assoc lead, List.append_assoc word, ← List.append_assoc before,
          splitAt?_append_apart (passed lead leadBlank) (.inl begins), begins,
          splitAt?_word listed ends]
        simp only [Option.map_some, List.append_nil]
  rw [splitRange, sides]
  simp only [trim_append_tail leadBlank, trim_append_lead tailBlank]

/-! The last part of a chain of ranges. -/

theorem lastSegment_of_some {text finish : List Char} (ends : (splitRange text).2 = some finish) :
    lastSegment text = lastSegment finish := by
  rw [lastSegment]
  split
  · rename_i split
    rw [split] at ends
    cases ends
    rfl
  · rename_i split
    rw [split] at ends
    cases ends

theorem lastSegment_of_none {text : List Char} (ends : (splitRange text).2 = none) :
    lastSegment text = text := by
  rw [lastSegment]
  split
  · rename_i split
    rw [split] at ends
    cases ends
  · rfl

end GigListings.TimeText
