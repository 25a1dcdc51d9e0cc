import GigListings.Proofs.Text.Tables
import GigListings.Text.Basic
import GigListings.Text.Scan

namespace GigListings.Text

/-! Blanks at the ends of a text. They belong to no word, have no case, and are what trimming
takes away. -/

theorem mem_of_isBlank {c : Char} (blank : isBlank c = true) :
    c.toNat ∈ blankAscii ∨ c.toNat ∈ blankCodes := by
  simp only [isBlank, Bool.or_eq_true, Bool.and_eq_true, decide_eq_true_eq, beq_iff_eq] at blank
  simp only [blankAscii, blankCodes, List.mem_cons, List.not_mem_nil]
  omega

theorem blank_cases {motive : Char → Prop} {c : Char} (blank : isBlank c = true)
    (ascii : ∀ code ∈ blankAscii, motive (Char.ofNat code))
    (beyond : ∀ c : Char, 128 ≤ c.toNat → c.toNat ∈ blankCodes → motive c) : motive c := by
  rcases mem_of_isBlank blank with member | member
  · have fact := ascii c.toNat member
    rwa [Char.ofNat_toNat] at fact
  · refine beyond c ?_ member
    simp only [blankCodes, List.mem_cons, List.not_mem_nil, or_false] at member
    omega

theorem isWord_of_isBlank {c : Char} (blank : isBlank c = true) : isWord c = false := by
  refine blank_cases (motive := fun c => isWord c = false) blank (by decide)
    fun c large member => ?_
  have joiner : c.toNat ≠ 0x200C ∧ c.toNat ≠ 0x200D := by
    simp only [blankCodes, List.mem_cons, List.not_mem_nil, or_false] at member
    omega
  simp [isWord, Nat.not_lt.mpr large, ranges_eq_false (List.mem_append_left _ member), joiner]

theorem isDigit_of_not_isWord {c : Char} (noWord : isWord c = false) : isDigit c = false := by
  unfold isWord at noWord
  unfold isDigit
  split
  · rename_i ascii
    rw [if_pos ascii] at noWord
    simp only [isAsciiAlphanumeric, Bool.or_eq_false_iff] at noWord
    exact noWord.1.2
  · rename_i beyond
    rw [if_neg beyond] at noWord
    simp only [Bool.or_eq_false_iff] at noWord
    exact noWord.1.1.1.2

theorem isDigit_of_isBlank {c : Char} (blank : isBlank c = true) : isDigit c = false :=
  isDigit_of_not_isWord (isWord_of_isBlank blank)

theorem isCased_of_isBlank {c : Char} (blank : isBlank c = true) : isCased c = false := by
  refine blank_cases (motive := fun c => isCased c = false) blank (by decide)
    fun c large member => ?_
  simp [isCased, Nat.not_lt.mpr large, leftOut.cased c.toNat (List.mem_append_right _ member)]

theorem isCaseIgnorable_of_isBlank {c : Char} (blank : isBlank c = true) :
    isCaseIgnorable c = false :=
  leftOut.caseIgnorable c.toNat (List.mem_append.mpr (mem_of_isBlank blank))

theorem lowerChar_of_isBlank {c : Char} (blank : isBlank c = true) : lowerChar c = [c] := by
  refine blank_cases (motive := fun c => lowerChar c = [c]) blank (by decide)
    fun c large member => ?_
  have expansion := lowerExpansions_eq_none c.toNat (List.mem_append_left _ member)
  rw [Char.ofNat_toNat] at expansion
  simp [lowerChar, Nat.not_lt.mpr large, expansion,
    runs_eq_none (List.mem_append_left _ member)]

theorem foldChar_of_isBlank {c : Char} (blank : isBlank c = true) : foldChar c = c := by
  refine blank_cases (motive := fun c => foldChar c = c) blank (by decide)
    fun c large member => ?_
  simp [foldChar, Nat.not_lt.mpr large, runs_eq_none (List.mem_append_left _ member)]

theorem isAsciiLower_of_isBlank {c : Char} (blank : isBlank c = true) : isAsciiLower c = false := by
  refine blank_cases (motive := fun c => isAsciiLower c = false) blank (by decide)
    fun c large member => ?_
  have beyond : ¬c ≤ 'z' := by
    simp only [Char.le_def, UInt32.le_iff_toNat_le]
    change ¬c.toNat ≤ 122
    omega
  simp [isAsciiLower, beyond]

/-! Texts of blanks. -/

def AllBlank (text : List Char) : Prop := ∀ c ∈ text, isBlank c = true

theorem AllBlank.of_cons {c : Char} {text : List Char} (blank : AllBlank (c :: text)) :
    isBlank c = true ∧ AllBlank text :=
  ⟨blank c (by simp), fun d member => blank d (by simp [member])⟩

theorem AllBlank.reverse {text : List Char} (blank : AllBlank text) : AllBlank text.reverse :=
  fun c member => blank c (List.mem_reverse.mp member)

theorem AllBlank.map {text : List Char} (blank : AllBlank text) {f : Char → Char}
    (fixed : ∀ c, isBlank c = true → f c = c) : text.map f = text := by
  induction text with
  | nil => rfl
  | cons c text induction =>
      obtain ⟨first, others⟩ := blank.of_cons
      rw [List.map_cons, fixed c first, induction others]

/-! Trimming. -/

theorem skipBlanks_append {lead : List Char} (blank : AllBlank lead) (text : List Char) :
    skipBlanks (lead ++ text) = skipBlanks text :=
  List.dropWhile_append_of_pos blank

theorem skipBlanks_allBlank {text : List Char} (blank : AllBlank text) : skipBlanks text = [] := by
  have dropped := skipBlanks_append blank []
  rwa [List.append_nil] at dropped

theorem skipBlanks_skipBlanks (text : List Char) :
    skipBlanks (skipBlanks text) = skipBlanks text := by
  induction text with
  | nil => rfl
  | cons c text induction =>
      by_cases blank : isBlank c = true
      · simpa [skipBlanks, blank] using induction
      · simp [skipBlanks, blank]

theorem skipBlanks_append_tail (text : List Char) {tail : List Char} (blank : AllBlank tail) :
    skipBlanks (text ++ tail) =
      if skipBlanks text = [] then [] else skipBlanks text ++ tail := by
  have dropped := skipBlanks_allBlank blank
  unfold skipBlanks at *
  rw [List.dropWhile_append, dropped]
  simp only [List.isEmpty_iff]

theorem trimEnd_append {tail : List Char} (blank : AllBlank tail) (text : List Char) :
    trimEnd (text ++ tail) = trimEnd text := by
  unfold trimEnd
  rw [List.reverse_append, List.dropWhile_append_of_pos blank.reverse]

theorem trim_append_tail {tail : List Char} (blank : AllBlank tail) (text : List Char) :
    trim (text ++ tail) = trim text := by
  change trimEnd (skipBlanks (text ++ tail)) = trimEnd (skipBlanks text)
  rw [skipBlanks_append_tail text blank]
  split
  · rename_i empty
    rw [empty]
  · exact trimEnd_append blank _

theorem trim_append_lead {lead : List Char} (blank : AllBlank lead) (text : List Char) :
    trim (lead ++ text) = trim text := by
  change trimEnd (skipBlanks (lead ++ text)) = trimEnd (skipBlanks text)
  rw [skipBlanks_append blank]

theorem trim_append {lead tail : List Char} (leadBlank : AllBlank lead)
    (tailBlank : AllBlank tail) (text : List Char) : trim (lead ++ text ++ tail) = trim text := by
  rw [trim_append_tail tailBlank, trim_append_lead leadBlank]

/-- The blanks that trimming takes away behind a text. -/
def blanksBehind (text : List Char) : List Char :=
  ((trimStart text).reverse.takeWhile isBlank).reverse

theorem blanksBehind_allBlank (text : List Char) : AllBlank (blanksBehind text) := by
  intro c member
  exact List.all_eq_true.mp List.all_takeWhile c (List.mem_reverse.mp member)

theorem trim_append_blanksBehind (text : List Char) :
    trim text ++ blanksBehind text = skipBlanks text := by
  have split := congrArg List.reverse
    (List.takeWhile_append_dropWhile (p := isBlank) (l := (trimStart text).reverse))
  rwa [List.reverse_append, List.reverse_reverse] at split

theorem exists_trim (text : List Char) :
    ∃ lead tail, AllBlank lead ∧ AllBlank tail ∧ text = lead ++ trim text ++ tail := by
  refine ⟨text.takeWhile isBlank, blanksBehind text, List.all_eq_true.mp List.all_takeWhile,
    blanksBehind_allBlank text, ?_⟩
  rw [List.append_assoc, trim_append_blanksBehind]
  exact (List.takeWhile_append_dropWhile (p := isBlank) (l := text)).symm

theorem trim_trim (text : List Char) : trim (trim text) = trim text := by
  obtain ⟨lead, tail, leadBlank, tailBlank, equation⟩ := exists_trim text
  have same := trim_append leadBlank tailBlank (trim text)
  rw [← equation] at same
  exact same.symm

theorem skipBlanks_trim (text : List Char) : skipBlanks (trim text) = trim text := by
  have split := trim_append_blanksBehind (trim text)
  rw [trim_trim] at split
  have shorter : (skipBlanks (trim text)).length ≤ (trim text).length :=
    (List.dropWhile_sublist isBlank).length_le
  rw [← split, List.length_append] at shorter
  have none : blanksBehind (trim text) = [] := List.eq_nil_of_length_eq_zero (by omega)
  rw [← split, none, List.append_nil]

theorem head_skipBlanks (text : List Char) :
    ∀ c ∈ (skipBlanks text).head?, isBlank c = false := by
  intro c head
  have skipped := List.head?_dropWhile_not isBlank text
  unfold skipBlanks at head
  rw [head] at skipped
  exact skipped

theorem exists_trim_eq_concat {text : List Char} (nonempty : trim text ≠ []) :
    ∃ inner last, trim text = inner ++ [last] ∧
      (∀ c ∈ (trim text).head?, isBlank c = false) ∧ isBlank last = false := by
  have first := head_skipBlanks (trim text)
  rw [skipBlanks_trim] at first
  obtain ⟨last, others, whole⟩ :=
    List.exists_cons_of_ne_nil (mt List.reverse_eq_nil_iff.mpr nonempty)
  have ends := List.head?_dropWhile_not isBlank (trimStart text).reverse
  rw [whole] at ends
  refine ⟨others.reverse, last, ?_, first, ends⟩
  rw [← List.reverse_cons, ← whole]
  rfl

theorem trim_of_starts {text : List Char} {last : Char}
    (starts : skipBlanks (text ++ [last]) = text ++ [last]) (visible : isBlank last = false) :
    trim (text ++ [last]) = text ++ [last] := by
  change trimEnd (skipBlanks (text ++ [last])) = text ++ [last]
  rw [starts]
  simp [trimEnd, visible]

theorem trim_of_ends {text : List Char} {last : Char}
    (first : ∀ c ∈ text.head?, isBlank c = false) (lastVisible : isBlank last = false) :
    trim (text ++ [last]) = text ++ [last] := by
  refine trim_of_starts ?_ lastVisible
  cases text with
  | nil => exact List.dropWhile_cons_of_neg (by simp [lastVisible])
  | cons c text => exact List.dropWhile_cons_of_neg (by simp [first c rfl])

theorem trim_append_trimmed {text later : List Char}
    (starts : skipBlanks (text ++ later) = text ++ later) (trimmed : trim later = later)
    (nonempty : later ≠ []) : trim (text ++ later) = text ++ later := by
  obtain ⟨inner, last, whole, -, visible⟩ := exists_trim_eq_concat (trimmed.symm ▸ nonempty)
  rw [trimmed] at whole
  rw [whole, ← List.append_assoc] at starts ⊢
  exact trim_of_starts starts visible

theorem trim_eq_self {c d : Char} {inner : List Char} (first : isBlank c = false)
    (last : isBlank d = false) : trim (c :: (inner ++ [d])) = c :: (inner ++ [d]) := by
  have head : ∀ e ∈ (c :: inner).head?, isBlank e = false := by
    rintro _ ⟨⟩
    exact first
  exact trim_of_ends head last

theorem trim_append_of_suffix {lead : List Char} (first : ∀ c ∈ lead.head?, isBlank c = false)
    {mark : Char} (visible : isBlank mark = false) {rest whole : List Char}
    (suffix : rest <:+ trim whole) : trim (lead ++ mark :: rest) = lead ++ mark :: rest := by
  rcases List.eq_nil_or_concat rest with rfl | ⟨inner, last, rfl⟩
  · exact trim_of_ends first visible
  · obtain ⟨before, split⟩ := suffix
    have nonempty : trim whole ≠ [] := by
      rw [← split]
      simp
    obtain ⟨others, end', concat, -, endVisible⟩ := exists_trim_eq_concat nonempty
    rw [concat, List.concat_eq_append, ← List.append_assoc] at split
    obtain ⟨-, same⟩ := List.append_inj' split rfl
    have head : ∀ c ∈ (lead ++ mark :: inner).head?, isBlank c = false := by
      intro c found
      cases lead with
      | nil =>
          cases found
          exact visible
      | cons d lead =>
          exact first c found
    rw [List.concat_eq_append, same, ← List.cons_append, ← List.append_assoc]
    exact trim_of_ends head endVisible

theorem exists_trim_append (text : List Char) {mark : Char}
    (first : ∀ c ∈ text.head?, isBlank c = false) (visible : isBlank mark = false)
    (rest : List Char) : ∃ others, trim (text ++ mark :: rest) = text ++ mark :: others := by
  have split := trim_append_blanksBehind (text ++ mark :: rest)
  have start : skipBlanks (text ++ mark :: rest) = text ++ mark :: rest := by
    cases text with
    | nil => exact List.dropWhile_cons_of_neg (by simp [visible])
    | cons c text => exact List.dropWhile_cons_of_neg (by simp [first c rfl])
  rw [start, List.append_cons] at split
  rw [List.append_cons]
  rcases List.append_eq_append_iff.mp split with ⟨behind, equation, blanks⟩ | ⟨others, equation, -⟩
  · rcases List.eq_nil_or_concat behind with none | ⟨before, c, rfl⟩
    · rw [none, List.append_nil] at equation
      exact ⟨[], equation.symm⟩
    · -- The mark would be the last of the blanks behind the text.
      have same : mark = c := by
        have ends := congrArg List.getLast? equation
        rw [List.concat_eq_append, ← List.append_assoc, List.getLast?_concat,
          List.getLast?_concat] at ends
        exact Option.some.inj ends
      have blank := blanksBehind_allBlank (text ++ [mark] ++ rest) c (by rw [blanks]; simp)
      rw [← same, visible] at blank
      cases blank
  · exact ⟨others, by rw [equation, List.append_assoc, List.singleton_append]⟩

/-! Lower case. -/

/-- What is found behind skipped characters does not depend on a tail that begins with nothing
skipped or found. -/
private theorem findPast_append (skips finds : Char → Bool) (text : List Char) {tail : List Char}
    (kept : ∀ c ∈ tail.head?, skips c = false) (missed : ∀ c ∈ tail.head?, finds c = false) :
    (match (text ++ tail).dropWhile skips with
      | c :: _ => finds c
      | [] => false) =
      match text.dropWhile skips with
      | c :: _ => finds c
      | [] => false := by
  induction text with
  | nil =>
      cases tail with
      | nil => rfl
      | cons c tail => simp [kept c rfl, missed c rfl]
  | cons c text induction =>
      by_cases skipped : skips c = true
      · simpa [skipped] using induction
      · simp [skipped]

theorem nextIsCased_append_tail (text : List Char) {tail : List Char}
    (blank : ∀ c ∈ tail.head?, isBlank c = true) : nextIsCased (text ++ tail) = nextIsCased text :=
  findPast_append isCaseIgnorable isCased text
    (fun c head => isCaseIgnorable_of_isBlank (blank c head))
    (fun c head => isCased_of_isBlank (blank c head))

theorem AllBlank.head {text : List Char} (blank : AllBlank text) :
    ∀ c ∈ text.head?, isBlank c = true := fun c head => blank c (List.mem_of_mem_head? head)

theorem lowerAfter_append_before (before : List Char) {start : List Char} (blank : AllBlank start)
    (text : List Char) : lowerAfter (before ++ start) text = lowerAfter before text := by
  induction text generalizing before with
  | nil => rfl
  | cons c text induction =>
      have others := induction (c :: before)
      rw [List.cons_append] at others
      simp only [lowerAfter, others, nextIsCased_append_tail before blank.head]

theorem lowerAfter_append (before : List Char) {text : List Char} (noSigma : 'Σ' ∉ text)
    (rest : List Char) :
    lowerAfter before (text ++ rest) =
      text.flatMap lowerChar ++ lowerAfter (text.reverse ++ before) rest := by
  induction text generalizing before with
  | nil => rfl
  | cons c text induction =>
      obtain ⟨differ, others⟩ := not_or.mp (mt List.mem_cons.mpr noSigma)
      simp only [List.cons_append, lowerAfter, Ne.symm differ, if_false, induction _ others,
        List.flatMap_cons, List.reverse_cons, List.append_assoc, List.nil_append]

theorem flatMap_lowerChar {text : List Char} {image : Char → Char}
    (images : ∀ c ∈ text, lowerChar c = [image c]) : text.flatMap lowerChar = text.map image := by
  induction text with
  | nil => rfl
  | cons c text induction =>
      obtain ⟨first, others⟩ := List.forall_mem_cons.mp images
      rw [List.flatMap_cons, List.map_cons, first, induction others, List.singleton_append]

theorem flatMap_lowerChar_eq_self {text : List Char} (same : ∀ c ∈ text, lowerChar c = [c]) :
    text.flatMap lowerChar = text := by
  have images : text.flatMap lowerChar = text.map id := flatMap_lowerChar same
  rwa [List.map_id] at images

theorem lowerAfter_allBlank (before : List Char) {text : List Char} (blank : AllBlank text)
    (rest : List Char) :
    lowerAfter before (text ++ rest) = text ++ lowerAfter (text.reverse ++ before) rest := by
  rw [lowerAfter_append before (fun sigma => absurd (blank _ sigma) (by decide)),
    flatMap_lowerChar_eq_self fun c member => lowerChar_of_isBlank (blank c member)]

theorem lowerAfter_append_gap (before text : List Char) {tail : List Char}
    (blank : ∀ c ∈ tail.head?, isBlank c = true) :
    lowerAfter before (text ++ tail) =
      lowerAfter before text ++ lowerAfter (text.reverse ++ before) tail := by
  induction text generalizing before with
  | nil => rfl
  | cons c text induction =>
      simp only [List.cons_append, lowerAfter, induction, nextIsCased_append_tail text blank,
        List.reverse_cons, List.append_assoc, List.nil_append]

theorem lowerAfter_append_tail (before text : List Char) {tail : List Char}
    (blank : AllBlank tail) :
    lowerAfter before (text ++ tail) = lowerAfter before text ++ tail := by
  have lowered := lowerAfter_allBlank (text.reverse ++ before) blank []
  rw [List.append_nil, lowerAfter, List.append_nil] at lowered
  rw [lowerAfter_append_gap before text blank.head, lowered]

theorem lower_append {lead tail : List Char} (leadBlank : AllBlank lead)
    (tailBlank : AllBlank tail) (text : List Char) :
    lower (lead ++ text ++ tail) = lead ++ lower text ++ tail := by
  unfold lower
  rw [lowerAfter_append_tail _ _ tailBlank, lowerAfter_allBlank _ leadBlank, List.append_nil]
  have before := lowerAfter_append_before [] leadBlank.reverse text
  rw [List.nil_append] at before
  rw [before]

end GigListings.Text
