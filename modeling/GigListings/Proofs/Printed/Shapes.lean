import GigListings.Proofs.Printed.Openings

namespace GigListings

open Text

/-! How dates begin. What the formats for names of weekdays and months take begins with a day and
blanks, in normal form and behind a word if there is one; dates in numerals and compact dates do
not, and do not begin like each other. -/

namespace Text

theorem eq_cons_of_readMark {mark : Char} {text rest : List Char}
    (read : readMark mark text = some rest) : text = mark :: rest := by
  cases text with
  | nil => cases read
  | cons c text =>
      rw [readMark] at read
      split at read
      · rename_i same
        rw [same, Option.some.inj read]
      · cases read

end Text

namespace DateText

inductive OpensIso : List Char → Prop
  | signed {sign : Char} (isSign : sign = '-' ∨ sign = '+') (rest : List Char) :
      OpensIso (sign :: rest)
  | unsigned {year : List Char} (nonempty : year ≠ [])
      (allDigits : ∀ c ∈ year, isAsciiDigit c = true) (rest : List Char) :
      OpensIso (year ++ '-' :: rest)

inductive OpensCompact : List Char → Prop
  | day {day : List Char} (nonempty : day ≠ [])
      (allDigits : ∀ c ∈ day, isAsciiDigit c = true) (rest : List Char) :
      OpensCompact (day ++ '.' :: rest)
  | weekday {word blanks day : List Char} (wordNonempty : word ≠ [])
      (letters : ∀ c ∈ word, isFoldedLetter c = true) (blank : AllBlank blanks)
      (nonempty : day ≠ []) (allDigits : ∀ c ∈ day, isAsciiDigit c = true) (rest : List Char) :
      OpensCompact (word ++ '.' :: (blanks ++ (day ++ '.' :: rest)))

theorem opensIso_of_readLooseDate {text : List Char} {found : Date × List Char}
    (read : readLooseDate text = some found) : OpensIso (skipBlanks text) := by
  simp only [readLooseDate, Option.bind_eq_bind, Option.bind_eq_some_iff] at read
  obtain ⟨⟨year, afterYear⟩, yearRead, afterMark, mark, -⟩ := read
  have dash : afterYear = '-' :: afterMark := eq_cons_of_readMark mark
  unfold readYear at yearRead
  split at yearRead
  · rename_i rest start
    rw [start]
    exact .signed (.inl rfl) rest
  · rename_i rest start
    rw [start]
    exact .signed (.inr rfl) rest
  · obtain ⟨⟨value, behind⟩, number, same⟩ := Option.map_eq_some_iff.mp yearRead
    obtain ⟨-, rfl⟩ := Prod.mk.inj same
    obtain ⟨digits, nonempty, allDigits, whole⟩ := exists_digits_of_readNumber number
    rw [whole, dash]
    exact .unsigned nonempty allDigits afterMark

theorem opensIso_of_ofIso? {text : List Char} {instant : Instant}
    (read : Instant.ofIso? text = some instant) : OpensIso (trim text) := by
  rw [Instant.ofIso?, Option.bind_eq_bind] at read
  obtain ⟨⟨year, afterYear⟩, number, later⟩ := Option.bind_eq_some_iff.mp read
  obtain ⟨afterMark, mark, -⟩ := Option.bind_eq_some_iff.mp later
  obtain ⟨digits, nonempty, allDigits, whole⟩ := exists_digits_of_readNumber number
  rw [whole, eq_cons_of_readMark mark]
  exact .unsigned nonempty allDigits afterMark

theorem opensIso_of_iso? {text : List Char} {context : DateContext} {printed : PrintedDate}
    (read : iso? text context = some printed) : OpensIso (trim text) := by
  unfold iso? at read
  dsimp only at read
  cases timestamp : Instant.ofIso? (trim text) with
  | some instant =>
      have opens := opensIso_of_ofIso? timestamp
      rwa [trim_trim] at opens
  | none =>
      cases loose : readLooseDate (trim text) with
      | some found =>
          have opens := opensIso_of_readLooseDate loose
          rwa [skipBlanks_trim] at opens
      | none =>
          simp only [timestamp, WallClock.ofLoose?, Date.ofLoose?, loose, Option.map_none] at read
          cases read

theorem ofNonempty_eq_some_iff {found : List Char × List Char} {taken rest : List Char} :
    (match found with
      | ([], _) => none
      | found => some found) = some (taken, rest) ↔ found = (taken, rest) ∧ taken ≠ [] := by
  obtain ⟨first, later⟩ := found
  cases first with
  | nil =>
      refine iff_of_false nofun ?_
      rintro ⟨same, nonempty⟩
      exact nonempty (Prod.mk.inj same).1.symm
  | cons c first =>
      refine ⟨fun same => ⟨Option.some.inj same, ?_⟩, fun both => congrArg some both.1⟩
      rw [← (Prod.mk.inj (Option.some.inj same)).1]
      exact List.cons_ne_nil c first

theorem dayDigits?_eq_some_iff {text day rest : List Char} :
    dayDigits? text = some (day, rest) ↔ takeUpTo isDigit 2 text = (day, rest) ∧ day ≠ [] :=
  ofNonempty_eq_some_iff

theorem foldedWord?_eq_some_iff {text word rest : List Char} :
    foldedWord? text = some (word, rest) ↔
      takeRun isFoldedLetter text = (word, rest) ∧ word ≠ [] :=
  ofNonempty_eq_some_iff

theorem word?_eq_some_iff {text word rest : List Char} :
    word? text = some (word, rest) ↔ takeRun isAsciiLower text = (word, rest) ∧ word ≠ [] :=
  ofNonempty_eq_some_iff

theorem eq_append_of_dayDigits? {text day rest : List Char}
    (read : dayDigits? text = some (day, rest)) : text = day ++ rest := by
  have whole := takeUpTo_append isDigit 2 text
  rw [(dayDigits?_eq_some_iff.mp read).1] at whole
  exact whole.symm

theorem eq_cons_of_afterPoint? {text rest : List Char} (read : afterPoint? text = some rest) :
    text = '.' :: rest := by
  unfold afterPoint? at read
  split at read
  · cases read
    rfl
  · cases read

theorem eq_append_of_foldedWord? {text word rest : List Char}
    (read : foldedWord? text = some (word, rest)) :
    text = word ++ rest ∧ word ≠ [] ∧ ∀ c ∈ word, isFoldedLetter c = true := by
  obtain ⟨taken, nonempty⟩ := foldedWord?_eq_some_iff.mp read
  obtain ⟨rfl, rfl⟩ := Prod.mk.inj taken
  exact ⟨List.takeWhile_append_dropWhile.symm, nonempty, List.all_eq_true.mp List.all_takeWhile⟩

theorem exists_of_compactAfter? {text : List Char} {parts : Parts}
    (read : compactAfter? text = some parts) : ∃ rest, text = parts.day ++ '.' :: rest := by
  simp only [compactAfter?, Option.bind_eq_bind, Option.bind_eq_some_iff] at read
  obtain ⟨⟨day, afterDay⟩, dayRead, behind, point, ⟨month, afterMonth⟩, -, later, -, ⟨year, rest⟩,
    -, read⟩ := read
  split at read
  · cases read
  · cases read
    have dayPoint : afterDay = '.' :: behind := eq_cons_of_afterPoint? point
    exact ⟨behind, by rw [eq_append_of_dayDigits? dayRead, dayPoint]⟩

theorem opensCompact_of_compact? {text : List Char} {today : Date} {printed : PrintedDate}
    (read : compact? text today = some printed) : OpensCompact (skipBlanks text) := by
  unfold compact? at read
  rw [Option.bind_eq_bind] at read
  obtain ⟨parts, found, later⟩ := Option.bind_eq_some_iff.mp read
  obtain ⟨day, number, -⟩ := Option.bind_eq_some_iff.mp later
  obtain ⟨nonempty, allDigits⟩ := exists_digits_of_number? number
  rw [compactParts?_eq] at found
  obtain ⟨behind, weekday, found⟩ := Option.bind_eq_some_iff.mp found
  obtain ⟨rest, opening⟩ := exists_of_compactAfter? found
  unfold afterWeekday? at weekday
  cases worded : foldedWord? (skipBlanks text) with
  | none =>
      rw [worded] at weekday
      rw [Option.some.inj weekday, opening]
      exact .day nonempty allDigits rest
  | some word =>
      rw [worded] at weekday
      obtain ⟨afterPoint, point, skipped⟩ := Option.map_eq_some_iff.mp weekday
      obtain ⟨whole, wordNonempty, letters⟩ := eq_append_of_foldedWord? worded
      have split : afterPoint.takeWhile isBlank ++ behind = afterPoint := by
        rw [← skipped]
        exact List.takeWhile_append_dropWhile
      rw [whole, eq_cons_of_afterPoint? point, ← split, opening]
      exact .weekday wordNonempty letters (List.all_eq_true.mp List.all_takeWhile) nonempty
        allDigits rest

/-! No text begins in both ways. -/

theorem OpensIso.exists_mark {text : List Char} (opens : OpensIso text) (tail : List Char) :
    ∃ c, ((text ++ tail).dropWhile isAsciiDigit).head? = some c ∧ (c = '-' ∨ c = '+') := by
  cases opens with
  | signed isSign rest =>
      refine ⟨_, ?_, isSign⟩
      rcases isSign with rfl | rfl <;> rfl
  | unsigned nonempty allDigits rest =>
      refine ⟨'-', ?_, .inl rfl⟩
      rw [List.append_assoc, List.dropWhile_append_of_pos allDigits]
      rfl

theorem OpensCompact.exists_mark {text : List Char} (opens : OpensCompact text) :
    ∃ c, (text.dropWhile isAsciiDigit).head? = some c ∧ (c = '.' ∨ isFoldedLetter c = true) := by
  cases opens with
  | day nonempty allDigits rest =>
      refine ⟨'.', ?_, .inl rfl⟩
      rw [List.dropWhile_append_of_pos allDigits]
      rfl
  | @weekday word blanks day wordNonempty letters blank nonempty allDigits rest =>
      obtain ⟨c, later, rfl⟩ := List.exists_cons_of_ne_nil wordNonempty
      have letter := letters c List.mem_cons_self
      have noDigit : isAsciiDigit c = false :=
        folded_cases (motive := (isAsciiDigit · = false)) letter (by decide) (by decide)
      refine ⟨c, ?_, .inr letter⟩
      rw [List.cons_append, List.dropWhile_cons_of_neg (by simp [noDigit])]
      rfl

theorem OpensIso.not_opensCompact {text : List Char} (opens : OpensIso text) (tail : List Char) :
    ¬OpensCompact (text ++ tail) := by
  intro compact
  obtain ⟨c, first, sign⟩ := opens.exists_mark tail
  obtain ⟨d, second, mark⟩ := compact.exists_mark
  rw [first, Option.some.injEq] at second
  subst second
  rcases sign with rfl | rfl
  · exact absurd mark (by decide)
  · exact absurd mark (by decide)

/-! Days in front. -/

def behindWord (text : List Char) : List Char :=
  match leadingWord? text with
  | some (_, rest) => rest
  | none => text

/-- A day of one or two digits and blanks behind it are in front, or follow a word. -/
def StartsWithDay (text : List Char) : Prop :=
  ∃ day rest later, dayDigits? (behindWord text) = some (day, rest) ∧
    afterBlanks? rest = some later

theorem behindWord_of_word? {text : List Char} (none : word? text = none) :
    behindWord text = text := by
  simp only [behindWord, leadingWord?, none, Option.bind_eq_bind, Option.bind_none]

theorem afterBlanks?_visible {c : Char} (visible : isBlank c = false) (rest : List Char) :
    afterBlanks? (c :: rest) = none := by
  simp [afterBlanks?, visible]

theorem afterBlanks?_behind_digits {digits : List Char} (nonempty : digits ≠ [])
    (allDigits : ∀ c ∈ digits, isAsciiDigit c = true) {mark : Char}
    (isMark : isDateMark mark = true) {others day rest : List Char}
    (read : dayDigits? (digits ++ mark :: others) = some (day, rest)) :
    afterBlanks? rest = none := by
  have taken := (dayDigits?_eq_some_iff.mp read).1
  have visible : isBlank mark = false :=
    of_isDateMark (isBlank · = false) (by decide) (by decide) isMark
  have noDigit : isDigit mark = false :=
    of_isDateMark (isDigit · = false) (by decide) (by decide) isMark
  match digits with
  | [c] =>
      have first := isDigit_of_isAsciiDigit (allDigits c (by simp))
      simp only [List.cons_append, List.nil_append, takeUpTo, first, noDigit, if_true,
        Bool.false_eq_true, if_false, Prod.mk.injEq] at taken
      rw [← taken.2, afterBlanks?_visible visible]
  | [c, d] =>
      have first := isDigit_of_isAsciiDigit (allDigits c (by simp))
      have second := isDigit_of_isAsciiDigit (allDigits d (by simp))
      simp only [List.cons_append, List.nil_append, takeUpTo, first, second, if_true,
        Prod.mk.injEq] at taken
      rw [← taken.2, afterBlanks?_visible visible]
  | c :: d :: e :: digits =>
      have first := isDigit_of_isAsciiDigit (allDigits c (by simp))
      have second := isDigit_of_isAsciiDigit (allDigits d (by simp))
      simp only [List.cons_append, takeUpTo, first, second, if_true, Prod.mk.injEq] at taken
      rw [← taken.2, afterBlanks?_visible (isBlank_of_isAsciiDigit (allDigits e (by simp)))]

theorem not_startsWithDay_digits {digits : List Char} (nonempty : digits ≠ [])
    (allDigits : ∀ c ∈ digits, isAsciiDigit c = true) {mark : Char}
    (isMark : isDateMark mark = true) (others : List Char) :
    ¬StartsWithDay (digits ++ mark :: others) := by
  rintro ⟨day, rest, later, read, blanks⟩
  have whole : behindWord (digits ++ mark :: others) = digits ++ mark :: others := by
    obtain ⟨d, later, rfl⟩ := List.exists_cons_of_ne_nil nonempty
    have start := isNumeralStart_of_isAsciiDigit (allDigits d List.mem_cons_self)
    exact behindWord_of_word? (word?_numeral start _)
  rw [whole] at read
  rw [afterBlanks?_behind_digits nonempty allDigits isMark read] at blanks
  cases blanks

theorem OpensIso.not_startsWithDay {text : List Char} (opens : OpensIso text) :
    ¬StartsWithDay (normalize text) := by
  cases opens with
  | signed isSign rest =>
      obtain ⟨others, normal⟩ := exists_normalize_numeral (isNumeralStart_of_sign isSign) rest
      rw [normal]
      rintro ⟨day, behind, later, read, -⟩
      rw [behindWord_of_word? (word?_numeral (isNumeralStart_of_sign isSign) others),
        dayDigits?_sign isSign] at read
      cases read
  | unsigned nonempty allDigits rest =>
      obtain ⟨others, normal⟩ := exists_normalize_digits allDigits
        (by rfl : isDateMark '-' = true) rest
      rw [normal]
      exact not_startsWithDay_digits nonempty allDigits rfl others

theorem isAsciiLower_of_mem_loweredLetters {c : Char} (member : c ∈ loweredLetters) :
    c ≠ 'ſ' → isAsciiLower c = true :=
  of_mem_loweredLetters (fun c => c ≠ 'ſ' → isAsciiLower c = true) (by decide) member

/-- A long s is no letter of a word in front, so that nothing stands behind such a word. -/
theorem eq_of_leadingWord?_lowered {word gap : List Char}
    (lowered : ∀ c ∈ word, c ∈ loweredLetters) (narrow : gap = [] ∨ gap = [' ']) {c : Char}
    (visible : isBlank c = false) {behind : List Char} {found : List Char × List Char}
    (read : leadingWord? (word ++ '.' :: (gap ++ c :: behind)) = some found) :
    found.2 = c :: behind := by
  simp only [leadingWord?, Option.bind_eq_bind, Option.bind_eq_some_iff] at read
  obtain ⟨⟨name, afterName⟩, worded, rest, blanks, same⟩ := read
  cases same
  have taken := (word?_eq_some_iff.mp worded).1
  by_cases long : 'ſ' ∈ word
  · obtain ⟨before, after, rfl, first⟩ := List.eq_append_cons_of_mem long
    have lower : ∀ c ∈ before, isAsciiLower c = true := fun c member =>
      isAsciiLower_of_mem_loweredLetters (lowered c (List.mem_append_left _ member))
        fun same => first (same ▸ member)
    rw [List.append_assoc, List.cons_append, takeRun_append lower (by rintro _ ⟨⟩; decide)] at taken
    obtain ⟨-, rfl⟩ := Prod.mk.inj taken
    rw [skipOne, if_neg (by decide), afterBlanks?_visible (by decide)] at blanks
    cases blanks
  · have lower : ∀ c ∈ word, isAsciiLower c = true := fun c member =>
      isAsciiLower_of_mem_loweredLetters (lowered c member) fun same => long (same ▸ member)
    rw [takeRun_append lower (by rintro _ ⟨⟩; decide)] at taken
    obtain ⟨-, rfl⟩ := Prod.mk.inj taken
    rw [skipOne, if_pos (by decide)] at blanks
    rcases narrow with rfl | rfl
    · rw [List.nil_append, afterBlanks?_visible visible] at blanks
      cases blanks
    · rw [List.singleton_append, afterBlanks?, if_pos (by decide), skipBlanks,
        List.dropWhile_cons_of_neg (by simp [visible])] at blanks
      exact (Option.some.inj blanks).symm

theorem OpensCompact.not_startsWithDay {text : List Char} (opens : OpensCompact text) :
    ¬StartsWithDay (normalize text) := by
  cases opens with
  | day nonempty allDigits rest =>
      obtain ⟨others, normal⟩ := exists_normalize_digits allDigits
        (by rfl : isDateMark '.' = true) rest
      rw [normal]
      exact not_startsWithDay_digits nonempty allDigits rfl others
  | @weekday word blanks day wordNonempty letters blank nonempty allDigits rest =>
      obtain ⟨gap, others, narrow, normal⟩ :=
        exists_normalize_word wordNonempty letters blank allDigits rest
      have lowered := mem_loweredLetters letters
      obtain ⟨d, digits, rfl⟩ := List.exists_cons_of_ne_nil nonempty
      have visible := isBlank_of_isAsciiDigit (allDigits d List.mem_cons_self)
      rw [normal]
      rintro ⟨day, behind, after, read, blanks⟩
      rw [behindWord] at read
      split at read
      · rename_i name rest found
        have same : rest = d :: digits ++ '.' :: others :=
          eq_of_leadingWord?_lowered lowered narrow visible found
        rw [same] at read
        rw [afterBlanks?_behind_digits nonempty allDigits rfl read] at blanks
        cases blanks
      · obtain ⟨c, others, equation⟩ :=
          List.exists_cons_of_ne_nil (flatMap_lowerChar_ne_nil wordNonempty letters)
        have noDigit := isDigit_of_mem_loweredLetters (lowered c (by simp [equation]))
        have taken := dayDigits?_eq_some_iff.mp read
        rw [equation, List.cons_append, takeUpTo, if_neg (by simp [noDigit])] at taken
        exact taken.2 (Prod.mk.inj taken.1).1.symm

/-! Dates in numerals start with no day. -/

theorem iso?_of_startsWithDay {text : List Char} (day : StartsWithDay (normalize text))
    (context : DateContext) : iso? text context = none := by
  cases read : iso? text context with
  | none => rfl
  | some printed =>
      have refused := (opensIso_of_iso? read).not_startsWithDay
      rw [normalize_trim] at refused
      exact absurd day refused

theorem compact?_of_startsWithDay {text : List Char} (day : StartsWithDay (normalize text))
    (today : Date) : compact? text today = none := by
  cases read : compact? text today with
  | none => rfl
  | some printed =>
      have refused := (opensCompact_of_compact? read).not_startsWithDay
      rw [normalize_skipBlanks] at refused
      exact absurd day refused

theorem iso?_of_compact? {text : List Char} {today : Date} {printed : PrintedDate}
    (read : compact? text today = some printed) (context : DateContext) :
    iso? text context = none := by
  cases iso : iso? text context with
  | none => rfl
  | some other =>
      have compact := opensCompact_of_compact? read
      rw [← trim_append_blanksBehind] at compact
      exact absurd compact ((opensIso_of_iso? iso).not_opensCompact _)

end DateText

end GigListings
