import GigListings.Proofs.Printed.Covered
import GigListings.Proofs.Printed.Parts
import Mathlib.Data.List.Basic

namespace GigListings

open Text

/-! Dates with something behind them. What stands behind a date, with blanks between, stays behind
it in the normal form and ends up in the rest. -/

namespace Text

/-! Runs of blanks. -/

theorem squeezeAfter_append (blank : Bool) (text : List Char) {later : List Char}
    (visible : ∀ c ∈ later.head?, isBlank c = false) :
    squeezeAfter blank (text ++ later) = squeezeAfter blank text ++ squeeze later := by
  induction text generalizing blank with
  | nil =>
      cases later with
      | nil => rfl
      | cons c later => simp [squeeze, squeezeAfter, visible c rfl]
  | cons d text induction =>
      simp only [List.cons_append, squeezeAfter, induction]
      split
      · split <;> rfl
      · rfl

theorem skipBlanks_append_visible (text : List Char) {later : List Char}
    (visible : ∀ c ∈ later.head?, isBlank c = false) :
    skipBlanks (text ++ later) = skipBlanks text ++ later := by
  induction text with
  | nil =>
      cases later with
      | nil => rfl
      | cons c later => exact List.dropWhile_cons_of_neg (by simp [visible c rfl])
  | cons c text induction =>
      unfold skipBlanks at *
      rw [List.cons_append, List.dropWhile_cons, List.dropWhile_cons, induction]
      split <;> rfl

theorem skipBlanks_collapse (text : List Char) : skipBlanks (collapse text) = collapse text := by
  have first := head_skipBlanks (trim text)
  rw [skipBlanks_trim] at first
  rw [collapse]
  cases trimmed : trim text with
  | nil => rfl
  | cons c rest =>
      have visible := first c (trimmed ▸ rfl)
      have kept : squeeze (c :: rest) = c :: squeezeAfter false rest := by
        simp [squeeze, squeezeAfter, visible]
      rw [kept]
      exact List.dropWhile_cons_of_neg (by simp [visible])

theorem trim_ne_nil {text : List Char} {c : Char} (member : c ∈ text)
    (visible : isBlank c = false) : trim text ≠ [] := by
  intro empty
  obtain ⟨lead, tail, leadBlank, tailBlank, whole⟩ := exists_trim text
  rw [whole, empty, List.append_nil] at member
  have blank : isBlank c = true := (List.mem_append.mp member).elim (leadBlank c) (tailBlank c)
  rw [visible] at blank
  cases blank

theorem mem_of_mem_squeezeAfter {blank : Bool} {text : List Char} {c : Char}
    (member : c ∈ squeezeAfter blank text) : c = ' ' ∨ c ∈ text := by
  induction text generalizing blank with
  | nil => cases member
  | cons d text induction =>
      have later {blank : Bool} (member : c ∈ squeezeAfter blank text) : c = ' ' ∨ c ∈ d :: text :=
        (induction member).imp_right (List.mem_cons_of_mem d)
      rw [squeezeAfter] at member
      split at member
      · split at member
        · exact later member
        · exact (List.mem_cons.mp member).elim .inl later
      · exact (List.mem_cons.mp member).elim (fun same => .inr (same ▸ List.mem_cons_self)) later

/-- What trimming leaves of two texts with a run of blanks between them. -/
theorem exists_trim_append_gap {text later gap : List Char} (nonempty : trim text ≠ [])
    (blanks : DateText.IsBlanks gap) (visible : trim later ≠ []) :
    ∃ between, DateText.IsBlanks between ∧
      trim (text ++ (gap ++ later)) = trim text ++ (between ++ trim later) := by
  obtain ⟨lead, behind, leadBlank, behindBlank, textWhole⟩ := exists_trim text
  obtain ⟨front, tail, frontBlank, tailBlank, laterWhole⟩ := exists_trim later
  obtain ⟨-, -, -, first, -⟩ := exists_trim_eq_concat nonempty
  obtain ⟨inner, last, laterEnds, -, lastVisible⟩ := exists_trim_eq_concat visible
  refine ⟨behind ++ (gap ++ front), ⟨by simp [blanks.nonempty], List.forall_mem_append.mpr
    ⟨behindBlank, List.forall_mem_append.mpr ⟨blanks.blank, frontBlank⟩⟩⟩, ?_⟩
  have outer : text ++ (gap ++ later) =
      lead ++ (trim text ++ ((behind ++ (gap ++ front)) ++ trim later)) ++ tail := by
    conv => lhs; rw [textWhole, laterWhole]
    simp only [List.append_assoc]
  rw [outer, trim_append leadBlank tailBlank, laterEnds, ← List.append_assoc, ← List.append_assoc]
  refine trim_of_ends ?_ lastVisible
  rwa [List.append_assoc, List.head?_append_of_ne_nil _ nonempty]

theorem squeeze_append_gap (text : List Char) {last : Char} (ends : isBlank last = false)
    {gap : List Char} (blanks : DateText.IsBlanks gap) {later : List Char}
    (visible : ∀ c ∈ later.head?, isBlank c = false) :
    squeeze (text ++ [last] ++ (gap ++ later)) =
      squeeze (text ++ [last]) ++ ' ' :: squeeze later := by
  have squeezed (rest : List Char) :
      squeeze (text ++ last :: rest) = squeeze text ++ last :: squeeze rest := by
    have shown : ∀ c ∈ (last :: rest).head?, isBlank c = false := by
      rintro _ ⟨⟩
      exact ends
    rw [squeeze, squeezeAfter_append false text shown]
    simp [squeeze, squeezeAfter, ends]
  have spaced : squeeze (gap ++ later) = ' ' :: squeeze later := by
    rw [squeeze, squeezeAfter_allBlank blanks.nonempty blanks.blank]
    exact congrArg (' ' :: ·) (squeezeAfter_append true [] visible)
  rw [List.append_assoc, List.singleton_append, squeezed, squeezed, spaced, List.append_assoc]
  rfl

theorem collapse_append {text later gap : List Char} (nonempty : trim text ≠ [])
    (blanks : DateText.IsBlanks gap) (visible : trim later ≠ []) :
    collapse (text ++ (gap ++ later)) = collapse text ++ ' ' :: collapse later := by
  obtain ⟨between, isBlanks, whole⟩ := exists_trim_append_gap nonempty blanks visible
  obtain ⟨inner, last, textEnds, -, lastVisible⟩ := exists_trim_eq_concat nonempty
  obtain ⟨-, -, -, first, -⟩ := exists_trim_eq_concat visible
  rw [collapse, whole, collapse, collapse, textEnds]
  exact squeeze_append_gap inner lastVisible isBlanks first

end Text

namespace DateText

/-! The normal form. -/

/-- A character that the normal form keeps, and that belongs to no ordinal ending. -/
structure KeepsForm (c : Char) : Prop where
  lower : lowerChar c = [c]
  other : c ∉ ['Σ', ',', 's', 'n', 'r', 't']

theorem KeepsForm.noEnding {c : Char} (keeps : KeepsForm c) : c ∉ ['s', 'n', 'r', 't'] :=
  fun ending => keeps.other (List.mem_cons_of_mem _ (List.mem_cons_of_mem _ ending))

theorem KeepsForm.of_isBlank {c : Char} (blank : isBlank c = true) : KeepsForm c := by
  refine ⟨lowerChar_of_isBlank blank, fun member => ?_⟩
  have visible : ['Σ', ',', 's', 'n', 'r', 't'].all (!isBlank ·) = true := by decide
  have shown := List.all_eq_true.mp visible c member
  rw [blank] at shown
  cases shown

/-- What keeps its form stays behind a date, but for its runs of blanks. -/
theorem normalize_append_gap {text later gap : List Char} (nonempty : normalize text ≠ [])
    (blanks : IsBlanks gap) (kept : ∀ c ∈ later, KeepsForm c) (visible : trim later ≠ []) :
    normalize (text ++ (gap ++ later)) = normalize text ++ ' ' :: collapse later := by
  have all : ∀ c ∈ gap ++ later, KeepsForm c :=
    List.forall_mem_append.mpr ⟨fun c member => .of_isBlank (blanks.blank c member), kept⟩
  have noSigma : 'Σ' ∉ gap ++ later := fun sigma => (all _ sigma).other (by decide)
  have noComma : ',' ∉ gap ++ later := fun comma => (all _ comma).other (by decide)
  have head : ∀ c ∈ (gap ++ later).head?, isBlank c = true := by
    rw [List.head?_append_of_ne_nil _ blanks.nonempty]
    exact blanks.blank.head
  have lowered (before : List Char) : lowerAfter before (gap ++ later) = gap ++ later := by
    have whole := lowerAfter_append before noSigma []
    rwa [List.append_nil, lowerAfter, List.append_nil,
      flatMap_lowerChar_eq_self fun c member => (all c member).lower] at whole
  have trimmed : trim (stripped [] text) ≠ [] := by
    intro empty
    rw [normalize_eq_stripped, collapse, empty] at nonempty
    exact nonempty rfl
  rw [normalize_eq_stripped, normalize_eq_stripped, ← collapse_append trimmed blanks visible,
    stripped, lowerAfter_append_gap [] text head, lowered, List.map_append, map_uncomma noComma,
    stripOrdinals_append _ (blanks.startsWithWord_append later),
    stripOrdinals_of_no_ending fun c member => (all c member).noEnding]
  rfl

/-! Readers. Each reads the same from a text with a space and something visible behind it, and
leaves that in the rest. -/

/-- The parts of a date with a space and something visible behind it. -/
def Parts.followedBy (parts : Parts) (later : List Char) : Parts :=
  { parts with rest := if parts.rest = [] then later else parts.rest ++ ' ' :: later }

section Followed

variable {later : List Char}

theorem word?_append_tail (text : List Char) (later : List Char) :
    word? (text ++ ' ' :: later) =
      (word? text).map fun (word, rest) => (word, rest ++ ' ' :: later) := by
  unfold word?
  rw [takeRun_append_tail text (by rintro _ ⟨⟩; decide)]
  rcases takeRun isAsciiLower text with ⟨_ | ⟨c, word⟩, rest⟩ <;> rfl

theorem skipBlanks_append_space (text : List Char) (begins : skipBlanks later = later) :
    skipBlanks (text ++ ' ' :: later) =
      if skipBlanks text = [] then later else skipBlanks text ++ ' ' :: later := by
  have dropped : (' ' :: later).dropWhile isBlank = later := begins
  unfold skipBlanks
  rw [List.dropWhile_append, dropped]
  simp only [List.isEmpty_iff]

theorem afterBlanks?_append_space {text rest : List Char} (read : afterBlanks? text = some rest)
    (nonempty : rest ≠ []) (begins : skipBlanks later = later) :
    afterBlanks? (text ++ ' ' :: later) = some (rest ++ ' ' :: later) := by
  cases text with
  | nil => cases read
  | cons c text =>
      rw [afterBlanks?] at read
      rw [List.cons_append, afterBlanks?]
      split at read
      · rename_i blank
        cases read
        rw [if_pos blank, skipBlanks_append_space text begins, if_neg nonempty]
      · cases read

theorem leadingWord?_append_space {text name rest : List Char}
    (read : leadingWord? text = some (name, rest)) (nonempty : rest ≠ [])
    (begins : skipBlanks later = later) :
    leadingWord? (text ++ ' ' :: later) = some (name, rest ++ ' ' :: later) := by
  simp only [leadingWord?, Option.bind_eq_bind, Option.bind_eq_some_iff] at read
  obtain ⟨⟨word, behind⟩, worded, after, blanks, same⟩ := read
  cases same
  have point : ∀ c ∈ (' ' :: later).head?, (c == '.') = false := by
    rintro _ ⟨⟩
    rfl
  simp only [leadingWord?, word?_append_tail text later, worded, Option.map_some,
    Option.bind_eq_bind, Option.bind_some, skipOne_append_tail behind point,
    afterBlanks?_append_space blanks nonempty begins]
  rfl

theorem startsWithDigit_of_dayDigits? {text day rest : List Char}
    (read : dayDigits? text = some (day, rest)) : StartsWithDigit text := by
  obtain ⟨taken, nonempty⟩ := dayDigits?_eq_some_iff.mp read
  cases text with
  | nil =>
      cases taken
      exact absurd rfl nonempty
  | cons c text =>
      cases digit : isDigit c with
      | true => exact ⟨c, text, rfl, digit⟩
      | false =>
          simp only [takeUpTo, digit, Bool.false_eq_true, if_false, Prod.mk.injEq] at taken
          exact absurd taken.1.symm nonempty

theorem dayThenMonth?_of_monthThenDay? {text : List Char} {parts : Parts}
    (read : monthThenDay? text = some parts) : dayThenMonth? text = none := by
  simp only [monthThenDay?, Option.bind_eq_bind, Option.bind_eq_some_iff] at read
  obtain ⟨word, named, -⟩ := read
  cases dayFirst : dayThenMonth? text with
  | none => rfl
  | some first =>
      obtain ⟨day, rest, behind, digits, -⟩ := exists_day_of_dayThenMonth? dayFirst
      rw [(startsWithDigit_of_dayDigits? digits).leadingWord?] at named
      cases named

theorem StartsWithDigit.append {text : List Char} (starts : StartsWithDigit text)
    (rest : List Char) : StartsWithDigit (text ++ rest) := by
  obtain ⟨c, others, rfl, digit⟩ := starts
  exact ⟨c, others ++ rest, rfl, digit⟩

theorem behindWord_append_space {text day rest : List Char}
    (read : dayDigits? (behindWord text) = some (day, rest)) (begins : skipBlanks later = later) :
    behindWord (text ++ ' ' :: later) = behindWord text ++ ' ' :: later := by
  cases worded : leadingWord? text with
  | some word =>
      obtain ⟨name, behind⟩ := word
      rw [behindWord_of_leadingWord? worded] at read ⊢
      have nonempty : behind ≠ [] := by
        rintro rfl
        cases read
      rw [behindWord_of_leadingWord? (leadingWord?_append_space worded nonempty begins)]
  | none =>
      have whole : behindWord text = text := by rw [behindWord, worded]
      rw [whole] at read ⊢
      have starts := (startsWithDigit_of_dayDigits? read).append (' ' :: later)
      rw [behindWord, starts.leadingWord?]

theorem explicitYearParts?_eq (text : List Char) :
    explicitYearParts? text = (do
      let (day, rest) ← dayDigits? (behindWord text)
      let rest ← afterBlanks? rest
      let (month, rest) ← word? rest
      let rest ← afterBlanks? (skipOne (· == '.') rest)
      let (year, rest) ← yearDigits? rest
      return ⟨day, month, some year, skipBlanks rest⟩) := rfl

theorem explicitYearParts?_append_space {text : List Char} {parts : Parts}
    (read : explicitYearParts? text = some parts) (begins : skipBlanks later = later) :
    explicitYearParts? (text ++ ' ' :: later) = some (parts.followedBy later) := by
  have ends : startsWithWord (' ' :: later) = false := rfl
  have point : ∀ c ∈ (' ' :: later).head?, (c == '.') = false := by
    rintro _ ⟨⟩
    rfl
  simp only [explicitYearParts?_eq, Option.bind_eq_bind, Option.bind_eq_some_iff] at read
  obtain ⟨⟨day, afterDay⟩, digits, behindDay, dayBlanks, ⟨month, afterMonth⟩, worded, behindMonth,
    monthBlanks, ⟨year, rest⟩, yearRead, same⟩ := read
  cases same
  have longer : dayDigits? (behindWord (text ++ ' ' :: later)) =
      some (day, afterDay ++ ' ' :: later) := by
    rw [behindWord_append_space digits begins, dayDigits?_append_tail _ ends, digits]
    rfl
  have dayNonempty : behindDay ≠ [] := by
    rintro rfl
    cases worded
  have monthNonempty : behindMonth ≠ [] := by
    rintro rfl
    cases yearRead
  simp only [explicitYearParts?_eq, longer, afterBlanks?_append_space dayBlanks dayNonempty begins,
    word?_append_tail behindDay later, worded, Option.map_some, skipOne_append_tail _ point,
    afterBlanks?_append_space monthBlanks monthNonempty begins,
    yearDigits?_append_tail behindMonth ends, yearRead, skipBlanks_append_space rest begins,
    Option.bind_eq_bind, Option.bind_some]
  rfl

theorem monthAndYear?_eq (text : List Char) :
    monthAndYear? text = (word? text).bind fun (month, rest) =>
      match afterPoint? rest with
      | some after => match yearOrNot? false after with
        | some (year, after) => some (month, year, after)
        | none => some (month, none, rest)
      | none => (yearOrNot? true rest).map (month, ·) := by
  unfold monthAndYear?
  congr 1
  funext (month, rest)
  dsimp only
  split
  · rfl
  · rename_i noPoint
    have none : afterPoint? rest = none := by
      unfold afterPoint?
      split
      · rename_i after
        exact absurd rfl (noPoint after)
      · rfl
    rw [none]

variable (noYear : yearDigits? later = none) (begins : skipBlanks later = later)
include noYear begins

theorem yearOrNot?_append_space (insideWord : Bool) (text : List Char) :
    yearOrNot? insideWord (text ++ ' ' :: later) =
      (yearOrNot? insideWord text).map fun (year, rest) => (year, rest ++ ' ' :: later) := by
  have ends : startsWithWord (' ' :: later) = false := rfl
  have same : (afterBlanks? (text ++ ' ' :: later)).bind yearDigits? =
      ((afterBlanks? text).bind yearDigits?).map fun (year, rest) =>
        (year, rest ++ ' ' :: later) := by
    cases text with
    | nil =>
        have start : afterBlanks? (' ' :: later) = some later := congrArg some begins
        rw [List.nil_append, start, Option.bind_some, noYear]
        rfl
    | cons c text =>
        rw [List.cons_append, afterBlanks?, afterBlanks?]
        split
        · rw [skipBlanks_append_space text begins, Option.bind_some, Option.bind_some]
          split
          · rename_i empty
            rw [noYear, empty]
            rfl
          · exact yearDigits?_append_tail _ ends
        · rfl
  rw [yearOrNot?, yearOrNot?, same, startsWithWord_append_tail text ends]
  cases (afterBlanks? text).bind yearDigits? with
  | some found => rfl
  | none =>
      simp only [Option.map_none]
      split <;> rfl

theorem monthAndYear?_append_space (text : List Char) :
    monthAndYear? (text ++ ' ' :: later) =
      (monthAndYear? text).map fun (month, year, rest) => (month, year, rest ++ ' ' :: later) := by
  rw [monthAndYear?_eq, monthAndYear?_eq, word?_append_tail text later]
  cases word? text with
  | none => rfl
  | some found =>
      obtain ⟨month, rest⟩ := found
      have space : ∀ c ∈ (' ' :: later).head?, isBlank c = true := by
        rintro _ ⟨⟩
        rfl
      simp only [Option.map_some, Option.bind_some, afterPoint?_append_tail rest space]
      cases afterPoint? rest with
      | none =>
          simp only [Option.map_none, yearOrNot?_append_space noYear begins true rest]
          cases yearOrNot? true rest <;> rfl
      | some after =>
          simp only [Option.map_some, yearOrNot?_append_space noYear begins false after]
          cases yearOrNot? false after <;> rfl

theorem dayThenMonth?_append_space {text : List Char} {parts : Parts}
    (read : dayThenMonth? text = some parts) :
    dayThenMonth? (text ++ ' ' :: later) = some (parts.followedBy later) := by
  simp only [dayThenMonth?, Option.bind_eq_bind, Option.bind_eq_some_iff] at read
  obtain ⟨⟨day, behindDay⟩, digits, named, blanks, ⟨month, year, rest⟩, read, same⟩ := read
  cases same
  have nonempty : named ≠ [] := by
    rintro rfl
    cases read
  have ends : startsWithWord (' ' :: later) = false := rfl
  simp only [dayThenMonth?, dayDigits?_append_tail text ends, digits, Option.map_some,
    Option.bind_eq_bind, Option.bind_some, afterBlanks?_append_space blanks nonempty begins,
    monthAndYear?_append_space noYear begins, read, skipBlanks_append_space rest begins]
  rfl

theorem monthThenDay?_append_space {text : List Char} {parts : Parts}
    (read : monthThenDay? text = some parts) :
    monthThenDay? (text ++ ' ' :: later) = some (parts.followedBy later) := by
  simp only [monthThenDay?, Option.bind_eq_bind, Option.bind_eq_some_iff] at read
  obtain ⟨⟨month, behind⟩, named, ⟨day, behindDay⟩, digits, ⟨year, rest⟩, read, same⟩ := read
  cases same
  have nonempty : behind ≠ [] := by
    rintro rfl
    cases digits
  have ends : startsWithWord (' ' :: later) = false := rfl
  simp only [monthThenDay?, leadingWord?_append_space named nonempty begins,
    dayDigits?_append_tail behind ends, digits,
    Option.map_some, Option.bind_eq_bind, Option.bind_some,
    yearOrNot?_append_space noYear begins, read, skipBlanks_append_space rest begins]
  rfl

theorem dayOrMonthFirst_append_space {text : List Char} {parts : Parts}
    (read : (dayThenMonth? text <|> monthThenDay? text) = some parts) :
    (dayThenMonth? (text ++ ' ' :: later) <|> monthThenDay? (text ++ ' ' :: later)) =
      some (parts.followedBy later) := by
  cases dayFirst : dayThenMonth? text with
  | some first =>
      rw [dayFirst] at read
      cases read
      rw [dayThenMonth?_append_space noYear begins dayFirst]
      rfl
  | none =>
      rw [dayFirst] at read
      have monthFirst := monthThenDay?_append_space noYear begins read
      rw [dayThenMonth?_of_monthThenDay? monthFirst, monthFirst]
      rfl

end Followed

theorem Parts.resolve?_followedBy {parts : Parts} {today : Date} {printed : PrintedDate}
    (resolved : parts.resolve? today = some printed) (later : List Char) :
    (parts.followedBy later).resolve? today =
      some ⟨printed.date, trailingTime? (parts.followedBy later).rest⟩ := by
  simp only [resolve?, Option.bind_eq_bind, Option.bind_eq_some_iff] at resolved
  obtain ⟨day, dayRead, month, monthRead, date, dated, same⟩ := resolved
  cases same
  simp only [resolve?, followedBy, dayRead, monthRead, dated, Option.bind_eq_bind, Option.bind_some]
  rfl

end DateText

namespace DateFormat

open DateText

/-- The parts of a date in the formats that have a day and a month. -/
def parts? (format : DateFormat) (text : List Char) : Option Parts :=
  match format with
  | weekdayDayMonth => (leadingWord? (normalize text)).bind fun (_, rest) => dayThenMonth? rest
  | dayMonth => dayThenMonth? (normalize text) <|> monthThenDay? (normalize text)
  | explicitYear => explicitYearParts? (normalize text)
  | _ => none

theorem normalize_ne_nil {format : DateFormat} {text : List Char} {parts : Parts}
    (found : format.parts? text = some parts) : normalize text ≠ [] := by
  intro empty
  cases format with
  | weekdayDayMonth | dayMonth | explicitYear =>
      rw [parts?, empty] at found
      cases found
  | _ => cases found

/-- A date is read the same with something behind it, which may be a time. -/
theorem read?_followed {format : DateFormat} {text longer later : List Char} {parts : Parts}
    {context : DateContext} {printed : PrintedDate}
    (form : normalize longer = normalize text ++ ' ' :: later) (noYear : yearDigits? later = none)
    (begins : skipBlanks later = later) (found : format.parts? text = some parts)
    (read : format.read? text none context = some printed) :
    format.read? longer none context =
      some ⟨printed.date, trailingTime? (parts.followedBy later).rest⟩ := by
  cases format with
  | weekdayDayMonth =>
      obtain ⟨⟨name, rest⟩, named, found⟩ := Option.bind_eq_some_iff.mp found
      have nonempty : rest ≠ [] := by
        rintro rfl
        cases found
      simp only [read?, weekdayDayMonth?, named, found, Option.bind_eq_bind, Option.bind_some]
        at read
      split at read
      · rename_i weekday
        simp only [read?, weekdayDayMonth?, form, leadingWord?_append_space named nonempty begins,
          dayThenMonth?_append_space noYear begins found, Option.bind_eq_bind, Option.bind_some,
          if_pos weekday]
        exact Parts.resolve?_followedBy read later
      · cases read
  | dayMonth =>
      rw [parts?] at found
      simp only [read?, dayMonth?, found] at read
      rw [read?, dayMonth?, form, dayOrMonthFirst_append_space noYear begins found]
      exact Parts.resolve?_followedBy read later
  | explicitYear =>
      rw [parts?] at found
      simp only [read?, explicitYear?, found, Option.bind_eq_bind, Option.bind_some,
        Option.bind_eq_some_iff] at read
      obtain ⟨day, dayRead, month, monthRead, year, ⟨digits, printedYear, yearRead⟩, date, named,
        same⟩ := read
      cases same
      simp only [read?, explicitYear?, form, explicitYearParts?_append_space found begins,
        Parts.followedBy, dayRead, monthRead, printedYear, yearRead, named, Option.bind_eq_bind,
        Option.bind_some]
      rfl
  | _ => cases found

end DateFormat

end GigListings
