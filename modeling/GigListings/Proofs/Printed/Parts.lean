import GigListings.Calendar.TimeOfDay
import GigListings.Proofs.Printed.Openings

namespace GigListings.DateText

open Text

/-! Texts made of parts with blanks and commas between them. The normal form has single spaces
there, and each part in its own normal form. -/

def spaced (first : List Char) : (later : List (List Char × List Char)) → List Char
  | [] => first
  | (gap, part) :: later => first ++ (gap ++ spaced part later)

theorem map_spaced (f : Char → Char) (first : List Char) (later : List (List Char × List Char)) :
    (spaced first later).map f =
      spaced (first.map f) (later.map fun (gap, part) => (gap.map f, part.map f)) := by
  induction later generalizing first with
  | nil => rfl
  | cons next later induction =>
      obtain ⟨gap, part⟩ := next
      simp only [spaced, List.map_append, List.map_cons, induction]

/-- What each part and each gap is made of. -/
def AllSpaced (isPart isGap : List Char → Prop) (first : List Char)
    (later : List (List Char × List Char)) : Prop :=
  isPart first ∧ ∀ next ∈ later, isGap next.1 ∧ isPart next.2

theorem AllSpaced.of_cons {isPart isGap : List Char → Prop} {first gap part : List Char}
    {later : List (List Char × List Char)}
    (all : AllSpaced isPart isGap first ((gap, part) :: later)) :
    isPart first ∧ isGap gap ∧ AllSpaced isPart isGap part later := by
  obtain ⟨isFirst, isNext, isLater⟩ := And.imp_right List.forall_mem_cons.mp all
  exact ⟨isFirst, isNext.1, isNext.2, isLater⟩

theorem AllSpaced.map {isPart isGap isOther isSpace : List Char → Prop} {first : List Char}
    {later : List (List Char × List Char)} (all : AllSpaced isPart isGap first later)
    {part gap : List Char → List Char} (parts : ∀ text, isPart text → isOther (part text))
    (gaps : ∀ text, isGap text → isSpace (gap text)) :
    AllSpaced isOther isSpace (part first)
      (later.map fun next => (gap next.1, part next.2)) := by
  refine ⟨parts first all.1, fun next member => ?_⟩
  obtain ⟨before, listed, rfl⟩ := List.mem_map.mp member
  exact ⟨gaps _ (all.2 before listed).1, parts _ (all.2 before listed).2⟩

theorem AllSpaced.of_mem {isPart isGap : List Char → Prop} {P : Char → Prop} {first : List Char}
    {later : List (List Char × List Char)} (all : AllSpaced isPart isGap first later)
    (parts : ∀ text, isPart text → ∀ c ∈ text, P c) (gaps : ∀ text, isGap text → ∀ c ∈ text, P c) :
    ∀ c ∈ spaced first later, P c := by
  induction later generalizing first with
  | nil => exact parts first all.1
  | cons next later induction =>
      obtain ⟨isFirst, isGap, others⟩ := AllSpaced.of_cons all
      rw [spaced, List.forall_mem_append, List.forall_mem_append]
      exact ⟨parts first isFirst, gaps _ isGap, induction others⟩

/-! Blanks. -/

structure IsVisible (text : List Char) : Prop where
  nonempty : text ≠ []
  visible : ∀ c ∈ text, isBlank c = false

structure IsBlanks (text : List Char) : Prop where
  nonempty : text ≠ []
  blank : AllBlank text

theorem IsBlanks.startsWithWord_append {gap : List Char} (blanks : IsBlanks gap)
    (rest : List Char) : startsWithWord (gap ++ rest) = false := by
  obtain ⟨c, later, rfl⟩ := List.exists_cons_of_ne_nil blanks.nonempty
  exact isWord_of_isBlank blanks.blank.of_cons.1

theorem stripOrdinals_spaced {isPart : List Char → Prop} {first : List Char}
    {later : List (List Char × List Char)} (all : AllSpaced isPart IsBlanks first later) :
    stripOrdinals (spaced first later) =
      spaced (stripOrdinals first) (later.map fun next => (next.1, stripOrdinals next.2)) := by
  induction later generalizing first with
  | nil => rfl
  | cons next later induction =>
      obtain ⟨-, blanks, others⟩ := AllSpaced.of_cons all
      rw [spaced, stripOrdinals_append first (blanks.startsWithWord_append _),
        stripOrdinals_append_lead blanks.blank, induction others]
      rfl

theorem squeezeAfter_spaced (blank : Bool) {first : List Char}
    {later : List (List Char × List Char)} (all : AllSpaced IsVisible IsBlanks first later) :
    squeezeAfter blank (spaced first later) =
      spaced first (later.map fun next => ([' '], next.2)) := by
  induction later generalizing first blank with
  | nil =>
      have kept := squeezeAfter_visible blank all.1.nonempty all.1.visible []
      rwa [List.append_nil, squeezeAfter, List.append_nil] at kept
  | cons next later induction =>
      obtain ⟨solid, blanks, others⟩ := AllSpaced.of_cons all
      rw [spaced, squeezeAfter_visible blank solid.nonempty solid.visible,
        squeezeAfter_allBlank blanks.nonempty blanks.blank, induction true others]
      rfl

theorem exists_spaced_eq_concat {first : List Char} {later : List (List Char × List Char)}
    (all : AllSpaced IsVisible IsBlanks first later) :
    ∃ inner c, spaced first later = inner ++ [c] ∧
      (∀ d ∈ inner.head?, isBlank d = false) ∧ isBlank c = false := by
  induction later generalizing first with
  | nil =>
      rcases List.eq_nil_or_concat first with none | ⟨inner, c, whole⟩
      · exact absurd none all.1.nonempty
      · rw [List.concat_eq_append] at whole
        have visible := all.1.visible
        rw [whole, List.forall_mem_append, List.forall_mem_singleton] at visible
        exact ⟨inner, c, whole, head_visible visible.1, visible.2⟩
  | cons next later induction =>
      obtain ⟨inner, c, whole, -, last⟩ := induction (AllSpaced.of_cons all).2.2
      obtain ⟨d, firsts, rfl⟩ := List.exists_cons_of_ne_nil all.1.nonempty
      refine ⟨d :: firsts ++ (next.1 ++ inner), c, ?_, ?_, last⟩
      · rw [spaced, whole, List.append_assoc, List.append_assoc]
      · rintro _ ⟨⟩
        exact all.1.visible d List.mem_cons_self

theorem collapse_spaced {first : List Char} {later : List (List Char × List Char)}
    (all : AllSpaced IsVisible IsBlanks first later) :
    collapse (spaced first later) = spaced first (later.map fun next => ([' '], next.2)) := by
  obtain ⟨inner, c, whole, head, last⟩ := exists_spaced_eq_concat all
  rw [collapse, whole, trim_of_ends head last, ← whole, squeeze, squeezeAfter_spaced false all]

/-! Parts. -/

def isPartChar (c : Char) : Bool := isAsciiAlphanumeric c || c == '.' || c == ':'

theorem of_isPartChar (P : Char → Prop) {c : Char} (plain : isPartChar c = true)
    (listed : ∀ code < 128, isPartChar (Char.ofNat code) = true → P (Char.ofNat code)) : P c := by
  have bound : c.toNat < 128 := by
    simp only [isPartChar, isAsciiAlphanumeric, isAsciiLetter, isAsciiLower, isAsciiUpper,
      isAsciiDigit, Char.le_def, UInt32.le_iff_toNat_le, Bool.or_eq_true, Bool.and_eq_true,
      decide_eq_true_eq, beq_iff_eq] at plain
    rcases plain with (((letter | letter) | digit) | rfl) | rfl
    · exact Nat.lt_of_le_of_lt letter.2 (by decide)
    · exact Nat.lt_of_le_of_lt letter.2 (by decide)
    · exact Nat.lt_of_le_of_lt digit.2 (by decide)
    · decide
    · decide
  have fact := listed c.toNat bound
  rw [Char.ofNat_toNat] at fact
  exact fact plain

structure IsPart (text : List Char) : Prop where
  nonempty : text ≠ []
  plain : ∀ c ∈ text, isPartChar c = true

structure IsGap (text : List Char) : Prop where
  nonempty : text ≠ []
  separates : text ⊆ [' ', ',']

theorem IsGap.eq_or_eq {gap : List Char} (isGap : IsGap gap) {c : Char} (member : c ∈ gap) :
    c = ' ' ∨ c = ',' := by
  simpa using isGap.separates member

theorem lower_of_ascii {text : List Char} (ascii : ∀ c ∈ text, c.toNat < 128) :
    lower text = text.map asciiLower := by
  have noSigma : 'Σ' ∉ text := fun sigma => absurd (ascii _ sigma) (by decide)
  have lowered := lowerAfter_append [] noSigma []
  rw [List.append_nil, lowerAfter, List.append_nil] at lowered
  rw [lower, lowered]
  exact flatMap_lowerChar fun c member => by rw [lowerChar, if_pos (ascii c member)]

def plainLower (c : Char) : Char := uncomma (asciiLower c)

def normalPart (part : List Char) : List Char := stripOrdinals (part.map plainLower)

theorem mem_of_mem_stripOrdinalsAfter {insideWord : Bool} {skip : Nat} {text : List Char} {c : Char}
    (member : c ∈ stripOrdinalsAfter insideWord skip text) : c ∈ text := by
  fun_induction stripOrdinalsAfter insideWord skip text with
  | case1 => exact member
  | case2 insideWord skip d rest induction => exact List.mem_cons_of_mem _ (induction member)
  | _ => grind

theorem isVisible_normalPart {part : List Char} (isPart : IsPart part) :
    IsVisible (normalPart part) := by
  obtain ⟨c, rest, rfl⟩ := List.exists_cons_of_ne_nil isPart.nonempty
  refine ⟨?_, fun d member => ?_⟩
  · obtain ⟨others, kept⟩ := exists_stripOrdinals_cons (plainLower c) (rest.map plainLower)
    rw [normalPart, List.map_cons, kept]
    exact List.cons_ne_nil _ _
  · obtain ⟨before, listed, rfl⟩ := List.mem_map.mp (mem_of_mem_stripOrdinalsAfter member)
    exact of_isPartChar (fun c => isBlank (plainLower c) = false) (isPart.plain before listed)
      (by decide)

theorem isBlanks_map_plainLower {gap : List Char} (isGap : IsGap gap) :
    IsBlanks (gap.map plainLower) := by
  refine ⟨by simpa using isGap.nonempty, fun d member => ?_⟩
  obtain ⟨c, listed, rfl⟩ := List.mem_map.mp member
  rcases isGap.eq_or_eq listed with rfl | rfl <;> decide

theorem normalize_spaced {first : List Char} {later : List (List Char × List Char)}
    (all : AllSpaced IsPart IsGap first later) :
    normalize (spaced first later) =
      spaced (normalPart first) (later.map fun next => ([' '], normalPart next.2)) := by
  have ascii : ∀ c ∈ spaced first later, c.toNat < 128 := by
    refine all.of_mem (fun text isPart c member => ?_) fun text isGap c member => ?_
    · exact of_isPartChar (·.toNat < 128) (isPart.plain c member) (by decide)
    · rcases isGap.eq_or_eq member with rfl | rfl <;> decide
  have blanks : AllSpaced (fun _ => True) IsBlanks (first.map plainLower)
      (later.map fun next => (next.1.map plainLower, next.2.map plainLower)) :=
    all.map (fun _ _ => trivial) fun _ => isBlanks_map_plainLower
  have visible : AllSpaced IsVisible IsBlanks (normalPart first)
      (later.map fun next => (next.1.map plainLower, normalPart next.2)) :=
    all.map (fun _ => isVisible_normalPart) fun _ => isBlanks_map_plainLower
  have stripped := stripOrdinals_spaced blanks
  rw [List.map_map] at stripped
  have collapsed := collapse_spaced visible
  rw [List.map_map] at collapsed
  have whole : (lower (spaced first later)).map uncomma = (spaced first later).map plainLower := by
    rw [lower_of_ascii ascii, List.map_map]
    rfl
  rw [normalize_eq, whole, map_spaced, stripped]
  exact collapsed

/-! The parts that printed dates consist of, in their many spellings, and the one spelling that the
normal form leaves of them. -/

/-- A name cut to three letters or more, in letters of any case, and perhaps with a point. -/
structure Abbreviation (name : List Char) where
  letters : List Char
  point : Bool
  long : 3 ≤ letters.length
  starts : letters.map asciiLower <+: name

def pointChars (point : Bool) : List Char := if point then ['.'] else []

theorem eq_of_mem_pointChars {point : Bool} {c : Char} (member : c ∈ pointChars point) :
    c = '.' := by
  cases point with
  | true => exact List.mem_singleton.mp member
  | false => cases member

def Abbreviation.chars {name : List Char} (printed : Abbreviation name) : List Char :=
  printed.letters ++ pointChars printed.point

def ordinalEndings : List (List Char) := [['s', 't'], ['n', 'd'], ['r', 'd'], ['t', 'h']]

structure DayNumeral (day : Nat) where
  width : Nat
  narrow : width ∈ [1, 2]
  ending : List Char
  ordinal : ending.map asciiLower ∈ [] :: ordinalEndings

def DayNumeral.chars {day : Nat} (printed : DayNumeral day) : List Char :=
  padded printed.width day ++ printed.ending

def monthName (month : Nat) : List Char := months.getD (month - 1) []

/-! Numbers. -/

theorem isPartChar_of_asciiLower {c : Char} (letter : isAsciiLower (asciiLower c) = true) :
    isPartChar c = true := by
  unfold asciiLower at letter
  split at letter
  · rename_i upper
    simp [isPartChar, isAsciiAlphanumeric, isAsciiLetter, upper]
  · simp [isPartChar, isAsciiAlphanumeric, isAsciiLetter, letter]

theorem map_plainLower {part : List Char} (plain : ∀ c ∈ part, isPartChar c = true) :
    part.map plainLower = part.map asciiLower :=
  List.map_congr_left fun c member =>
    of_isPartChar (fun c => plainLower c = asciiLower c) (plain c member) (by decide)

theorem isPart_numeral {part : List Char} (nonempty : part ≠ [])
    (numeral : ∀ c ∈ part, isAsciiDigit c = true ∨ c = ':') :
    IsPart part ∧ normalPart part = part := by
  have plain : ∀ c ∈ part, isPartChar c = true ∧ plainLower c = c ∧ c ∉ ['s', 'n', 'r', 't'] := by
    intro c member
    rcases numeral c member with digit | rfl
    · exact of_isAsciiDigit
        (fun c => isPartChar c = true ∧ plainLower c = c ∧ c ∉ ['s', 'n', 'r', 't']) (by decide)
        digit
    · decide
  refine ⟨⟨nonempty, fun c member => (plain c member).1⟩, ?_⟩
  have same : part.map plainLower = part := by
    conv => rhs; rw [← List.map_id part]
    exact List.map_congr_left fun c member => (plain c member).2.1
  rw [normalPart, same, stripOrdinals_of_no_ending fun c member => (plain c member).2.2]

theorem isPart_padded (width n : Nat) :
    IsPart (padded width n) ∧ normalPart (padded width n) = padded width n :=
  isPart_numeral (padded_ne_nil width n) fun _ member => .inl (isAsciiDigit_of_mem_padded member)

theorem isPart_hourMinuteChars (time : TimeOfDay) :
    IsPart time.hourMinuteChars ∧ normalPart time.hourMinuteChars = time.hourMinuteChars := by
  refine isPart_numeral (by simp [TimeOfDay.hourMinuteChars]) fun c member => ?_
  rcases List.mem_append.mp member with hour | minute
  · exact .inl (isAsciiDigit_of_mem_padded hour)
  · rcases List.mem_cons.mp minute with mark | minute
    · exact .inr mark
    · exact .inl (isAsciiDigit_of_mem_padded minute)

def names : List (List Char) := weekdays ++ months

namespace Abbreviation

variable {name : List Char} (printed : Abbreviation name)

def word : List Char := printed.letters.map asciiLower

theorem word_eq_take : printed.word = name.take printed.letters.length := by
  have prefix_eq := List.prefix_iff_eq_take.mp printed.starts
  rwa [List.length_map] at prefix_eq

theorem word_ne_nil : printed.word ≠ [] := by
  have long := printed.long
  intro none
  rw [word, List.map_eq_nil_iff] at none
  rw [none] at long
  exact absurd long (by decide)

theorem isAsciiLower_of_mem_word (listed : name ∈ names) :
    ∀ c ∈ printed.word, isAsciiLower c = true := by
  have lower : ∀ name ∈ names, name.all isAsciiLower = true := by decide
  exact fun c member => List.all_eq_true.mp (lower name listed) c (printed.starts.subset member)

theorem isPart (listed : name ∈ names) :
    IsPart printed.chars ∧ normalPart printed.chars = printed.word ++ pointChars printed.point := by
  have lower := printed.isAsciiLower_of_mem_word listed
  have letters : ∀ c ∈ printed.letters, isPartChar c = true := fun c member =>
    isPartChar_of_asciiLower (lower _ (List.mem_map_of_mem member))
  have plain : ∀ c ∈ printed.chars, isPartChar c = true := by
    refine List.forall_mem_append.mpr ⟨letters, fun c member => ?_⟩
    rw [eq_of_mem_pointChars member]
    rfl
  have noDigit : ∀ c ∈ printed.word ++ pointChars printed.point, isDigit c = false := by
    refine List.forall_mem_append.mpr ⟨fun c member => ?_, fun c member => ?_⟩
    · by_contra digit
      rw [Bool.not_eq_false] at digit
      have noLetter := isAsciiLower_of_isDigit digit
      rw [lower c member] at noLetter
      cases noLetter
    · rw [eq_of_mem_pointChars member]
      decide
  have point : (pointChars printed.point).map asciiLower = pointChars printed.point := by
    cases printed.point <;> rfl
  have nonempty : printed.chars ≠ [] := by
    intro none
    exact printed.word_ne_nil (by simp [word, (List.append_eq_nil_iff.mp none).1])
  refine ⟨⟨nonempty, plain⟩, ?_⟩
  rw [normalPart, map_plainLower plain, chars, List.map_append, point]
  exact stripOrdinals_of_no_digit noDigit

end Abbreviation

theorem monthName_mem {month : Nat} (bounds : 1 ≤ month ∧ month ≤ 12) :
    monthName month ∈ months := by
  have listed : ∀ month ∈ List.range' 1 12, monthName month ∈ months := by decide
  exact listed month (List.mem_range'_1.mpr (by omega))

theorem month?_word {month : Nat} (bounds : 1 ≤ month ∧ month ≤ 12)
    (printed : Abbreviation (monthName month)) : month? printed.word = some month := by
  have read : ∀ month ∈ List.range' 1 12, ∀ length ∈ List.range' 3 7,
      month? ((monthName month).take length) = some month := by decide +kernel
  have longest : ∀ month ∈ List.range' 1 12, (monthName month).length ≤ 9 := by decide
  have listed : month ∈ List.range' 1 12 := List.mem_range'_1.mpr (by omega)
  have within := printed.starts.length_le
  rw [List.length_map] at within
  have long := printed.long
  have short := longest month listed
  rw [printed.word_eq_take]
  exact read month listed _ (List.mem_range'_1.mpr (by omega))

theorem isWeekday_word {name : List Char} (listed : name ∈ weekdays)
    (printed : Abbreviation name) : isWeekday printed.word = true := by
  have read : ∀ name ∈ weekdays, ∀ length ∈ List.range' 3 7,
      isWeekday (name.take length) = true := by decide +kernel
  have longest : ∀ name ∈ weekdays, name.length ≤ 9 := by decide
  have within := printed.starts.length_le
  rw [List.length_map] at within
  have long := printed.long
  have short := longest name listed
  rw [printed.word_eq_take]
  exact read name listed _ (List.mem_range'_1.mpr (by omega))

theorem DayNumeral.isPart {day : Nat} (small : day < 100) (printed : DayNumeral day) :
    IsPart printed.chars ∧ normalPart printed.chars = padded printed.width day := by
  have digits : IsPart (padded printed.width day) ∧ _ := isPart_padded printed.width day
  have endings : ∀ ending ∈ [] :: ordinalEndings, ending.all isAsciiLower = true := by decide
  have letters : ∀ c ∈ printed.ending, isPartChar c = true := fun c member =>
    isPartChar_of_asciiLower
      (List.all_eq_true.mp (endings _ printed.ordinal) _ (List.mem_map_of_mem member))
  have plain : ∀ c ∈ printed.chars, isPartChar c = true :=
    List.forall_mem_append.mpr ⟨digits.1.plain, letters⟩
  have stripped : ∀ width ∈ [1, 2], ∀ day < 100, ∀ ending ∈ [] :: ordinalEndings,
      stripOrdinals (padded width day ++ ending) = padded width day := by decide +kernel
  have same : (padded printed.width day).map asciiLower = padded printed.width day := by
    conv => rhs; rw [← List.map_id (padded printed.width day)]
    exact List.map_congr_left fun c member =>
      of_isAsciiDigit (fun c => asciiLower c = c) (by decide) (isAsciiDigit_of_mem_padded member)
  refine ⟨⟨?_, plain⟩, ?_⟩
  · intro none
    exact padded_ne_nil _ _ (List.append_eq_nil_iff.mp none).1
  · rw [normalPart, map_plainLower plain, chars, List.map_append, same]
    exact stripped _ printed.narrow _ small _ printed.ordinal

end GigListings.DateText
