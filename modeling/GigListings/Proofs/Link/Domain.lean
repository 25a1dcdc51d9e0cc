import GigListings.Link.Domain
import GigListings.Proofs.Except
import GigListings.Proofs.Link.Punycode
import GigListings.Proofs.Text.Pieces

namespace GigListings.Link

open Text

/-! A domain name in ASCII is its own form in ASCII. -/

/-! Characters that are kept. -/

def keptBits : Nat := keptRanges.bits

/-- Characters that are kept fall apart into such characters, and all others are replaced by such
characters. What falls apart is beyond ASCII, of which only the capital letters are not kept. -/
structure IsClosed (bits : Nat) : Prop where
  ascii : ∀ code < 128, bits.testBit code = !isAsciiUpper (Char.ofNat code)
  runs : ∀ code image, replacementRuns.get? code = some image → bits.testBit image.toNat = true
  expansions : replacementExpansions.all (fun entry => entry.2.all (bits.testBit ·.toNat)) = true
  decompositions : decompositions.all (fun entry => 128 ≤ entry.1.toNat &&
    (!bits.testBit entry.1.toNat || entry.2.all (bits.testBit ·.toNat))) = true

set_option maxRecDepth 4000 in
theorem isClosed_keptBits : IsClosed keptBits := by
  rw [keptBits, keptRanges, CodeRanges.ofText, tableTokens_ofList, bits_ofGaps]
  refine ⟨by decide +kernel, ?_, ?_, ?_⟩
  · intro code image
    rw [replacementRuns, CaseRuns.ofText, tableTokens_ofList]
    exact of_get? (p := fun _ image => Nat.testBit _ image.toNat) (by decide +kernel)
  · rw [replacementExpansions, expansionsOfText, tableTokens_ofList]
    decide +kernel
  · rw [decompositions, expansionsOfText, tableTokens_ofList]
    decide +kernel

theorem testBit_of_isKept {c : Char} (kept : isKept c = true) :
    keptBits.testBit c.toNat = true := by
  rw [isKept] at kept
  split at kept
  · rename_i ascii
    rw [isClosed_keptBits.ascii c.toNat ascii, Char.ofNat_toNat]
    exact kept
  · rw [keptBits, keptRanges, CodeRanges.ofText, ← contains_eq_testBit_bits]
    exact kept

theorem isAsciiUpper_of_testBit {c : Char} (kept : keptBits.testBit c.toNat = true) :
    isAsciiUpper c = false := by
  by_cases ascii : c.toNat < 128
  · rw [isClosed_keptBits.ascii c.toNat ascii, Char.ofNat_toNat, Bool.not_eq_true'] at kept
    exact kept
  · exact isAsciiUpper_of_le (Nat.le_of_not_lt ascii)

theorem testBit_asciiLower {c : Char} (ascii : c.toNat < 128) :
    keptBits.testBit (asciiLower c).toNat = true := by
  have all : ∀ code < 128, (asciiLower (Char.ofNat code)).toNat < 128 ∧
      isAsciiUpper (asciiLower (Char.ofNat code)) = false := by decide
  obtain ⟨small, lower⟩ := all c.toNat ascii
  rw [Char.ofNat_toNat] at small lower
  rw [isClosed_keptBits.ascii _ small, Char.ofNat_toNat, lower]
  rfl

theorem testBit_of_mapDomainChar? {c d : Char} {image : List Char}
    (mapped : mapDomainChar? c = some image) (member : d ∈ image) :
    keptBits.testBit d.toNat = true := by
  rw [mapDomainChar?] at mapped
  split at mapped
  · rename_i ascii
    cases mapped
    rw [List.mem_singleton.mp member]
    exact testBit_asciiLower ascii
  · rename_i beyond
    split at mapped
    · rename_i kept
      cases mapped
      rw [List.mem_singleton.mp member]
      apply testBit_of_isKept
      rw [isKept, if_neg beyond, kept]
    · split at mapped
      · cases mapped
        cases member
      · split at mapped
        · rename_i found
          cases mapped
          rw [List.mem_singleton.mp member]
          exact isClosed_keptBits.runs _ _ found
        · obtain ⟨before, after, entries, -⟩ := List.lookup_eq_some_iff.mp mapped
          have kept := List.all_eq_true.mp isClosed_keptBits.expansions (c, image)
            (by simp [entries])
          exact List.all_eq_true.mp kept d member

theorem testBit_of_mapDomain? {text mapped : List Char} (maps : mapDomain? text = some mapped)
    {d : Char} (member : d ∈ mapped) : keptBits.testBit d.toNat = true := by
  obtain ⟨images, each, rfl⟩ := Option.map_eq_some_iff.mp maps
  obtain ⟨image, listed, inside⟩ := List.mem_flatten.mp member
  obtain ⟨c, -, found⟩ := Option.exists_of_mem_mapM each listed
  exact testBit_of_mapDomainChar? found inside

/-! Composed text. -/

theorem isAsciiUpper_ofNat {code : Nat} (beyond : 128 ≤ code) (small : code < 0xD800) :
    isAsciiUpper (Char.ofNat code) = false := by
  apply isAsciiUpper_of_le
  rwa [toNat_ofNat_of_lt small]

theorem isAsciiUpper_of_mem_decomposeSyllable {code : Nat} {d : Char}
    (small : code - syllableBase < 11172) (member : d ∈ decomposeSyllable code) :
    isAsciiUpper d = false := by
  unfold decomposeSyllable at member
  generalize code - syllableBase = index at small member
  have lead : isAsciiUpper (Char.ofNat (0x1100 + index / 588)) = false :=
    isAsciiUpper_ofNat (by omega) (by omega)
  have vowel : isAsciiUpper (Char.ofNat (0x1161 + index % 588 / 28)) = false :=
    isAsciiUpper_ofNat (by omega) (by omega)
  have tail : isAsciiUpper (Char.ofNat (0x11A7 + index % 28)) = false :=
    isAsciiUpper_ofNat (by omega) (by omega)
  dsimp only at member
  split at member
  · simp only [List.mem_cons, List.not_mem_nil, or_false] at member
    rcases member with rfl | rfl
    · exact lead
    · exact vowel
  · simp only [List.mem_cons, List.not_mem_nil, or_false] at member
    rcases member with rfl | rfl | rfl
    · exact lead
    · exact vowel
    · exact tail

theorem isAsciiUpper_of_mem_decomposeWith {parts? : Char → Option (List Char)}
    (closed : ∀ c parts, parts? c = some parts → keptBits.testBit c.toNat = true →
      ∀ part ∈ parts, keptBits.testBit part.toNat = true)
    {depth : Nat} {c d : Char} (kept : keptBits.testBit c.toNat = true)
    (member : d ∈ decomposeWith parts? depth c) : isAsciiUpper d = false := by
  induction depth generalizing c with
  | zero =>
      rw [List.mem_singleton.mp member]
      exact isAsciiUpper_of_testBit kept
  | succ depth induction =>
      rw [decomposeWith] at member
      split at member
      · exact isAsciiUpper_of_mem_decomposeSyllable (by omega) member
      · split at member
        · rename_i parts found
          obtain ⟨part, listed, inside⟩ := List.mem_flatMap.mp member
          exact induction (closed c parts found kept part listed) inside
        · rw [List.mem_singleton.mp member]
          exact isAsciiUpper_of_testBit kept

theorem isAsciiUpper_of_mem_decomposeChar {c d : Char} (kept : keptBits.testBit c.toNat = true)
    (member : d ∈ decomposeChar c) : isAsciiUpper d = false := by
  refine isAsciiUpper_of_mem_decomposeWith ?_ kept member
  intro c parts found kept
  obtain ⟨before, after, entries, -⟩ := List.lookup_eq_some_iff.mp found
  have closed := List.all_eq_true.mp isClosed_keptBits.decompositions (c, parts) (by simp [entries])
  rw [Bool.and_eq_true, Bool.or_eq_true, Bool.not_eq_true', kept] at closed
  exact List.all_eq_true.mp (closed.2.resolve_left (by decide))

theorem mem_insertMark {mark other : Nat × Char} {marks : List (Nat × Char)} :
    other ∈ insertMark mark marks ↔ other = mark ∨ other ∈ marks := by
  induction marks with
  | nil =>
      rw [insertMark, List.mem_singleton]
      simp
  | cons next rest induction =>
      rw [insertMark]
      split
      · exact List.mem_cons
      · rw [List.mem_cons, induction, List.mem_cons]
        exact or_left_comm

theorem mem_of_mem_orderMarks {classOf : Char → Nat} {marks : List (Nat × Char)}
    {text : List Char} {d : Char} (member : d ∈ orderMarks classOf marks text) :
    d ∈ marks.map Prod.snd ∨ d ∈ text := by
  induction text generalizing marks with
  | nil => exact .inl member
  | cons c rest induction =>
      rw [orderMarks] at member
      split at member
      · rcases List.mem_append.mp member with mark | later
        · exact .inl mark
        · rcases List.mem_cons.mp later with rfl | behind
          · exact .inr List.mem_cons_self
          · rcases induction behind with none | found
            · cases none
            · exact .inr (List.mem_cons_of_mem c found)
      · rcases induction member with mark | later
        · obtain ⟨other, inserted, rfl⟩ := List.mem_map.mp mark
          rcases mem_insertMark.mp inserted with rfl | before
          · exact .inr List.mem_cons_self
          · exact .inl (List.mem_map_of_mem before)
        · exact .inr (List.mem_cons_of_mem c later)

/-- A composed text holds no other characters than the text and those that pairs give. -/
theorem mem_of_mem_composeFrom {classOf : Char → Nat} {pair? : Char → Char → Option Char}
    {P : Char → Prop} (pairs : ∀ a b c, pair? a b = some c → P c) {starter d : Char}
    {skipped text : List Char} (first : P starter) (others : ∀ c ∈ skipped, P c)
    (later : ∀ c ∈ text, P c) (member : d ∈ composeFrom classOf pair? starter skipped text) :
    P d := by
  induction text generalizing starter skipped with
  | nil =>
      rcases List.mem_cons.mp member with rfl | mark
      · exact first
      · exact others d (List.mem_reverse.mp mark)
  | cons c rest induction =>
      obtain ⟨here, behind⟩ := List.forall_mem_cons.mp later
      rw [composeFrom] at member
      split at member
      · rename_i composed found
        have paired : P composed := by
          split at found
          · cases found
          · exact pairs _ _ _ found
        exact induction paired others behind member
      · split at member
        · rcases List.mem_cons.mp member with rfl | inside
          · exact first
          · rcases List.mem_append.mp inside with mark | next
            · exact others d (List.mem_reverse.mp mark)
            · exact induction here (by simp) behind next
        · exact induction first (List.forall_mem_cons.mpr ⟨here, others⟩) behind member

theorem mem_of_mem_compose {classOf : Char → Nat} {pair? : Char → Char → Option Char}
    {P : Char → Prop} (pairs : ∀ a b c, pair? a b = some c → P c) {d : Char} {text : List Char}
    (each : ∀ c ∈ text, P c) (member : d ∈ compose classOf pair? text) : P d := by
  induction text with
  | nil => cases member
  | cons c rest induction =>
      obtain ⟨here, behind⟩ := List.forall_mem_cons.mp each
      rw [compose] at member
      split at member
      · exact mem_of_mem_composeFrom pairs here (by simp) behind member
      · rcases List.mem_cons.mp member with rfl | later
        · exact here
        · exact induction behind later

theorem le_of_composeSyllable? {a b : Nat} {c : Char} (composed : composeSyllable? a b = some c) :
    128 ≤ c.toNat := by
  unfold composeSyllable? at composed
  have base : syllableBase = 0xAC00 := rfl
  split at composed
  · rw [← Option.some.inj composed, toNat_ofNat_of_lt (by omega)]
    omega
  · split at composed
    · rw [← Option.some.inj composed, toNat_ofNat_of_lt (by omega)]
      omega
    · cases composed

theorem le_of_composePair? {a b c : Char} (composed : composePair? a b = some c) :
    128 ≤ c.toNat := by
  rw [composePair?] at composed
  split at composed
  · rename_i syllable
    cases composed
    exact le_of_composeSyllable? syllable
  · obtain ⟨entry, found, rfl⟩ := Option.map_eq_some_iff.mp composed
    have listed := List.all_eq_true.mp isClosed_keptBits.decompositions entry
      (List.mem_of_find?_eq_some found)
    exact of_decide_eq_true (Bool.and_eq_true_iff.mp listed).1

theorem isAsciiUpper_of_mem_normal {text : List Char}
    (kept : ∀ c ∈ text, keptBits.testBit c.toNat = true) {d : Char} (member : d ∈ normal text) :
    isAsciiUpper d = false := by
  rw [normal] at member
  split at member
  · exact isAsciiUpper_of_testBit (kept d member)
  · refine mem_of_mem_compose
      (fun _ _ _ composed => isAsciiUpper_of_le (le_of_composePair? composed)) ?_ member
    intro c ordered
    rcases mem_of_mem_orderMarks ordered with none | taken
    · cases none
    · obtain ⟨source, listed, inside⟩ := List.mem_flatMap.mp taken
      exact isAsciiUpper_of_mem_decomposeChar (kept source listed) inside

/-! Names in ASCII. -/

def IsPlain (c : Char) : Prop := c.toNat < 128 ∧ isAsciiUpper c = false

instance (c : Char) : Decidable (IsPlain c) := inferInstanceAs (Decidable (_ ∧ _))

theorem mapDomain?_of_isPlain {name : List Char} (plain : ∀ c ∈ name, IsPlain c) :
    mapDomain? name = some name := by
  have each : name.mapM mapDomainChar? = some (name.map ([·])) := by
    rw [Option.mapM_eq_some, List.forall₂_map_right_iff, List.forall₂_same]
    intro c member
    obtain ⟨ascii, lower⟩ := plain c member
    rw [mapDomainChar?, if_pos ascii, lower]
    rfl
  rw [mapDomain?, each, Option.map_some, ← List.flatMap_def, List.flatMap_singleton']

theorem normal_of_isPlain {name : List Char} (plain : ∀ c ∈ name, IsPlain c) :
    normal name = name := by
  rw [normal, if_pos (List.all_eq_true.mpr fun c member => decide_eq_true (plain c member).1)]

/-! Labels. -/

theorem isPlain_of_mem_marker {c : Char} (member : c ∈ marker ++ Punycode.digitChars) :
    IsPlain c ∧ c ≠ '.' := by
  have all : (marker ++ Punycode.digitChars).all (fun c => IsPlain c ∧ c ≠ '.') = true := by
    decide
  exact of_decide_eq_true (List.all_eq_true.mp all c member)

theorem isPlain_of_mem_labelToAscii? {label out : List Char} (made : labelToAscii? label = some out)
    (lower : ∀ c ∈ label, isAsciiUpper c = false) (noPoint : '.' ∉ label) {c : Char}
    (member : c ∈ out) : IsPlain c ∧ c ≠ '.' := by
  have own (ascii : isAscii label = true) (same : out = label) : IsPlain c ∧ c ≠ '.' := by
    rw [same] at member
    refine ⟨⟨?_, lower c member⟩, ?_⟩
    · exact of_decide_eq_true (List.all_eq_true.mp ascii c member)
    · rintro rfl
      exact noPoint member
  unfold labelToAscii? at made
  split at made
  · split at made
    · split at made
      · rename_i sound
        exact own sound.1 (Option.some.inj made).symm
      · cases made
    · cases made
  · split at made
    · rename_i ascii
      exact own ascii (Option.some.inj made).symm
    · split at made
      · rw [← Option.some.inj made, List.mem_append] at member
        rcases member with lead | written
        · exact isPlain_of_mem_marker (List.mem_append_left _ lead)
        · rcases Punycode.mem_encode written with ⟨source, ascii⟩ | rfl | digit
          · refine ⟨⟨ascii, lower c source⟩, ?_⟩
            rintro rfl
            exact noPoint source
          · exact ⟨⟨by decide, by decide⟩, by decide⟩
          · exact isPlain_of_mem_marker (List.mem_append_right _ digit)
      · cases made

theorem isAscii_encode (text : List Char) : isAscii (Punycode.encode text) = true := by
  rw [isAscii, List.all_eq_true]
  intro c member
  rw [decide_eq_true_eq]
  rcases Punycode.mem_encode member with ⟨-, ascii⟩ | rfl | digit
  · exact ascii
  · decide
  · exact (isPlain_of_mem_marker (List.mem_append_right _ digit)).1.1

theorem labelToAscii?_idem {label out : List Char} (made : labelToAscii? label = some out) :
    labelToAscii? out = some out := by
  have whole := made
  unfold labelToAscii? at made
  split at made
  · split at made
    · split at made
      · rwa [← Option.some.inj made] at whole ⊢
      · cases made
    · cases made
  · split at made
    · rwa [← Option.some.inj made] at whole ⊢
    · rename_i beyond
      split at made
      · rename_i wellFormed
        have some : label ≠ [] := by
          rintro rfl
          exact beyond rfl
        rw [← Option.some.inj made, labelToAscii?, if_pos (by simp), List.drop_left,
          Punycode.decode?_encode]
        have ascii : isAscii (marker ++ Punycode.encode label) = true := by
          rw [isAscii, List.all_append, Bool.and_eq_true]
          exact ⟨by decide, isAscii_encode label⟩
        exact if_pos ⟨ascii, some, Bool.eq_false_iff.mpr beyond, wellFormed⟩
      · cases made

theorem shownLabel_of_labelToAscii? {label out : List Char}
    (made : labelToAscii? label = some out) : shownLabel out = shownLabel label := by
  unfold labelToAscii? at made
  split at made
  · split at made
    · split at made
      · rw [Option.some.inj made]
      · cases made
    · cases made
  · rename_i unmarked
    split at made
    · rw [Option.some.inj made]
    · split at made
      · rw [← Option.some.inj made, shownLabel, if_pos (by simp), List.drop_left,
          Punycode.decode?_encode, shownLabel, if_neg unmarked]
        rfl
      · cases made

theorem map_shownLabel_of_mapM {labels written : List (List Char)}
    (pass : labels.mapM labelToAscii? = some written) :
    written.map shownLabel = labels.map shownLabel := by
  have each := Option.mapM_eq_some.mp pass
  clear pass
  induction each with
  | nil => rfl
  | cons first _ induction =>
      rw [List.map_cons, List.map_cons, shownLabel_of_labelToAscii? first, induction]

theorem isFromRight_direction_of_ascii {c : Char} (ascii : c.toNat < 128) :
    (direction c).isFromRight = false := by
  rw [direction, if_pos ascii, asciiDirection]
  split
  · rfl
  · split
    · rfl
    · split <;> rfl

theorem runOneWay_of_ascii {labels : List (List Char)}
    (ascii : ∀ label ∈ labels, ∀ c ∈ label, c.toNat < 128) : runOneWay labels = true := by
  have noneFromRight : labels.any (·.any (direction · |>.isFromRight)) = false := by
    refine List.any_eq_false.mpr fun label listed => ?_
    rw [Bool.not_eq_true]
    refine List.any_eq_false.mpr fun c member => ?_
    rw [isFromRight_direction_of_ascii (ascii label listed c member)]
    decide
  rw [runOneWay, noneFromRight]
  rfl

/-! Names. -/

/-- A name that is written has labels that stay as they are. -/
theorem exists_labels {text name : List Char} (made : domainToAscii? text = some name) :
    ∃ labels, labels ≠ [] ∧ name = intercalate ['.'] labels ∧
      (∀ label ∈ labels, labelToAscii? label = some label ∧ ∀ c ∈ label, IsPlain c ∧ c ≠ '.') ∧
      runOneWay (labels.map shownLabel) = true := by
  obtain ⟨mapped, maps, rest⟩ := Option.bind_eq_some_iff.mp made
  obtain ⟨labels, pass, joined⟩ := Option.bind_eq_some_iff.mp rest
  obtain ⟨oneWay, joined⟩ := Option.ite_none_right_eq_some.mp joined
  refine ⟨labels, ?_, (Option.some.inj joined).symm, ?_, ?_⟩
  · rintro rfl
    have none := Option.mapM_eq_some.mp pass
    rw [List.forall₂_nil_right_iff] at none
    exact splitOn_ne_nil _ _ none
  · intro label listed
    obtain ⟨source, isPiece, found⟩ := Option.exists_of_mem_mapM pass listed
    refine ⟨labelToAscii?_idem found, fun c => isPlain_of_mem_labelToAscii? found ?_ ?_⟩
    · intro d inside
      exact isAsciiUpper_of_mem_normal (fun e => testBit_of_mapDomain? maps)
        (mem_of_mem_splitOn isPiece inside).1
    · intro point
      exact absurd (mem_of_mem_splitOn isPiece point).2 (by decide)
  · rwa [map_shownLabel_of_mapM pass]

theorem domainToAscii?_intercalate {labels : List (List Char)} (some : labels ≠ [])
    (fixed : ∀ label ∈ labels,
      labelToAscii? label = Option.some label ∧ ∀ c ∈ label, IsPlain c ∧ c ≠ '.')
    (oneWay : runOneWay (labels.map shownLabel) = true) :
    domainToAscii? (intercalate ['.'] labels) = Option.some (intercalate ['.'] labels) := by
  have plain : ∀ c ∈ intercalate ['.'] labels, IsPlain c := by
    intro c member
    rcases mem_intercalate member with rfl | ⟨label, listed, inside⟩
    · exact ⟨by decide, by decide⟩
    · exact ((fixed label listed).2 c inside).1
  have pieces : splitOn (· == '.') (intercalate ['.'] labels) = labels :=
    splitOn_intercalate some fun label listed point =>
      ((fixed label listed).2 '.' point).2 rfl
  have pass : labels.mapM labelToAscii? = Option.some labels := by
    rw [Option.mapM_eq_some, List.forall₂_same]
    exact fun label listed => (fixed label listed).1
  rw [domainToAscii?, mapDomain?_of_isPlain plain, Option.bind_eq_bind, Option.bind_some,
    normal_of_isPlain plain, pieces]
  dsimp only
  rw [pass, Option.bind_eq_bind, Option.bind_some, if_pos oneWay]
  rfl

theorem domainToAscii?_idem {text name : List Char} (made : domainToAscii? text = some name) :
    domainToAscii? name = some name := by
  obtain ⟨labels, some, rfl, fixed, oneWay⟩ := exists_labels made
  exact domainToAscii?_intercalate some fixed oneWay

end GigListings.Link
