import GigListings.Text.Case
import Mathlib.Tactic.ByContra

namespace GigListings.Text

/-! What tables of characters hold. The search in a table finds an entry only if its range covers
the character, so that a table can be read once for all characters in question. -/

theorem tableTokens_ofList (chars : List Char) :
    tableTokens (String.ofList chars) =
      (splitOn (fun c => c == ' ' || c == '\n') chars).filter (· ≠ []) := by
  rw [tableTokens, String.toList_ofList]

theorem countLe_eq (entries : Array Nat) (x lo hi : Nat) :
    countLe entries x lo hi = lo ∨
      ∃ index, countLe entries x lo hi = index + 1 ∧ index < hi ∧ entries.getD index 0 ≤ x := by
  fun_induction countLe entries x lo hi with
  | case1 lo hi inside mid small induction =>
      right
      rcases induction with found | found
      · exact ⟨mid, found, by omega, small⟩
      · exact found
  | case2 lo hi inside mid large induction =>
      rcases induction with found | ⟨index, equation, bound, small⟩
      · exact .inl found
      · exact .inr ⟨index, equation, by omega, small⟩
  | case3 => exact .inl rfl

theorem lt_countLe {entries : Array Nat} {x lo hi index : Nat}
    (sorted : ∀ i j, i ≤ j → j < hi → entries.getD i 0 ≤ entries.getD j 0)
    (bound : index < hi) (small : entries.getD index 0 ≤ x) :
    index < countLe entries x lo hi := by
  fun_induction countLe entries x lo hi with
  | case1 lo hi inside mid isSmall induction => exact induction sorted bound
  | case2 lo hi inside mid large induction =>
      have left : index < mid := by
        by_contra right
        exact large (Nat.le_trans (sorted mid index (Nat.le_of_not_lt right) bound) small)
      exact induction (fun i j le within => sorted i j le (by omega)) left
  | case3 lo hi outside => omega

theorem getD_eq_of_toList {entries : Array α} {list : List α} (equation : entries.toList = list)
    (index : Nat) (absent : α) : entries.getD index absent = list.getD index absent := by
  subst equation
  simp [Array.getD_eq_getD_getElem?, List.getD_eq_getElem?_getD]

/-! Sets of code points. -/

def rangesFrom (stop : Nat) : List (List Char) → List (Nat × Nat)
  | gap :: length :: rest =>
      let start := stop + hexValue gap
      let next := start + hexValue length
      (start, next) :: rangesFrom next rest
  | _ => []

theorem ofGaps_toList (ranges : CodeRanges) (stop : Nat) (tokens : List (List Char)) :
    (CodeRanges.ofGaps ranges stop tokens).starts.toList =
        ranges.starts.toList ++ (rangesFrom stop tokens).map Prod.fst ∧
      (CodeRanges.ofGaps ranges stop tokens).stops.toList =
        ranges.stops.toList ++ (rangesFrom stop tokens).map Prod.snd := by
  fun_induction CodeRanges.ofGaps ranges stop tokens with
  | case1 ranges stop gap length rest start next induction =>
      simp [induction, rangesFrom, start, next]
  | case2 tokens ranges stop short =>
      have empty : rangesFrom stop tokens = [] := by
        unfold rangesFrom
        split
        · exact absurd rfl (short _ _ _)
        · rfl
      simp [empty]

theorem rangesFrom_sorted (stop : Nat) (tokens : List (List Char)) :
    (rangesFrom stop tokens).Pairwise (fun before after => before.2 ≤ after.1) ∧
      ∀ range ∈ rangesFrom stop tokens, stop ≤ range.1 ∧ range.1 ≤ range.2 := by
  fun_induction rangesFrom stop tokens with
  | case1 stop gap length rest start next induction =>
      obtain ⟨sorted, beyond⟩ := induction
      have first : stop ≤ start := Nat.le_add_right _ _
      have second : start ≤ next := Nat.le_add_right _ _
      refine ⟨List.pairwise_cons.mpr ⟨fun range listed => (beyond range listed).1, sorted⟩, ?_⟩
      rw [List.forall_mem_cons]
      refine ⟨⟨first, second⟩, fun range listed => ?_⟩
      obtain ⟨after, order⟩ := beyond range listed
      exact ⟨Nat.le_trans (Nat.le_trans first second) after, order⟩
  | case2 => simp

theorem exists_range_of_contains {tokens : List (List Char)} {code : Nat}
    (contained : (CodeRanges.ofGaps ⟨#[], #[]⟩ 0 tokens).contains code = true) :
    ∃ range ∈ rangesFrom 0 tokens, range.1 ≤ code ∧ code < range.2 := by
  obtain ⟨starts, stops⟩ := ofGaps_toList ⟨#[], #[]⟩ 0 tokens
  simp only [List.nil_append] at starts stops
  unfold CodeRanges.contains at contained
  split at contained
  · cases contained
  · rename_i index found
    rcases countLe_eq (CodeRanges.ofGaps ⟨#[], #[]⟩ 0 tokens).starts code 0
      (CodeRanges.ofGaps ⟨#[], #[]⟩ 0 tokens).starts.size with none | some
    · omega
    · obtain ⟨other, equation, bound, small⟩ := some
      have same : other = index := by omega
      subst same
      rw [← Array.length_toList, starts, List.length_map] at bound
      rw [getD_eq_of_toList starts] at small
      rw [getD_eq_of_toList stops] at contained
      refine ⟨_, List.getElem_mem bound, ?_⟩
      simpa [List.getD_eq_getElem?_getD, List.getElem?_eq_getElem bound] using
        And.intro small contained

theorem contains_of_mem_rangesFrom {tokens : List (List Char)} {range : Nat × Nat}
    (listed : range ∈ rangesFrom 0 tokens) {code : Nat} (least : range.1 ≤ code)
    (most : code < range.2) :
    (CodeRanges.ofGaps ⟨#[], #[]⟩ 0 tokens).contains code = true := by
  obtain ⟨starts, stops⟩ := ofGaps_toList ⟨#[], #[]⟩ 0 tokens
  obtain ⟨apart, order⟩ := rangesFrom_sorted 0 tokens
  simp only [List.nil_append] at starts stops
  unfold CodeRanges.contains
  rw [← Array.length_toList, starts, List.length_map]
  generalize CodeRanges.ofGaps ⟨#[], #[]⟩ 0 tokens = table at starts stops ⊢
  generalize rangesFrom 0 tokens = ranges at *
  have start_eq {index : Nat} (bound : index < ranges.length) :
      table.starts.getD index 0 = ranges[index].1 := by
    simp [getD_eq_of_toList starts, bound]
  have next {i j : Nat} (less : i < j) (bound : j < ranges.length) : ranges[i].2 ≤ ranges[j].1 :=
    List.pairwise_iff_getElem.mp apart i j _ bound less
  have sorted (i j : Nat) (le : i ≤ j) (bound : j < ranges.length) :
      table.starts.getD i 0 ≤ table.starts.getD j 0 := by
    rcases Nat.eq_or_lt_of_le le with rfl | less
    · exact Nat.le_refl _
    · rw [start_eq bound, start_eq (Nat.lt_trans less bound)]
      exact Nat.le_trans (order _ (List.getElem_mem _)).2 (next less bound)
  obtain ⟨index, bound, rfl⟩ := List.getElem_of_mem listed
  have before : index < countLe table.starts code 0 ranges.length :=
    lt_countLe sorted bound (by rwa [start_eq bound])
  rcases countLe_eq table.starts code 0 ranges.length with none | ⟨other, ends, inside, small⟩
  · rw [none] at before
    exact absurd before (Nat.not_lt_zero index)
  · rw [start_eq inside] at small
    have same : other = index := by
      by_contra different
      have := next (i := index) (j := other) (by omega) inside
      omega
    subst same
    rw [ends]
    simpa [getD_eq_of_toList stops, bound] using most

/-! Sets of code points as numbers, whose bits a closed term can be asked for at once. -/

def bitsOf : List (Nat × Nat) → Nat
  | [] => 0
  | (start, stop) :: rest => (Nat.pow 2 (stop - start) - 1) <<< start ||| bitsOf rest

theorem testBit_bitsOf {ranges : List (Nat × Nat)} {code : Nat} :
    (bitsOf ranges).testBit code = true ↔ ∃ range ∈ ranges, range.1 ≤ code ∧ code < range.2 := by
  induction ranges with
  | nil => simp [bitsOf]
  | cons range rest induction =>
      have inside : (range.1 ≤ code ∧ code - range.1 < range.2 - range.1) ↔
          (range.1 ≤ code ∧ code < range.2) := by omega
      have ones : (Nat.pow 2 (range.2 - range.1) - 1).testBit (code - range.1) =
          decide (code - range.1 < range.2 - range.1) := Nat.testBit_two_pow_sub_one _ _
      rw [bitsOf, Nat.testBit_or, Bool.or_eq_true, induction, Nat.testBit_shiftLeft, ones,
        Bool.and_eq_true, decide_eq_true_eq, decide_eq_true_eq, inside]
      simp

def CodeRanges.bits (ranges : CodeRanges) : Nat :=
  bitsOf (ranges.starts.toList.zip ranges.stops.toList)

theorem bits_ofGaps (tokens : List (List Char)) :
    (CodeRanges.ofGaps ⟨#[], #[]⟩ 0 tokens).bits = bitsOf (rangesFrom 0 tokens) := by
  obtain ⟨starts, stops⟩ := ofGaps_toList ⟨#[], #[]⟩ 0 tokens
  rw [CodeRanges.bits, starts, stops]
  simp [List.zip_map']

theorem contains_eq_testBit_bits {tokens : List (List Char)} {code : Nat} :
    (CodeRanges.ofGaps ⟨#[], #[]⟩ 0 tokens).contains code =
      (CodeRanges.ofGaps ⟨#[], #[]⟩ 0 tokens).bits.testBit code := by
  rw [Bool.eq_iff_iff, bits_ofGaps, testBit_bitsOf]
  constructor
  · exact exists_range_of_contains
  · rintro ⟨range, listed, least, most⟩
    exact contains_of_mem_rangesFrom listed least most

theorem contains_eq_false {codes : List Nat} {tokens : List (List Char)}
    (spared : codes.all (fun code => !(bitsOf (rangesFrom 0 tokens)).testBit code) = true)
    {code : Nat} (member : code ∈ codes) :
    (CodeRanges.ofGaps ⟨#[], #[]⟩ 0 tokens).contains code = false := by
  rw [contains_eq_testBit_bits, bits_ofGaps]
  simpa using List.all_eq_true.mp spared code member

/-! Maps of code points. -/

def runsFrom (last : Nat) : List (List Char) → List (Nat × CaseRun)
  | gap :: count :: step :: shift :: rest =>
      let start := last + hexValue gap
      (start, ⟨hexValue count, hexValue step, hexInt shift⟩) :: runsFrom start rest
  | _ => []

theorem ofTokens_toList (table : CaseRuns) (last : Nat) (tokens : List (List Char)) :
    (CaseRuns.ofTokens table last tokens).starts.toList =
        table.starts.toList ++ (runsFrom last tokens).map Prod.fst ∧
      (CaseRuns.ofTokens table last tokens).runs.toList =
        table.runs.toList ++ (runsFrom last tokens).map Prod.snd := by
  fun_induction CaseRuns.ofTokens table last tokens with
  | case1 table last gap count step shift rest start induction =>
      simp [induction, runsFrom, start]
  | case2 tokens table last short =>
      have empty : runsFrom last tokens = [] := by
        unfold runsFrom
        split
        · exact absurd rfl (short _ _ _ _ _)
        · rfl
      simp [empty]

theorem exists_run_of_get? {tokens : List (List Char)} {code : Nat} {image : Char}
    (found : (CaseRuns.ofTokens ⟨#[], #[]⟩ 0 tokens).get? code = some image) :
    ∃ run ∈ runsFrom 0 tokens, run.1 ≤ code ∧ (code - run.1) % run.2.step = 0 ∧
      (code - run.1) / run.2.step < run.2.count ∧
      image = Char.ofNat ((code : Int) + run.2.shift).toNat := by
  obtain ⟨starts, runs⟩ := ofTokens_toList ⟨#[], #[]⟩ 0 tokens
  simp only [List.nil_append] at starts runs
  unfold CaseRuns.get? at found
  split at found
  · cases found
  · rename_i index last
    rcases countLe_eq (CaseRuns.ofTokens ⟨#[], #[]⟩ 0 tokens).starts code 0
      (CaseRuns.ofTokens ⟨#[], #[]⟩ 0 tokens).starts.size with none | some
    · omega
    · obtain ⟨other, equation, bound, small⟩ := some
      have same : other = index := by omega
      subst same
      rw [← Array.length_toList, starts, List.length_map] at bound
      rw [getD_eq_of_toList starts] at small
      rw [getD_eq_of_toList starts, ← Array.getElem?_toList, runs] at found
      simp only [List.getD_eq_getElem?_getD, List.getElem?_map, List.getElem?_eq_getElem bound,
        Option.map_some, Option.getD_some] at small found
      split at found
      · rename_i reached
        exact ⟨_, List.getElem_mem bound, small, reached.1, reached.2, (Option.some.inj found).symm⟩
      · cases found

theorem exists_index_of_get? {tokens : List (List Char)} {code : Nat} {image : Char}
    (found : (CaseRuns.ofTokens ⟨#[], #[]⟩ 0 tokens).get? code = some image) :
    ∃ run ∈ runsFrom 0 tokens, ∃ index < run.2.count, code = run.1 + index * run.2.step ∧
      image = Char.ofNat ((code : Int) + run.2.shift).toNat := by
  obtain ⟨run, listed, small, onStep, within, image⟩ := exists_run_of_get? found
  refine ⟨run, listed, (code - run.1) / run.2.step, within, ?_, image⟩
  rw [Nat.div_mul_cancel (Nat.dvd_of_mod_eq_zero onStep), Nat.add_sub_cancel' small]

/-- Whether a property holds of every code that runs take to an image, and of the image. -/
def everyRun (p : Nat → Char → Bool) (runs : List (Nat × CaseRun)) : Bool :=
  runs.all fun run => (List.range run.2.count).all fun index =>
    let code := run.1 + index * run.2.step
    p code (Char.ofNat ((code : Int) + run.2.shift).toNat)

theorem of_get? {p : Nat → Char → Bool} {tokens : List (List Char)}
    (every : everyRun p (runsFrom 0 tokens) = true) {code : Nat} {image : Char}
    (found : (CaseRuns.ofTokens ⟨#[], #[]⟩ 0 tokens).get? code = some image) :
    p code image = true := by
  obtain ⟨run, listed, index, within, rfl, rfl⟩ := exists_index_of_get? found
  exact List.all_eq_true.mp (List.all_eq_true.mp every run listed) index (List.mem_range.mpr within)

theorem toNat_ofNat_of_lt {code : Nat} (small : code < 0xD800) :
    (Char.ofNat code).toNat = code := by
  have found : Char.ofNat code = Char.ofNatAux code (.inl small) := dif_pos (.inl small)
  rw [found]
  rfl

/-! Blank characters. -/

def blankAscii : List Nat := [9, 10, 11, 12, 13, 0x20]

def blankCodes : List Nat :=
  [0x85, 0xA0, 0x1680, 0x2000, 0x2001, 0x2002, 0x2003, 0x2004, 0x2005, 0x2006, 0x2007, 0x2008,
    0x2009, 0x200A, 0x2028, 0x2029, 0x202F, 0x205F, 0x3000]

def dashCodes : List Nat := [0x2013, 0x2014]

/-- The codes of the long s and of the sign for kelvin, which caseless comparison takes for
letters of ASCII. -/
def foldedCodes : List Nat := [0x17F, 0x212A]

/-- What the tables of properties leave out: blanks and dashes are no letters, marks, digits or
connectors, and blanks have no case and are not passed over where case is looked for. -/
structure LeftOut : Prop where
  alphabetic : ∀ code ∈ blankCodes ++ dashCodes, alphabeticRanges.contains code = false
  mark : ∀ code ∈ blankCodes ++ dashCodes, markRanges.contains code = false
  connector : ∀ code ∈ blankCodes ++ dashCodes, connectorRanges.contains code = false
  decimal : ∀ code ∈ blankCodes ++ dashCodes ++ foldedCodes, decimalRanges.contains code = false
  cased : ∀ code ∈ blankAscii ++ blankCodes, casedRanges.contains code = false
  caseIgnorable : ∀ code ∈ blankAscii ++ blankCodes, caseIgnorableRanges.contains code = false

theorem leftOut : LeftOut where
  alphabetic code := by
    rw [alphabeticRanges, CodeRanges.ofText, tableTokens_ofList]
    exact contains_eq_false (by decide +kernel)
  mark code := by
    rw [markRanges, CodeRanges.ofText, tableTokens_ofList]
    exact contains_eq_false (by decide +kernel)
  connector code := by
    rw [connectorRanges, CodeRanges.ofText, tableTokens_ofList]
    exact contains_eq_false (by decide +kernel)
  decimal code := by
    rw [decimalRanges, CodeRanges.ofText, tableTokens_ofList]
    exact contains_eq_false (by decide +kernel)
  cased code := by
    rw [casedRanges, CodeRanges.ofText, tableTokens_ofList]
    exact contains_eq_false (by decide +kernel)
  caseIgnorable code := by
    rw [caseIgnorableRanges, CodeRanges.ofText, tableTokens_ofList]
    exact contains_eq_false (by decide +kernel)

theorem ranges_eq_false {code : Nat} (member : code ∈ blankCodes ++ dashCodes) :
    alphabeticRanges.contains code = false ∧ markRanges.contains code = false ∧
      decimalRanges.contains code = false ∧ connectorRanges.contains code = false :=
  ⟨leftOut.alphabetic code member, leftOut.mark code member,
    leftOut.decimal code (List.mem_append_left _ member), leftOut.connector code member⟩

/-- What has a lower case is no blank and no dash, and of ASCII only small letters are one. -/
def fitsLower (code : Nat) (image : Char) : Bool :=
  !(blankCodes ++ dashCodes).contains code && (128 ≤ image.toNat || isAsciiLower image)

/-- What caseless comparison takes for another character is no blank and no dash, and but for two
characters it is taken for none of the small letters of ASCII. -/
def fitsFold (code : Nat) (image : Char) : Bool :=
  !(blankCodes ++ dashCodes).contains code && (!isAsciiLower image || foldedCodes.contains code)

theorem fits_of_get? {code : Nat} {image : Char} :
    (lowerRuns.get? code = some image → fitsLower code image = true) ∧
      (foldRuns.get? code = some image → fitsFold code image = true) := by
  constructor
  · rw [lowerRuns, CaseRuns.ofText, tableTokens_ofList]
    exact of_get? (by decide +kernel)
  · rw [foldRuns, CaseRuns.ofText, tableTokens_ofList]
    exact of_get? (by decide +kernel)

theorem runs_eq_none {code : Nat} (member : code ∈ blankCodes ++ dashCodes) :
    lowerRuns.get? code = none ∧ foldRuns.get? code = none := by
  have listed : (blankCodes ++ dashCodes).contains code = true := List.contains_iff_mem.mpr member
  refine ⟨?_, ?_⟩
  · cases found : lowerRuns.get? code with
    | none => rfl
    | some image =>
        have fits := fits_of_get?.1 found
        rw [fitsLower, listed] at fits
        cases fits
  · cases found : foldRuns.get? code with
    | none => rfl
    | some image =>
        have fits := fits_of_get?.2 found
        rw [fitsFold, listed] at fits
        cases fits

theorem isAsciiLower_of_lowerRuns {code : Nat} {image : Char}
    (found : lowerRuns.get? code = some image) (ascii : image.toNat < 128) :
    isAsciiLower image = true := by
  have fits := fits_of_get?.1 found
  rw [fitsLower, Bool.and_eq_true, Bool.or_eq_true, decide_eq_true_eq] at fits
  exact fits.2.resolve_left (Nat.not_le_of_lt ascii)

theorem mem_foldedCodes {code : Nat} {image : Char} (found : foldRuns.get? code = some image)
    (letter : isAsciiLower image = true) : code ∈ foldedCodes := by
  have fits := fits_of_get?.2 found
  rw [fitsFold, Bool.and_eq_true, letter] at fits
  exact List.contains_iff_mem.mp fits.2

theorem lowerRuns_foldedCodes :
    lowerRuns.get? 0x17F = none ∧ lowerRuns.get? 0x212A = some 'k' := by
  rw [lowerRuns, CaseRuns.ofText, tableTokens_ofList]
  decide +kernel

/-- Only the capital I with a dot becomes several characters in lower case. -/
theorem lowerExpansions_eq : lowerExpansions = [('İ', ['i', Char.ofNat 0x307])] := by
  rw [lowerExpansions, expansionsOfText, tableTokens_ofList]
  decide

theorem lowerExpansions_eq_none :
    ∀ code ∈ blankCodes ++ foldedCodes, lowerExpansions.lookup (Char.ofNat code) = none := by
  rw [lowerExpansions_eq]
  decide

theorem lowerExpansions_fits :
    lowerExpansions.all (fun entry => entry.2.all fun image =>
      128 ≤ image.toNat || isAsciiLower image) = true := by
  rw [lowerExpansions_eq]
  decide

theorem isAsciiLower_of_mem_lowerChar {c image : Char} (beyond : ¬c.toNat < 128)
    (member : image ∈ lowerChar c) (ascii : image.toNat < 128) : isAsciiLower image = true := by
  rw [lowerChar, if_neg beyond] at member
  cases expansion : lowerExpansions.lookup c with
  | some images =>
      rw [expansion] at member
      obtain ⟨before, after, entries, -⟩ := List.lookup_eq_some_iff.mp expansion
      have fits := List.all_eq_true.mp lowerExpansions_fits (c, images) (by simp [entries])
      have fits := List.all_eq_true.mp fits image member
      rw [Bool.or_eq_true, decide_eq_true_eq] at fits
      exact fits.resolve_left (Nat.not_le_of_lt ascii)
  | none =>
      rw [expansion, List.mem_singleton] at member
      subst member
      cases found : lowerRuns.get? c.toNat with
      | some image =>
          rw [found] at ascii
          exact isAsciiLower_of_lowerRuns found ascii
      | none =>
          rw [found] at ascii
          exact absurd ascii beyond

theorem isAsciiUpper_of_isAsciiLower {c : Char} (lower : isAsciiLower c = true) :
    isAsciiUpper c = false := by
  rw [isAsciiLower, Bool.and_eq_true, decide_eq_true_eq, decide_eq_true_eq] at lower
  rw [isAsciiUpper, Bool.and_eq_false_iff]
  right
  rw [decide_eq_false_iff_not]
  exact fun most => absurd (Char.le_trans lower.1 most) (by decide)

theorem isAsciiUpper_of_le {c : Char} (beyond : 128 ≤ c.toNat) : isAsciiUpper c = false := by
  rw [isAsciiUpper, Bool.and_eq_false_iff]
  right
  rw [decide_eq_false_iff_not]
  intro le
  have most : c.toNat ≤ 'Z'.toNat := le
  have last : 'Z'.toNat = 90 := rfl
  omega

end GigListings.Text
