import GigListings.Link.Punycode
import Mathlib.Data.List.Basic
import Mathlib.Tactic.Ring

namespace GigListings.Link.Punycode

/-! What is written in letters, digits and hyphens is read back. The writer goes through the text
once for each code in it, least codes first, and the reader puts the characters in at the same
places in the same order. -/

/-! Numbers. -/

def digitChars : List Char := (List.range base).map digitChar

theorem digit?_digitChar {digit : Nat} (small : digit < base) :
    digit? (digitChar digit) = some digit := by
  have all : ∀ digit ∈ List.range base, digit? (digitChar digit) = some digit := by decide
  exact all digit (List.mem_range.mpr small)

theorem digitChar_mem {digit : Nat} (small : digit < base) : digitChar digit ∈ digitChars :=
  List.mem_map_of_mem (List.mem_range.mpr small)

theorem threshold_bounds (place bias : Nat) :
    1 ≤ threshold place bias ∧ threshold place bias ≤ 26 := by
  unfold threshold leastThreshold greatestThreshold
  split
  · omega
  · split
    · omega
    · omega

theorem digit_bounds {t q : Nat} (positive : 1 ≤ t) (small : t ≤ 26) (more : t ≤ q) :
    t + (q - t) % (base - t) < base ∧ (q - t) / (base - t) < q ∧
      t + (q - t) % (base - t) + (q - t) / (base - t) * (base - t) = q := by
  have room : 0 < base - t := by
    unfold base
    omega
  have rest := Nat.mod_lt (q - t) room
  have less := Nat.div_le_self (q - t) (base - t)
  have whole := Nat.mod_add_div' (q - t) (base - t)
  omega

theorem decodeNumber_encodeNumber {bias fuel q : Nat} (enough : q < fuel)
    (place weight value : Nat) (rest : List Char) :
    decodeNumber bias place weight value (encodeNumber bias fuel place q ++ rest) =
      some (value + q * weight, rest) := by
  induction fuel generalizing q place weight value with
  | zero => omega
  | succ fuel induction =>
      obtain ⟨positive, small⟩ := threshold_bounds place bias
      rw [encodeNumber]
      by_cases last : q < threshold place bias
      · have digit : q < base := by
          unfold base
          omega
        simp only [if_pos last, List.singleton_append, decodeNumber, digit?_digitChar digit]
      · obtain ⟨digit, less, whole⟩ := digit_bounds positive small (Nat.le_of_not_lt last)
        simp only [if_neg last, List.cons_append, decodeNumber, digit?_digitChar digit]
        rw [if_neg (Nat.not_lt.mpr (Nat.le_add_right _ _)),
          induction (Nat.lt_of_lt_of_le less (Nat.le_of_lt_succ enough))]
        congr 2
        conv_rhs => rw [← whole]
        ring

theorem encodeNumber_ne_nil {bias fuel q : Nat} (enough : q < fuel) (place : Nat) :
    encodeNumber bias fuel place q ≠ [] := by
  cases fuel with
  | zero => omega
  | succ fuel =>
      rw [encodeNumber]
      split
      · exact List.cons_ne_nil _ _
      · exact List.cons_ne_nil _ _

theorem mem_encodeNumber {bias fuel place q : Nat} {c : Char}
    (member : c ∈ encodeNumber bias fuel place q) : c ∈ digitChars := by
  induction fuel generalizing place q with
  | zero => cases member
  | succ fuel induction =>
      obtain ⟨positive, small⟩ := threshold_bounds place bias
      rw [encodeNumber] at member
      by_cases last : q < threshold place bias
      · rw [if_pos last, List.mem_singleton] at member
        rw [member]
        apply digitChar_mem
        unfold base
        omega
      · obtain ⟨digit, -, -⟩ := digit_bounds positive small (Nat.le_of_not_lt last)
        rw [if_neg last, List.mem_cons] at member
        rcases member with rfl | later
        · exact digitChar_mem digit
        · exact induction later

/-! The reader. -/

/-- A text as far as it has been read, with the code that was put in last and the place behind
it. -/
structure Decoder where
  code : Nat
  index : Nat
  bias : Nat
  output : List Char

def Decoder.run (fuel : Nat) (state : Decoder) (text : List Char) : Option (List Char) :=
  decodeFrom fuel state.code state.index state.bias state.output text

/-- The text that takes a reader from one state to another, whatever follows. -/
def Reads (state : Decoder) (text : List Char) (next : Decoder) : Prop :=
  ∀ rest fuel, text.length + rest.length ≤ fuel →
    ∃ left, rest.length ≤ left ∧ state.run fuel (text ++ rest) = next.run left rest

theorem Reads.nil (state : Decoder) : Reads state [] state := by
  intro rest fuel enough
  refine ⟨fuel, ?_, rfl⟩
  simpa using enough

theorem Reads.append {state next last : Decoder} {text more : List Char}
    (reads : Reads state text next) (continues : Reads next more last) :
    Reads state (text ++ more) last := by
  intro rest fuel enough
  obtain ⟨left, room, same⟩ := reads (more ++ rest) fuel (by simpa [Nat.add_assoc] using enough)
  obtain ⟨after, enoughLeft, sameAfter⟩ :=
    continues rest left (by simpa using room)
  refine ⟨after, enoughLeft, ?_⟩
  rw [List.append_assoc, same, sameAfter]

theorem Reads.run {state next : Decoder} {text : List Char} (reads : Reads state text next) :
    state.run text.length text = some next.output := by
  obtain ⟨left, -, same⟩ := reads [] text.length (Nat.le_refl _)
  rw [List.append_nil] at same
  rw [same]
  cases left with
  | zero => rfl
  | succ left => rfl

theorem reads_number {state : Decoder} {code place delta fuel : Nat} (later : state.code ≤ code)
    (valid : code.isValidChar) (inside : place ≤ state.output.length)
    (distance : state.index + delta =
      (code - state.code) * (state.output.length + 1) + place)
    (enough : delta < fuel) :
    Reads state (encodeNumber state.bias fuel base delta)
      { code
        index := place + 1
        bias := adapt delta (state.output.length + 1) (state.index == 0)
        output := state.output.take place ++ Char.ofNat code :: state.output.drop place } := by
  intro rest steps room
  have written : encodeNumber state.bias fuel base delta ≠ [] := encodeNumber_ne_nil enough base
  obtain ⟨c, digits, number⟩ := List.exists_cons_of_ne_nil written
  have read := @decodeNumber_encodeNumber state.bias fuel delta enough base 1 state.index rest
  rw [Nat.mul_one, distance] at read
  rw [number] at room read ⊢
  cases steps with
  | zero => simp at room
  | succ steps =>
      refine ⟨steps, ?_, ?_⟩
      · simp only [List.length_cons] at room
        omega
      · have count : 0 < state.output.length + 1 := Nat.succ_pos _
        have quotient : ((code - state.code) * (state.output.length + 1) + place) /
            (state.output.length + 1) = code - state.code := by
          rw [Nat.mul_comm, Nat.mul_add_div count, Nat.div_eq_of_lt (by omega), Nat.add_zero]
        have remainder : ((code - state.code) * (state.output.length + 1) + place) %
            (state.output.length + 1) = place := by
          rw [Nat.mul_comm, Nat.mul_add_mod, Nat.mod_eq_of_lt (by omega)]
        have difference : (code - state.code) * (state.output.length + 1) + place - state.index =
            delta := by omega
        unfold Decoder.run
        rw [List.cons_append, decodeFrom]
        · rw [List.cons_append] at read
          simp only [read, quotient, remainder, difference, Nat.add_sub_cancel' later]
          rw [if_pos valid]
        · simp

/-! The writer and the reader in step. -/

/-- What a writer adds on its way to another state takes the reader from one state to another. -/
def Writes (encoder next : Encoder) (decoder reader : Decoder) : Prop :=
  ∃ written, next.output = encoder.output ++ written ∧ (∀ c ∈ written, c ∈ digitChars) ∧
    Reads decoder written reader

theorem Writes.of_same {encoder next : Encoder} (same : next.output = encoder.output)
    (decoder : Decoder) : Writes encoder next decoder decoder := by
  refine ⟨[], ?_, ?_, Reads.nil decoder⟩
  · rw [same, List.append_nil]
  · simp

theorem Writes.trans {encoder next last : Encoder} {decoder reader after : Decoder}
    (writes : Writes encoder next decoder reader) (continues : Writes next last reader after) :
    Writes encoder last decoder after := by
  obtain ⟨written, output, digits, reads⟩ := writes
  obtain ⟨more, outputAfter, digitsAfter, readsAfter⟩ := continues
  refine ⟨written ++ more, ?_, ?_, reads.append readsAfter⟩
  · rw [outputAfter, output, List.append_assoc]
  · intro c member
    exact (List.mem_append.mp member).elim (digits c) (digitsAfter c)

/-- In the pass for the code `least`, the characters in `before` have been looked at. The reader
has put in the same characters, and the writer has counted on from the last place. -/
structure InStep (basic least : Nat) (before after : List Char) (encoder : Encoder)
    (decoder : Decoder) : Prop where
  output : decoder.output =
    before.filter (·.toNat ≤ least) ++ after.filter (·.toNat < least)
  handled : encoder.handled = decoder.output.length
  bias : encoder.bias = decoder.bias
  reached : decoder.code ≤ least
  distance : decoder.index + encoder.delta =
    (least - decoder.code) * (decoder.output.length + 1) +
      (before.filter (·.toNat ≤ least)).length
  first : (decoder.index == 0) = (encoder.handled == basic)
  basics : basic ≤ encoder.handled

namespace InStep

variable {basic least : Nat} {before after text : List Char} {encoder : Encoder}
  {decoder : Decoder} {c : Char}

/-- A character with an earlier code is there already; the writer counts its place. -/
theorem step_earlier (inStep : InStep basic least before (c :: after) encoder decoder)
    (less : c.toNat < least) :
    InStep basic least (before ++ [c]) after { encoder with delta := encoder.delta + 1 }
      decoder := by
  obtain ⟨output, handled, bias, reached, distance, first, basics⟩ := inStep
  refine ⟨?_, handled, bias, reached, ?_, first, basics⟩
  · simpa [less, Nat.le_of_lt less] using output
  · simp [Nat.le_of_lt less]
    omega

/-- A character with a later code waits for a later pass. -/
theorem step_later (inStep : InStep basic least before (c :: after) encoder decoder)
    (more : least < c.toNat) : InStep basic least (before ++ [c]) after encoder decoder := by
  obtain ⟨output, handled, bias, reached, distance, first, basics⟩ := inStep
  refine ⟨?_, handled, bias, reached, ?_, first, basics⟩
  · simpa [Nat.lt_asymm more, Nat.not_le.mpr more] using output
  · simpa [Nat.not_le.mpr more] using distance

/-- A character with the code itself is put in by the number that is written. -/
theorem step_same (inStep : InStep basic c.toNat before (c :: after) encoder decoder) :
    ∃ reader, Writes encoder (encodeChar basic c.toNat encoder c) decoder reader ∧
      InStep basic c.toNat (before ++ [c]) after (encodeChar basic c.toNat encoder c)
        reader := by
  obtain ⟨output, handled, bias, reached, distance, first, basics⟩ := inStep
  rw [encodeChar, if_neg (Nat.lt_irrefl _), if_pos rfl]
  have inside : (before.filter (·.toNat ≤ c.toNat)).length ≤ decoder.output.length := by
    rw [output, List.length_append]
    exact Nat.le_add_right _ _
  have number := reads_number reached c.valid inside distance
    (Nat.lt_add_of_pos_right (Nat.zero_lt_two) : encoder.delta < encoder.delta + 2)
  rw [← bias, Char.ofNat_toNat, output, List.take_left, List.drop_left, ← output] at number
  have kept : (before ++ [c]).filter (·.toNat ≤ c.toNat) =
      before.filter (·.toNat ≤ c.toNat) ++ [c] := by
    rw [List.filter_append, List.filter_singleton]
    simp
  have left : (c :: after).filter (·.toNat < c.toNat) = after.filter (·.toNat < c.toNat) := by
    simp
  rw [left] at number output
  refine ⟨_, ⟨_, rfl, fun _ => mem_encodeNumber, number⟩, ?_, ?_, ?_, Nat.le_refl _, ?_, ?_,
    Nat.le_succ_of_le basics⟩
  · rw [kept, List.append_assoc]
    rfl
  · simp [handled, output]
    omega
  · change adapt encoder.delta (encoder.handled + 1) (encoder.handled == basic) =
      adapt encoder.delta (decoder.output.length + 1) (decoder.index == 0)
    rw [first, handled]
  · rw [kept]
    simp
  · have more : encoder.handled + 1 ≠ basic := by omega
    simp [more]

theorem step (inStep : InStep basic least before (c :: after) encoder decoder) :
    ∃ reader, Writes encoder (encodeChar basic least encoder c) decoder reader ∧
      InStep basic least (before ++ [c]) after (encodeChar basic least encoder c) reader := by
  rcases Nat.lt_trichotomy c.toNat least with less | rfl | more
  · rw [encodeChar, if_pos less]
    exact ⟨decoder, .of_same rfl decoder, inStep.step_earlier less⟩
  · exact inStep.step_same
  · rw [encodeChar, if_neg (Nat.lt_asymm more), if_neg (Nat.ne_of_gt more)]
    exact ⟨decoder, .of_same rfl decoder, inStep.step_later more⟩

theorem pass (inStep : InStep basic least before after encoder decoder) :
    ∃ reader, Writes encoder (after.foldl (encodeChar basic least) encoder) decoder reader ∧
      InStep basic least (before ++ after) [] (after.foldl (encodeChar basic least) encoder)
        reader := by
  induction after generalizing before encoder decoder with
  | nil =>
      rw [List.append_nil]
      exact ⟨decoder, .of_same rfl decoder, inStep⟩
  | cons c after induction =>
      obtain ⟨next, writes, stepped⟩ := inStep.step
      obtain ⟨last, continues, passed⟩ := induction stepped
      rw [List.append_assoc] at passed
      exact ⟨last, writes.trans continues, passed⟩

/-- Codes that do not occur are passed over by counting. -/
theorem advance {code : Nat} (inStep : InStep basic code [] text encoder decoder)
    (later : code ≤ least) (unused : ∀ c ∈ text, c.toNat < least → c.toNat < code) :
    InStep basic least [] text
      { encoder with delta := encoder.delta + (least - code) * (encoder.handled + 1) } decoder := by
  obtain ⟨output, handled, bias, reached, distance, first, basics⟩ := inStep
  refine ⟨?_, handled, bias, Nat.le_trans reached later, ?_, first, basics⟩
  · rw [output, List.filter_nil, List.filter_nil, List.nil_append, List.nil_append]
    apply List.filter_congr
    intro c member
    rw [decide_eq_decide]
    exact ⟨(Nat.lt_of_lt_of_le · later), unused c member⟩
  · rw [List.filter_nil, List.length_nil, Nat.add_zero] at distance ⊢
    rw [← Nat.add_assoc, distance, handled, ← Nat.add_mul]
    congr 1
    omega

/-- At the end of a pass one more place leads to the first one with the next code. -/
theorem next (inStep : InStep basic least text [] encoder decoder) :
    InStep basic (least + 1) [] text { encoder with delta := encoder.delta + 1 } decoder := by
  obtain ⟨output, handled, bias, reached, distance, first, basics⟩ := inStep
  rw [List.filter_nil, List.append_nil] at output
  refine ⟨?_, handled, bias, Nat.le_succ_of_le reached, ?_, first, basics⟩
  · simpa [Nat.lt_succ_iff] using output
  · rw [← output] at distance
    rw [List.filter_nil, List.length_nil, Nat.add_zero, ← Nat.add_assoc, distance,
      Nat.succ_sub reached, Nat.succ_mul]
    omega

end InStep

/-- The next pass is for the least code that is left. -/
theorem exists_least {text : List Char} {code first : Nat} {others : List Nat}
    (codes : (text.filter (code ≤ ·.toNat)).map Char.toNat = first :: others) :
    ∃ c ∈ text, others.foldl min first = c.toNat ∧ code ≤ c.toNat ∧
      ∀ d ∈ text, d.toNat < c.toNat → d.toNat < code := by
  have found : (first :: others).min? = some (others.foldl min first) := List.min?_cons'
  rw [← codes] at found
  obtain ⟨listed, isLeast⟩ := List.min?_eq_some_iff.mp found
  obtain ⟨c, source, same⟩ := List.mem_map.mp listed
  obtain ⟨inText, atLeast⟩ := List.mem_filter.mp source
  refine ⟨c, inText, same.symm, of_decide_eq_true atLeast, fun d member less => ?_⟩
  by_contra above
  have kept : d ∈ text.filter (code ≤ ·.toNat) :=
    List.mem_filter.mpr ⟨member, by simpa using above⟩
  exact absurd (isLeast _ (List.mem_map_of_mem kept)) (Nat.not_le.mpr (same ▸ less))

theorem length_filter_succ_lt {text : List Char} {code : Nat} {c : Char} (member : c ∈ text)
    (later : code ≤ c.toNat) :
    (text.filter (c.toNat + 1 ≤ ·.toNat)).length < (text.filter (code ≤ ·.toNat)).length := by
  have narrower : text.filter (c.toNat + 1 ≤ ·.toNat) =
      (text.filter (code ≤ ·.toNat)).filter (c.toNat + 1 ≤ ·.toNat) := by
    rw [List.filter_filter]
    apply List.filter_congr
    intro d _
    rw [Bool.eq_iff_iff, Bool.and_eq_true]
    simp only [decide_eq_true_eq]
    omega
  rw [narrower]
  refine List.length_filter_lt_length_iff_exists.mpr ⟨c, List.mem_filter.mpr ⟨member, ?_⟩, ?_⟩
  · exact decide_eq_true later
  · simp

/-- All the passes that are left make the reader finish the text. -/
theorem encodeFrom_reads {basic fuel code : Nat} {text : List Char} {encoder : Encoder}
    {decoder : Decoder} (inStep : InStep basic code [] text encoder decoder)
    (enough : (text.filter (code ≤ ·.toNat)).length < fuel) :
    ∃ written reader, encodeFrom text basic fuel code encoder = encoder.output ++ written ∧
      (∀ c ∈ written, c ∈ digitChars) ∧ Reads decoder written reader ∧ reader.output = text := by
  -- Each pass takes one code from those that are left.
  induction fuel generalizing code encoder decoder with
  | zero => omega
  | succ fuel induction =>
      rw [encodeFrom]
      cases codes : (text.filter (code ≤ ·.toNat)).map Char.toNat with
      | nil =>
          refine ⟨[], decoder, (List.append_nil _).symm, by simp, .nil decoder, ?_⟩
          rw [inStep.output, List.filter_nil, List.nil_append, List.filter_eq_self]
          intro c member
          have none := List.filter_eq_nil_iff.mp (List.map_eq_nil_iff.mp codes) c member
          simpa using none
      | cons first others =>
          obtain ⟨c, member, least, later, unused⟩ := exists_least codes
          dsimp only
          rw [least]
          obtain ⟨next, ⟨written, output, digits, reads⟩, passed⟩ :=
            (inStep.advance later unused).pass
          have fewer := Nat.lt_of_lt_of_le (length_filter_succ_lt member later)
            (Nat.le_of_lt_succ enough)
          obtain ⟨more, last, whole, digitsAfter, continues, complete⟩ :=
            induction passed.next fewer
          refine ⟨written ++ more, last, ?_, ?_, reads.append continues, complete⟩
          · rw [whole, ← List.append_assoc, ← output]
          · intro d among
            exact (List.mem_append.mp among).elim (digits d) (digitsAfter d)

theorem ne_hyphen_of_mem {c : Char} (member : c ∈ digitChars) : c ≠ '-' := by
  have all : digitChars.all (· ≠ '-') = true := by decide
  exact of_decide_eq_true (List.all_eq_true.mp all c member)

/-- The characters of ASCII with a hyphen behind them, as far as there are any. -/
def basicLead (text : List Char) : List Char :=
  let basic := text.filter (·.toNat < firstCode)
  if basic = [] then [] else basic ++ ['-']

theorem exists_encode (text : List Char) :
    ∃ written, encode text = basicLead text ++ written ∧ (∀ c ∈ written, c ∈ digitChars) ∧
      decodeFrom written.length firstCode 0 firstBias (text.filter (·.toNat < firstCode)) written =
        some text := by
  have start : InStep (text.filter (·.toNat < firstCode)).length firstCode [] text
      ⟨0, firstBias, (text.filter (·.toNat < firstCode)).length, basicLead text⟩
      ⟨firstCode, 0, firstBias, text.filter (·.toNat < firstCode)⟩ := by
    refine ⟨rfl, rfl, rfl, Nat.le_refl _, ?_, ?_, Nat.le_refl _⟩
    · simp
    · simp
  have enough : (text.filter (firstCode ≤ ·.toNat)).length < text.length + 1 :=
    Nat.lt_succ_of_le (List.length_filter_le _ _)
  obtain ⟨written, reader, whole, digits, reads, complete⟩ := encodeFrom_reads start enough
  refine ⟨written, whole, digits, ?_⟩
  rw [← complete]
  exact complete ▸ reads.run

theorem dropLast_basicLead (text : List Char) :
    (basicLead text).dropLast = text.filter (·.toNat < firstCode) := by
  by_cases none : text.filter (·.toNat < firstCode) = []
  · simp only [basicLead, none, if_true, List.dropLast_nil]
  · simp only [basicLead, if_neg none, List.dropLast_concat]

theorem afterHyphen_basicLead (text : List Char) {written : List Char}
    (digits : ∀ c ∈ written, c ∈ digitChars) :
    ((basicLead text ++ written).reverse.takeWhile (· ≠ '-')).reverse = written := by
  have noHyphen : ∀ c ∈ written.reverse, decide (c ≠ '-') = true := fun c member =>
    decide_eq_true (ne_hyphen_of_mem (digits c (List.mem_reverse.mp member)))
  have lead : (basicLead text).reverse.takeWhile (· ≠ '-') = [] := by
    by_cases none : text.filter (·.toNat < firstCode) = []
    · simp only [basicLead, none, if_true, List.reverse_nil, List.takeWhile_nil]
    · simp [basicLead, none]
  rw [List.reverse_append, List.takeWhile_append_of_pos noHyphen, lead, List.append_nil,
    List.reverse_reverse]

theorem decode?_encode (text : List Char) : decode? (encode text) = some text := by
  obtain ⟨written, whole, digits, reads⟩ := exists_encode text
  have basics : (text.filter (·.toNat < firstCode)).all (·.toNat < firstCode) = true := by
    rw [List.all_filter, List.all_eq_true]
    simp
  rw [decode?, whole, afterHyphen_basicLead text digits, List.length_append,
    Nat.add_sub_cancel_right, List.take_left, dropLast_basicLead]
  rw [if_pos basics, reads]

/-- Nothing is written but characters of ASCII from the text, hyphens and digits. -/
theorem mem_encode {text : List Char} {c : Char} (member : c ∈ encode text) :
    (c ∈ text ∧ c.toNat < 128) ∨ c = '-' ∨ c ∈ digitChars := by
  obtain ⟨written, whole, digits, -⟩ := exists_encode text
  rw [whole, List.mem_append] at member
  rcases member with lead | later
  · unfold basicLead at lead
    dsimp only at lead
    split at lead
    · cases lead
    · rcases List.mem_append.mp lead with basic | hyphen
      · obtain ⟨source, ascii⟩ := List.mem_filter.mp basic
        exact .inl ⟨source, of_decide_eq_true ascii⟩
      · exact .inr (.inl (List.mem_singleton.mp hyphen))
  · exact .inr (.inr (digits c later))

end GigListings.Link.Punycode
