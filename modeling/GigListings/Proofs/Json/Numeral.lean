import GigListings.Json.Parser
import GigListings.Proofs.Number.Shortest
import GigListings.Proofs.Text.Numeral
import Mathlib.Data.List.TakeWhile

namespace GigListings

/-! Numbers in JSON text: every integer of 64 bits and every finite number is read as what was
written. -/

open Number Text

namespace Json

def EndsNumber (rest : List Char) : Prop :=
  ∀ c, rest.head? = some c → isAsciiDigit c = false ∧ c ≠ '.' ∧ c ≠ 'e' ∧ c ≠ 'E'

structure IsWhole (whole : List Char) : Prop where
  nonempty : whole ≠ []
  digits : ∀ c ∈ whole, isAsciiDigit c = true
  plain : whole.head? = some '0' → whole = ['0']

def fractionText : List Char → List Char
  | [] => []
  | digits => '.' :: digits

def exponentText : Option Int → List Char
  | none => []
  | some exponent =>
      'e' :: (if exponent < 0 then '-' else '+') :: Nat.toDigits 10 exponent.natAbs

def numeralText (whole fraction : List Char) (exponent : Option Int) : List Char :=
  whole ++ (fractionText fraction ++ exponentText exponent)

theorem takeWhile_digits {digits rest : List Char} (allDigits : ∀ c ∈ digits, isAsciiDigit c = true)
    (ends : ∀ c, rest.head? = some c → isAsciiDigit c = false) :
    (digits ++ rest).takeWhile isAsciiDigit = digits ∧
      (digits ++ rest).dropWhile isAsciiDigit = rest := by
  rw [List.takeWhile_append_of_pos allDigits, List.dropWhile_append_of_pos allDigits]
  cases rest with
  | nil => simp
  | cons c rest =>
      have stops := ends c rfl
      simp [stops]

theorem readWhole_append {whole rest : List Char} (isWhole : IsWhole whole)
    (ends : ∀ c, rest.head? = some c → isAsciiDigit c = false) :
    readWhole (whole ++ rest) = some (whole, rest) := by
  obtain ⟨taken, dropped⟩ := takeWhile_digits isWhole.digits ends
  unfold readWhole
  rw [taken, dropped]
  split
  · exact absurd rfl isWhole.nonempty
  · have single := isWhole.plain rfl
    cases single
  · rfl

theorem readFraction_append {fraction rest : List Char}
    (allDigits : ∀ c ∈ fraction, isAsciiDigit c = true)
    (ends : ∀ c, rest.head? = some c → isAsciiDigit c = false ∧ c ≠ '.') :
    readFraction (fractionText fraction ++ rest) = some (fraction, rest) := by
  cases fraction with
  | nil =>
      unfold readFraction
      split
      · rename_i tail equation
        rw [fractionText, List.nil_append] at equation
        rw [equation] at ends
        exact absurd rfl (ends '.' rfl).2
      · rfl
  | cons c digits =>
      obtain ⟨taken, dropped⟩ := takeWhile_digits allDigits fun d first => (ends d first).1
      simp only [fractionText, List.cons_append, readFraction]
      rw [← List.cons_append, taken, dropped]

theorem digitsValue_eq (digits : List Char) : digitsValue digits = Nat.ofDigitChars 10 digits 0 :=
  foldl_digits digits

theorem readExponentDigits_append (negative : Bool) (n : Nat) {rest : List Char}
    (ends : ∀ c, rest.head? = some c → isAsciiDigit c = false) :
    readExponentDigits negative (Nat.toDigits 10 n ++ rest) =
      some (some (if negative then -(n : Int) else n), rest) := by
  obtain ⟨taken, dropped⟩ :=
    takeWhile_digits (fun _ => isAsciiDigit_of_mem_toDigits (n := n)) ends
  unfold readExponentDigits
  rw [taken, dropped]
  split
  · rename_i empty
    exact absurd empty Nat.toDigits_ne_nil
  · rw [digitsValue_eq, Nat.ofDigitChars_ten_toDigits]

theorem readExponent_append (exponent : Option Int) {rest : List Char} (ends : EndsNumber rest) :
    readExponent (exponentText exponent ++ rest) = some (exponent, rest) := by
  cases exponent with
  | none =>
      cases rest with
      | nil => rfl
      | cons c rest =>
          obtain ⟨-, -, notLower, notUpper⟩ := ends c rfl
          simp only [exponentText, List.nil_append]
          unfold readExponent
          split
          all_goals simp_all
  | some exponent =>
      have stops : ∀ c, rest.head? = some c → isAsciiDigit c = false := fun c first =>
        (ends c first).1
      simp only [exponentText, List.cons_append]
      split
      · rename_i negative
        simp only [readExponent]
        rw [readExponentDigits_append true _ stops, if_pos rfl,
          Int.ofNat_natAbs_of_nonpos (by omega), neg_neg]
      · rename_i nonnegative
        simp only [readExponent]
        rw [readExponentDigits_append false _ stops, if_neg (by decide),
          Int.natAbs_of_nonneg (by omega)]

theorem readUnsigned_numeralText (negative : Bool) {whole fraction rest : List Char}
    (exponent : Option Int) (isWhole : IsWhole whole)
    (allDigits : ∀ c ∈ fraction, isAsciiDigit c = true) (ends : EndsNumber rest) :
    readUnsigned negative (numeralText whole fraction exponent ++ rest) =
      (numberOf negative whole fraction exponent).map (·, rest) := by
  have afterFraction : ∀ c, (exponentText exponent ++ rest).head? = some c →
      isAsciiDigit c = false ∧ c ≠ '.' := by
    intro c first
    cases exponent with
    | none => exact ⟨(ends c first).1, (ends c first).2.1⟩
    | some exponent =>
        cases first
        decide
  have afterWhole : ∀ c, (fractionText fraction ++ (exponentText exponent ++ rest)).head? = some c →
      isAsciiDigit c = false := by
    intro c first
    cases fraction with
    | nil => exact (afterFraction c first).1
    | cons d digits =>
        cases first
        decide
  unfold readUnsigned numeralText
  simp only [List.append_assoc]
  rw [readWhole_append isWhole afterWhole]
  simp only [Option.bind_eq_bind, Option.bind_some]
  rw [readFraction_append allDigits afterFraction]
  simp only [Option.bind_some]
  rw [readExponent_append exponent ends, Option.bind_some]
  cases numberOf negative whole fraction exponent with
  | none => rfl
  | some value => rfl

theorem readNumber_numeralText {whole fraction rest : List Char} (exponent : Option Int)
    (isWhole : IsWhole whole) (allDigits : ∀ c ∈ fraction, isAsciiDigit c = true)
    (ends : EndsNumber rest) :
    readNumber (numeralText whole fraction exponent ++ rest) =
      (numberOf false whole fraction exponent).map (·, rest) := by
  rw [← readUnsigned_numeralText false exponent isWhole allDigits ends]
  unfold readNumber
  split
  · rename_i tail equation
    exfalso
    cases whole with
    | nil => exact isWhole.nonempty rfl
    | cons c whole =>
        cases equation
        exact absurd (isWhole.digits '-' (by simp)) (by decide)
  · rfl

theorem readNumber_negative {whole fraction rest : List Char} (exponent : Option Int)
    (isWhole : IsWhole whole) (allDigits : ∀ c ∈ fraction, isAsciiDigit c = true)
    (ends : EndsNumber rest) :
    readNumber ('-' :: (numeralText whole fraction exponent ++ rest)) =
      (numberOf true whole fraction exponent).map (·, rest) :=
  readUnsigned_numeralText true exponent isWhole allDigits ends

/-! Integers. -/

theorem isWhole_toDigits (n : Nat) : IsWhole (Nat.toDigits 10 n) := by
  refine ⟨Nat.toDigits_ne_nil, fun _ => isAsciiDigit_of_mem_toDigits, ?_⟩
  intro leading
  cases equation : Nat.toDigits 10 n with
  | nil => exact absurd equation Nat.toDigits_ne_nil
  | cons c digits =>
      rw [equation] at leading
      cases leading
      rw [toDigits_leading_zero equation]

theorem numeralText_whole (whole : List Char) : numeralText whole [] none = whole := by
  simp [numeralText, fractionText, exponentText]

theorem readNumber_intText {value : Int} {rest : List Char} (low : -2 ^ 63 ≤ value)
    (high : value < 2 ^ 64) (ends : EndsNumber rest) :
    readNumber (intText value ++ rest) = some (int value, rest) := by
  cases value with
  | ofNat n =>
      have read := readNumber_numeralText none (isWhole_toDigits n) (List.forall_mem_nil _) ends
      rw [numeralText_whole] at read
      rw [intText, read]
      simp only [numberOf, digitsValue_eq, Nat.ofDigitChars_ten_toDigits, Bool.false_eq_true,
        if_false]
      rw [Int.ofNat_eq_natCast] at high
      rw [if_pos (by simp only [UInt64.size]; omega)]
      rfl
  | negSucc n =>
      have read := readNumber_negative none (isWhole_toDigits (n + 1)) (List.forall_mem_nil _)
        ends
      rw [numeralText_whole] at read
      rw [intText, List.cons_append, read]
      simp only [numberOf, digitsValue_eq, Nat.ofDigitChars_ten_toDigits, if_true]
      rw [if_pos (by rw [Nat.pow_eq]; omega)]
      rfl

/-! Numbers with a fraction. -/

def decimalRatio (digits : List Char) (place : Int) : ℚ :=
  Nat.ofDigitChars 10 digits 0 * 10 ^ place

theorem decimalRatio_append_zeros (digits : List Char) (count : Nat) (place : Int) :
    decimalRatio (digits ++ zeros count) place = decimalRatio digits (place + count) := by
  unfold decimalRatio zeros
  rw [Nat.ofDigitChars_append, Nat.ofDigitChars_replicate_zero, zpow_add₀ (by norm_num),
    zpow_natCast]
  push_cast
  ring

theorem decimalRatio_zeros_append (count : Nat) (digits : List Char) (place : Int) :
    decimalRatio (zeros count ++ digits) place = decimalRatio digits place := by
  unfold decimalRatio zeros
  rw [Nat.ofDigitChars_append, Nat.ofDigitChars_replicate_zero, Nat.mul_zero]

theorem isAsciiDigit_of_mem_zeros {c : Char} {count : Nat} (member : c ∈ zeros count) :
    isAsciiDigit c = true := by
  rw [List.eq_of_mem_replicate member]
  rfl

theorem isWhole_single {d : Char} (digit : isAsciiDigit d = true) : IsWhole [d] := by
  refine ⟨by simp, by simpa using digit, ?_⟩
  intro zero
  cases zero
  rfl

theorem IsWhole.of_leading {digits : List Char} (nonempty : digits ≠ [])
    (allDigits : ∀ c ∈ digits, isAsciiDigit c = true) (leading : digits.head? ≠ some '0') :
    IsWhole digits :=
  ⟨nonempty, allDigits, fun zero => absurd zero leading⟩

/-- A numeral, not of a whole number, that stands for a ratio. -/
def SaysRatio (text : List Char) (ratio : ℚ) : Prop :=
  ∃ whole fraction exponent,
    text = numeralText whole fraction exponent ∧ IsWhole whole ∧
    (∀ c ∈ fraction, isAsciiDigit c = true) ∧ (fraction = [] → exponent.isSome) ∧
    decimalRatio (whole ++ fraction) (exponent.getD 0 - fraction.length) = ratio

section Layouts

variable {digits : List Char}

theorem saysRatio_whole (nonempty : digits ≠ [])
    (allDigits : ∀ c ∈ digits, isAsciiDigit c = true) (leading : digits.head? ≠ some '0')
    {place : Int} (whole : 0 ≤ place) :
    SaysRatio (digits ++ zeros place.toNat ++ ['.', '0']) (decimalRatio digits place) := by
  refine ⟨digits ++ zeros place.toNat, zeros 1, none, ?_, ?_, ?_, ?_, ?_⟩
  · simp [numeralText, fractionText, exponentText, zeros]
  · refine IsWhole.of_leading (by simp [nonempty]) ?_ ?_
    · intro c member
      rcases List.mem_append.mp member with digit | zero
      · exact allDigits c digit
      · exact isAsciiDigit_of_mem_zeros zero
    · rwa [List.head?_append_of_ne_nil _ nonempty]
  · intro c member
    exact isAsciiDigit_of_mem_zeros member
  · simp [zeros]
  · rw [decimalRatio_append_zeros, decimalRatio_append_zeros]
    congr 1
    simp only [Option.getD_none, zeros, List.length_replicate]
    omega

theorem saysRatio_inside (allDigits : ∀ c ∈ digits, isAsciiDigit c = true)
    (leading : digits.head? ≠ some '0') {count : Nat} (positive : 0 < count)
    (shorter : count < digits.length) :
    SaysRatio (digits.take count ++ '.' :: digits.drop count)
      (decimalRatio digits (count - digits.length)) := by
  have behind : digits.drop count ≠ [] := by
    intro empty
    have := List.drop_eq_nil_iff.mp empty
    omega
  refine ⟨digits.take count, digits.drop count, none, ?_, ?_, ?_, ?_, ?_⟩
  · cases dropped : digits.drop count with
    | nil => exact absurd dropped behind
    | cons d rest => simp [numeralText, fractionText, exponentText]
  · refine IsWhole.of_leading ?_ (fun c member => allDigits c (List.mem_of_mem_take member)) ?_
    · apply List.ne_nil_of_length_pos
      rw [List.length_take]
      omega
    · rw [List.head?_take, if_neg (by omega)]
      exact leading
  · exact fun c member => allDigits c (List.mem_of_mem_drop member)
  · exact fun empty => absurd empty behind
  · rw [List.take_append_drop]
    congr 1
    simp only [Option.getD_none, List.length_drop]
    omega

theorem saysRatio_before (nonempty : digits ≠ [])
    (allDigits : ∀ c ∈ digits, isAsciiDigit c = true) (count : Nat) :
    SaysRatio ('0' :: '.' :: zeros count ++ digits)
      (decimalRatio digits (-(count + digits.length : Nat))) := by
  refine ⟨zeros 1, zeros count ++ digits, none, ?_, isWhole_single rfl, ?_, ?_, ?_⟩
  · have some : zeros count ++ digits ≠ [] := by simp [nonempty]
    cases shown : zeros count ++ digits with
    | nil => exact absurd shown some
    | cons d rest => simp [numeralText, fractionText, exponentText, zeros, ← shown]
  · intro c member
    rcases List.mem_append.mp member with zero | digit
    · exact isAsciiDigit_of_mem_zeros zero
    · exact allDigits c digit
  · simp [nonempty]
  · rw [decimalRatio_zeros_append, decimalRatio_zeros_append]
    congr 1
    simp only [Option.getD_none, zeros, List.length_append, List.length_replicate]
    omega

theorem saysRatio_exponent {d : Char} (allDigits : ∀ c ∈ d :: digits, isAsciiDigit c = true)
    (exponent : Int) :
    SaysRatio (numeralText [d] digits (some exponent))
      (decimalRatio (d :: digits) (exponent - digits.length)) :=
  ⟨[d], digits, some exponent, rfl, isWhole_single (allDigits d List.mem_cons_self),
    fun c member => allDigits c (List.mem_cons_of_mem _ member), fun _ => rfl, rfl⟩

end Layouts

theorem saysRatio_decimal {digits : List Char} (nonempty : digits ≠ [])
    (allDigits : ∀ c ∈ digits, isAsciiDigit c = true) (leading : digits.head? ≠ some '0')
    (layout : Layout) (place : Int) :
    SaysRatio (layout.decimal digits place) (decimalRatio digits place) := by
  have length : 0 < digits.length := List.length_pos_iff.mpr nonempty
  unfold Layout.decimal
  dsimp only
  split
  · split
    · rename_i whole
      exact saysRatio_whole nonempty allDigits leading whole
    · split
      · generalize countEq : (place + digits.length - 1).toNat + 1 = count
        have stated := saysRatio_inside allDigits leading (by omega : 0 < count) (by omega)
        rwa [show (count : Int) - digits.length = place by omega] at stated
      · generalize countEq : (-(place + digits.length - 1) - 1).toNat = count
        have stated := saysRatio_before nonempty allDigits count
        rwa [show -((count + digits.length : Nat) : Int) = place by omega] at stated
  · cases digits with
    | nil => exact absurd rfl nonempty
    | cons d digits =>
        have stated := saysRatio_exponent allDigits (place + (d :: digits).length - 1)
        have back : place + (d :: digits).length - 1 - digits.length = place := by
          simp only [List.length_cons]
          omega
        rw [back] at stated
        cases digits with
        | nil => exact stated
        | cons e digits => simpa [numeralText, fractionText, exponentText] using stated

theorem dropZeros_append (digits : List Char) (place : Int) :
    ∃ count, (dropZeros digits place).1 ++ zeros count = digits ∧
      (dropZeros digits place).2 = place + count := by
  have split := List.takeWhile_append_dropWhile (p := (· == '0')) (l := digits.reverse)
  have dropped : digits.reverse.takeWhile (· == '0') =
      zeros (digits.reverse.takeWhile (· == '0')).length := by
    refine List.eq_replicate_iff.mpr ⟨rfl, fun c member => ?_⟩
    have zero := List.mem_takeWhile_imp member
    exact beq_iff_eq.mp zero
  have whole : (digits.reverse.dropWhile (· == '0')).reverse ++
      zeros (digits.reverse.takeWhile (· == '0')).length = digits := by
    have reversed := congrArg List.reverse split
    rw [List.reverse_append, List.reverse_reverse, dropped] at reversed
    rwa [zeros, List.reverse_replicate] at reversed
  refine ⟨(digits.reverse.takeWhile (· == '0')).length, whole, ?_⟩
  have lengths := congrArg List.length whole
  simp only [List.length_append, zeros, List.length_replicate] at lengths
  simp only [dropZeros]
  omega

theorem numberOf_of_fraction {whole fraction : List Char} {exponent : Option Int}
    (fractional : fraction = [] → exponent.isSome) (negative : Bool) :
    numberOf negative whole fraction exponent =
      finiteReal? (Binary64.ofDecimal negative (Nat.ofDigitChars 10 (whole ++ fraction) 0)
        (exponent.getD 0 - fraction.length)) := by
  unfold numberOf
  split
  · cases fractional rfl
  · rw [digitsValue_eq]

theorem ne_nil_of_decimalRatio_pos {digits : List Char} {place : Int}
    (positive : 0 < decimalRatio digits place) : digits ≠ [] := by
  rintro rfl
  rw [decimalRatio, Nat.ofDigitChars_nil, Nat.cast_zero, zero_mul] at positive
  exact lt_irrefl _ positive

/-- Of the digits of a positive number, the first one is not zero. -/
theorem head?_ne_of_decimalRatio_pos {digits others : List Char} {place : Int} {n : Nat}
    (whole : digits ++ others = Nat.toDigits 10 n) (positive : 0 < decimalRatio digits place) :
    digits.head? ≠ some '0' := by
  intro zero
  cases digits with
  | nil => cases zero
  | cons c rest =>
      cases zero
      obtain ⟨rfl, -⟩ := List.append_eq_nil_iff.mp (toDigits_leading_zero whole.symm)
      rw [decimalRatio] at positive
      simp [Nat.ofDigitChars_cons] at positive

theorem exists_numeral_shortest (negative : Bool) {mantissa : Nat} {exponent : Int}
    (canonical : Binary64.IsCanonical mantissa exponent) (positive : 0 < mantissa) :
    ∃ whole fraction scale,
      listing.decimal
          (dropZeros (Nat.toDigits 10 (Binary64.shortest mantissa exponent).1)
            (Binary64.shortest mantissa exponent).2).1
          (dropZeros (Nat.toDigits 10 (Binary64.shortest mantissa exponent).1)
            (Binary64.shortest mantissa exponent).2).2 = numeralText whole fraction scale ∧
      IsWhole whole ∧ (∀ c ∈ fraction, isAsciiDigit c = true) ∧
      numberOf negative whole fraction scale =
        finiteReal? (Binary64.coded negative mantissa exponent) := by
  obtain ⟨nonzero, attracts⟩ := Binary64.shortest_attracts canonical positive
  generalize (Binary64.shortest mantissa exponent).1 = found at nonzero attracts ⊢
  generalize (Binary64.shortest mantissa exponent).2 = place at attracts ⊢
  obtain ⟨count, kept, moved⟩ := dropZeros_append (Nat.toDigits 10 found) place
  generalize dropZeros (Nat.toDigits 10 found) place = shown at kept moved ⊢
  have ratio : decimalRatio shown.1 shown.2 = found * 10 ^ place := by
    rw [moved, ← decimalRatio_append_zeros, kept, decimalRatio, Nat.ofDigitChars_ten_toDigits]
  have value : (0 : ℚ) < found * 10 ^ place := by
    have : (0 : ℚ) < found := by exact_mod_cast Nat.pos_of_ne_zero nonzero
    positivity
  have nonempty := ne_nil_of_decimalRatio_pos (ratio ▸ value)
  have leading := head?_ne_of_decimalRatio_pos kept (ratio ▸ value)
  have allDigits : ∀ c ∈ shown.1, isAsciiDigit c = true := fun c member =>
    isAsciiDigit_of_mem_toDigits (n := found) (by rw [← kept]; exact List.mem_append_left _ member)
  obtain ⟨whole, fraction, scale, text, isWhole, fractionDigits, fractional, same⟩ :=
    saysRatio_decimal nonempty allDigits leading listing shown.2
  refine ⟨whole, fraction, scale, text, isWhole, fractionDigits, ?_⟩
  rw [ratio, decimalRatio] at same
  rw [numberOf_of_fraction fractional,
    Binary64.ofDecimal_of_attracts negative ?_ canonical positive (same ▸ attracts)]
  intro zero
  rw [zero, Nat.cast_zero, zero_mul] at same
  exact absurd same (ne_of_lt value)

theorem finiteReal?_eq {x : Binary64} (finite : x.isFinite = true) :
    finiteReal? x = some (real x) :=
  if_pos finite

theorem exists_realText {x : Binary64} (finite : x.isFinite = true) :
    ∃ negative whole fraction scale,
      realText x = (if negative then '-' :: numeralText whole fraction scale
        else numeralText whole fraction scale) ∧
      IsWhole whole ∧ (∀ c ∈ fraction, isAsciiDigit c = true) ∧
      numberOf negative whole fraction scale = some (real x) := by
  cases decoded : x.decode with
  | infinite negative =>
      rw [Binary64.isFinite, decoded] at finite
      cases finite
  | notANumber =>
      rw [Binary64.isFinite, decoded] at finite
      cases finite
  | finite negative mantissa exponent =>
      obtain ⟨canonical, coded⟩ := Binary64.decode_eq_finite decoded
      rcases Nat.eq_zero_or_pos mantissa with zero | positive
      · refine ⟨negative, ['0'], ['0'], none, ?_, isWhole_single rfl,
          List.forall_mem_singleton.mpr rfl, ?_⟩
        · simp only [realText, Binary64.text?, decoded, if_pos zero]
          rfl
        · have least : exponent = -1074 := by
            rcases canonical.normal with least | normal
            · exact least
            · omega
          rw [numberOf_of_fraction (by simp)]
          have read : Binary64.ofDecimal negative (Nat.ofDigitChars 10 (['0'] ++ ['0']) 0)
              ((none : Option Int).getD 0 - ['0'].length) = x := by
            rw [coded, zero, least]
            rfl
          rw [read, finiteReal?_eq finite]
      · obtain ⟨whole, fraction, scale, text, isWhole, allDigits, number⟩ :=
          exists_numeral_shortest negative canonical positive
        refine ⟨negative, whole, fraction, scale, ?_, isWhole, allDigits, ?_⟩
        · simp only [realText, Binary64.text?, decoded, if_neg (Nat.ne_of_gt positive), text]
          rfl
        · rw [number, ← coded, finiteReal?_eq finite]

theorem readNumber_realText {x : Binary64} {rest : List Char} (finite : x.isFinite = true)
    (ends : EndsNumber rest) : readNumber (realText x ++ rest) = some (real x, rest) := by
  obtain ⟨negative, whole, fraction, scale, text, isWhole, allDigits, number⟩ :=
    exists_realText finite
  rw [text]
  cases negative with
  | false =>
      rw [if_neg (by decide), readNumber_numeralText scale isWhole allDigits ends, number]
      rfl
  | true =>
      rw [if_pos rfl, List.cons_append, readNumber_negative scale isWhole allDigits ends, number]
      rfl

end Json

end GigListings
