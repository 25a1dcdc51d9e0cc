import GigListings.Number.Shortest
import Mathlib.Tactic.ByContra
import Mathlib.Tactic.FieldSimp
import Mathlib.Tactic.Linarith
import Mathlib.Tactic.NormNum
import Mathlib.Tactic.Positivity
import Mathlib.Tactic.GCongr
import Mathlib.Algebra.Order.Field.Power
import Mathlib.Tactic.Ring
import Mathlib.Tactic.Qify
import Mathlib.Data.Rat.Cast.Order

namespace GigListings.Number.Binary64

/-! Rounding gives back a number from everything in its rounding interval. -/

theorem fractionBits_eq : fractionBits = 2 ^ 52 := rfl

/-- Whether `mantissa * 2 ^ exponent` is how a finite number is decoded. -/
structure IsCanonical (mantissa : Nat) (exponent : Int) : Prop where
  small : mantissa < 2 ^ 53
  least : -1074 ≤ exponent
  greatest : exponent ≤ 971
  normal : exponent = -1074 ∨ 2 ^ 52 ≤ mantissa

/-- The bits behind the sign. -/
def codeOf (mantissa : Nat) (exponent : Int) : Nat :=
  (exponent + 1074).toNat * fractionBits + mantissa

def coded (negative : Bool) (mantissa : Nat) (exponent : Int) : Binary64 :=
  ⟨UInt64.ofNat (signBit negative + codeOf mantissa exponent)⟩

theorem decode_eq_finite {x : Binary64} {negative : Bool} {mantissa : Nat} {exponent : Int}
    (decoded : x.decode = .finite negative mantissa exponent) :
    IsCanonical mantissa exponent ∧ x = coded negative mantissa exponent := by
  obtain ⟨bits⟩ := x
  have range := bits.toNat_lt
  have sign : signBit (bits.toNat / 2 ^ 63 == 1) = bits.toNat / 2 ^ 63 * 2 ^ 63 := by
    have cases : bits.toNat / 2 ^ 63 = 0 ∨ bits.toNat / 2 ^ 63 = 1 := by omega
    rcases cases with zero | one
    · rw [zero]
      rfl
    · rw [one]
      rfl
  unfold decode at decoded
  dsimp only at decoded
  split at decoded
  · split at decoded
    · cases decoded
    · cases decoded
  · split at decoded
    · rename_i notTop subnormal
      cases decoded
      simp only [fractionBits_eq, Nat.pow_eq] at notTop subnormal ⊢
      refine ⟨⟨by omega, by omega, by omega, .inl rfl⟩, ?_⟩
      simp only [coded, codeOf, sign, fractionBits_eq]
      congr 1
      apply UInt64.toNat.inj
      rw [UInt64.toNat_ofNat']
      omega
    · rename_i notTop normal
      cases decoded
      simp only [fractionBits_eq, Nat.pow_eq] at notTop normal ⊢
      refine ⟨⟨by omega, by omega, by omega, .inr (by omega)⟩, ?_⟩
      simp only [coded, codeOf, sign, fractionBits_eq]
      congr 1
      apply UInt64.toNat.inj
      rw [UInt64.toNat_ofNat']
      omega

theorem scaleDown_ratio (num den : Nat) (exponent : Int) :
    ((scaleDown num den exponent).1 : ℚ) / (scaleDown num den exponent).2 =
      num / den / 2 ^ exponent := by
  cases exponent with
  | ofNat e =>
      simp only [scaleDown, Nat.pow_eq, Int.ofNat_eq_natCast, zpow_natCast]
      push_cast
      rw [div_div]
  | negSucc e =>
      simp only [scaleDown, Nat.pow_eq, zpow_negSucc]
      push_cast
      rw [div_inv_eq_mul, div_mul_eq_mul_div]

theorem scaleDown_den_pos (num : Nat) {den : Nat} (positive : 0 < den) (exponent : Int) :
    0 < (scaleDown num den exponent).2 := by
  cases exponent with
  | ofNat e => exact Nat.mul_pos positive (Nat.pow_pos (by decide))
  | negSucc e => exact positive

theorem scaleDown_lt_iff (num : Nat) {den : Nat} (positive : 0 < den) (exponent : Int) :
    (scaleDown num den exponent).1 < fractionBits * (scaleDown num den exponent).2 ↔
      (num / den : ℚ) < 2 ^ 52 * 2 ^ exponent := by
  have scaledPos := scaleDown_den_pos num positive exponent
  have scaledRatio : (0 : ℚ) < (scaleDown num den exponent).2 := by exact_mod_cast scaledPos
  have two : (0 : ℚ) < 2 ^ exponent := by positivity
  rw [← div_lt_iff₀ two, ← scaleDown_ratio, div_lt_iff₀ scaledRatio, fractionBits_eq]
  exact_mod_cast Iff.rfl

theorem toRatio_ratio (mantissa : Nat) (exponent : Int) :
    ((toRatio mantissa exponent).1 : ℚ) / (toRatio mantissa exponent).2 =
      mantissa * 2 ^ exponent := by
  cases exponent with
  | ofNat e =>
      simp only [toRatio, Nat.pow_eq, Int.ofNat_eq_natCast, zpow_natCast]
      push_cast
      rw [div_one]
  | negSucc e =>
      simp only [toRatio, Nat.pow_eq, zpow_negSucc]
      push_cast
      rw [div_eq_mul_inv]

/-- Whether a ratio is rounded to a whole number, to which it may lie half way only if that is
even. -/
structure RoundsTo (whole : Nat) (ratio : ℚ) : Prop where
  low : whole - 1 / 2 ≤ ratio
  high : ratio ≤ whole + 1 / 2
  strict : whole % 2 = 1 → whole - 1 / 2 < ratio ∧ ratio < whole + 1 / 2

theorem RoundsTo.scaled {num den whole : Nat} (positive : 0 < den)
    (rounds : RoundsTo whole (num / den)) :
    2 * (den * whole) ≤ 2 * num + den ∧ 2 * num ≤ 2 * (den * whole) + den ∧
      (whole % 2 = 1 → 2 * (den * whole) < 2 * num + den ∧ 2 * num < 2 * (den * whole) + den) := by
  have positiveRatio : (0 : ℚ) < den := by exact_mod_cast positive
  obtain ⟨low, high, strict⟩ := rounds
  rw [le_div_iff₀ positiveRatio] at low
  rw [div_le_iff₀ positiveRatio] at high
  rw [lt_div_iff₀ positiveRatio, div_lt_iff₀ positiveRatio] at strict
  refine ⟨?_, ?_, fun odd => ?_⟩
  · qify
    linarith
  · qify
    linarith
  · obtain ⟨under, beyond⟩ := strict odd
    constructor
    · qify
      linarith
    · qify
      linarith

theorem roundDiv_eq {num den whole : Nat} (positive : 0 < den)
    (rounds : RoundsTo whole (num / den)) : roundDiv num den = whole := by
  obtain ⟨low, high, strict⟩ := rounds.scaled positive
  have split := Nat.div_add_mod num den
  have remainder := Nat.mod_lt num positive
  have lower : num / den ≤ whole := by
    by_contra less
    have step := Nat.mul_le_mul_left den (show whole + 1 ≤ num / den by omega)
    rw [Nat.mul_add, Nat.mul_one] at step
    omega
  have upper : whole ≤ num / den + 1 := by
    by_contra more
    have step := Nat.mul_le_mul_left den (show num / den + 2 ≤ whole by omega)
    rw [Nat.mul_add] at step
    omega
  have cases : whole = num / den ∨ whole = num / den + 1 := by omega
  unfold roundDiv
  dsimp only
  rcases cases with down | up
  · rw [down] at low high strict ⊢
    split
    · rfl
    · split
      · omega
      · split
        · rfl
        · rename_i odd
          have := strict (by omega)
          omega
  · rw [up, Nat.mul_add, Nat.mul_one] at low high strict
    rw [up]
    split
    · omega
    · split
      · rfl
      · split
        · rename_i even
          have := strict (by omega)
          omega
        · rfl

theorem roundDiv_near (num : Nat) {den : Nat} (positive : 0 < den) :
    (roundDiv num den : ℚ) - 1 / 2 ≤ num / den ∧ (num / den : ℚ) ≤ roundDiv num den + 1 / 2 := by
  have positiveRatio : (0 : ℚ) < den := by exact_mod_cast positive
  have near : 2 * (den * roundDiv num den) ≤ 2 * num + den ∧
      2 * num ≤ 2 * (den * roundDiv num den) + den := by
    have split := Nat.div_add_mod num den
    have remainder := Nat.mod_lt num positive
    unfold roundDiv
    dsimp only
    split
    · omega
    · split
      · rw [Nat.mul_add]
        omega
      · split
        · omega
        · rw [Nat.mul_add]
          omega
  obtain ⟨low, high⟩ := near
  rw [le_div_iff₀ positiveRatio, div_le_iff₀ positiveRatio]
  qify at low high
  constructor
  · linarith
  · linarith

theorem log2_bounds {n : Nat} (positive : 0 < n) :
    (2 : ℚ) ^ (n.log2 : Int) ≤ n ∧ (n : ℚ) < 2 ^ ((n.log2 : Int) + 1) := by
  have low := Nat.log2_self_le (Nat.pos_iff_ne_zero.mp positive)
  have high := Nat.lt_log2_self (n := n)
  rw [zpow_natCast, ← Nat.cast_succ, zpow_natCast]
  exact ⟨by exact_mod_cast low, by exact_mod_cast high⟩

/-- The lengths of numerator and denominator leave the ratio between 51 and 53 binary digits. -/
theorem quotient_bounds {num den : Nat} (numPos : 0 < num) (denPos : 0 < den) :
    (2 : ℚ) ^ 51 * 2 ^ ((num.log2 : Int) - den.log2 - 52) ≤ num / den ∧
      (num / den : ℚ) < 2 ^ 53 * 2 ^ ((num.log2 : Int) - den.log2 - 52) := by
  have denRatio : (0 : ℚ) < den := by exact_mod_cast denPos
  obtain ⟨numLow, numHigh⟩ := log2_bounds numPos
  obtain ⟨denLow, denHigh⟩ := log2_bounds denPos
  constructor
  · rw [le_div_iff₀ denRatio]
    calc (2 : ℚ) ^ 51 * 2 ^ ((num.log2 : Int) - den.log2 - 52) * den
        ≤ 2 ^ 51 * 2 ^ ((num.log2 : Int) - den.log2 - 52) * 2 ^ ((den.log2 : Int) + 1) := by
          gcongr
      _ = 2 ^ (num.log2 : Int) := by
          rw [← zpow_natCast, ← zpow_add₀ (by norm_num), ← zpow_add₀ (by norm_num)]
          congr 1
          push_cast
          ring
      _ ≤ num := numLow
  · rw [div_lt_iff₀ denRatio]
    calc (num : ℚ) < 2 ^ ((num.log2 : Int) + 1) := numHigh
      _ = 2 ^ 53 * 2 ^ ((num.log2 : Int) - den.log2 - 52) * 2 ^ (den.log2 : Int) := by
          rw [← zpow_natCast, ← zpow_add₀ (by norm_num), ← zpow_add₀ (by norm_num)]
          congr 1
          push_cast
          ring
      _ ≤ 2 ^ 53 * 2 ^ ((num.log2 : Int) - den.log2 - 52) * den := by gcongr

/-- The exponent brings the ratio below 53 binary digits, and to 53 of them unless it is the
least one. -/
theorem ratioExponent_bounds {num den : Nat} (numPos : 0 < num) (denPos : 0 < den) :
    -1074 ≤ ratioExponent num den ∧
    (num / den : ℚ) < 2 ^ 53 * 2 ^ ratioExponent num den ∧
    (ratioExponent num den = -1074 ∨
      (2 : ℚ) ^ 52 * 2 ^ ratioExponent num den ≤ num / den) := by
  obtain ⟨low, high⟩ := quotient_bounds numPos denPos
  unfold ratioExponent
  dsimp only
  generalize (num.log2 : Int) - den.log2 - 52 = guess at low high ⊢
  have exact : ∃ e, (if (scaleDown num den guess).1 < fractionBits * (scaleDown num den guess).2
      then guess - 1 else guess) = e ∧
      (2 : ℚ) ^ 52 * 2 ^ e ≤ num / den ∧ (num / den : ℚ) < 2 ^ 53 * 2 ^ e := by
    have below := scaleDown_lt_iff num denPos guess
    split
    · rename_i short
      refine ⟨guess - 1, rfl, ?_, ?_⟩
      · rw [zpow_sub_one₀ (by norm_num)]
        linarith
      · rw [zpow_sub_one₀ (by norm_num)]
        linarith [below.mp short]
    · rename_i long
      exact ⟨guess, rfl, not_lt.mp (mt below.mpr long), high⟩
  obtain ⟨e, equation, low, high⟩ := exact
  rw [equation]
  refine ⟨le_max_right _ _, ?_, ?_⟩
  · refine lt_of_lt_of_le high ?_
    have least : e ≤ max e (-1074) := le_max_left _ _
    gcongr
    norm_num
  · rcases le_total e (-1074) with small | large
    · left
      exact max_eq_right small
    · right
      rw [max_eq_left large]
      exact low

/-- How far below a number, in units of its last digit, ratios are rounded to it. Below a power of
two the numbers lie twice as close. -/
def lowerShare (mantissa : Nat) (exponent : Int) : ℚ :=
  if mantissa = fractionBits ∧ -1074 < exponent then 1 / 4 else 1 / 2

/-- Whether a ratio lies in the rounding interval of `mantissa * 2 ^ exponent`. -/
structure Attracts (mantissa : Nat) (exponent : Int) (ratio : ℚ) : Prop where
  low : (mantissa - lowerShare mantissa exponent) * 2 ^ exponent ≤ ratio
  high : ratio ≤ (mantissa + 1 / 2) * 2 ^ exponent
  strict : mantissa % 2 = 1 →
    (mantissa - lowerShare mantissa exponent) * 2 ^ exponent < ratio ∧
      ratio < (mantissa + 1 / 2) * 2 ^ exponent

theorem lowerShare_le (mantissa : Nat) (exponent : Int) : lowerShare mantissa exponent ≤ 1 / 2 := by
  unfold lowerShare
  split
  · norm_num
  · exact le_refl _

/-- Powers of two whose exponents lie so far apart. -/
theorem two_zpow_mul_le {e f : Int} (n : Nat) (apart : e + n ≤ f) :
    (2 : ℚ) ^ e * 2 ^ n ≤ 2 ^ f := by
  rw [← zpow_natCast, ← zpow_add₀ (by norm_num)]
  gcongr
  norm_num

theorem IsCanonical.mantissa_add_one_le {mantissa : Nat} {exponent : Int}
    (canonical : IsCanonical mantissa exponent) : (mantissa : ℚ) + 1 ≤ 2 ^ 53 := by
  have small : mantissa + 1 ≤ 2 ^ 53 := canonical.small
  exact_mod_cast small

section Attracted

variable {num den mantissa : Nat} {exponent : Int} (numPos : 0 < num) (denPos : 0 < den)
  (canonical : IsCanonical mantissa exponent) (attracts : Attracts mantissa exponent (num / den))
include numPos denPos canonical attracts

theorem ratioExponent_le_of_attracts : ratioExponent num den ≤ exponent := by
  obtain ⟨-, -, normal⟩ := ratioExponent_bounds numPos denPos
  have lowest := canonical.least
  by_contra above
  rcases normal with isLeast | normal
  · omega
  · have doubled : (2 : ℚ) ^ exponent * 2 ^ 1 ≤ 2 ^ ratioExponent num den :=
      two_zpow_mul_le 1 (by omega)
    have high := attracts.high
    have small := canonical.mantissa_add_one_le
    have unit : (0 : ℚ) < 2 ^ exponent := by positivity
    nlinarith

/-- The exponent of a ratio in the interval is that of the number, or one less if the number is a
power of two and the ratio lies below it. -/
theorem ratioExponent_of_attracts :
    ratioExponent num den = exponent ∨
      ratioExponent num den = exponent - 1 ∧ mantissa = 2 ^ 52 ∧ -1074 < exponent ∧
        (num / den : ℚ) < 2 ^ 52 * 2 ^ exponent := by
  obtain ⟨least, below, -⟩ := ratioExponent_bounds numPos denPos
  have notAbove := ratioExponent_le_of_attracts numPos denPos canonical attracts
  have share := lowerShare_le mantissa exponent
  have low := attracts.low
  have unit : (0 : ℚ) < 2 ^ exponent := by positivity
  rcases Int.lt_or_eq_of_le notAbove with less | same
  · right
    have large : (2 : ℚ) ^ 52 ≤ mantissa := by
      rcases canonical.normal with isLeast | large
      · omega
      · exact_mod_cast large
    have halved : (2 : ℚ) ^ ratioExponent num den * 2 ^ 1 ≤ 2 ^ exponent :=
      two_zpow_mul_le 1 (by omega)
    have under : (num / den : ℚ) < 2 ^ 52 * 2 ^ exponent := by linarith
    have exactly : mantissa = 2 ^ 52 := by
      have : (mantissa : ℚ) < 2 ^ 52 + 1 := by nlinarith
      have upper : mantissa < 2 ^ 52 + 1 := by exact_mod_cast this
      have lower : 2 ^ 52 ≤ mantissa := by exact_mod_cast large
      omega
    refine ⟨?_, exactly, by omega, under⟩
    -- Two less would leave the ratio below half the least number with so many digits.
    by_contra other
    have quartered : (2 : ℚ) ^ ratioExponent num den * 2 ^ 2 ≤ 2 ^ exponent :=
      two_zpow_mul_le 2 (by omega)
    nlinarith
  · exact .inl same

end Attracted

theorem codeOf_lt {mantissa : Nat} {exponent : Int} (canonical : IsCanonical mantissa exponent) :
    codeOf mantissa exponent < 2047 * fractionBits := by
  have small := canonical.small
  have least := canonical.least
  have greatest := canonical.greatest
  unfold codeOf
  rw [fractionBits_eq]
  omega

section Attracted

variable {num den mantissa : Nat} {exponent : Int} (denPos : 0 < den)
  (attracts : Attracts mantissa exponent (num / den))
include denPos attracts

theorem roundDiv_of_attracts :
    roundDiv (scaleDown num den exponent).1 (scaleDown num den exponent).2 = mantissa := by
  have share := lowerShare_le mantissa exponent
  have unit : (0 : ℚ) < 2 ^ exponent := by positivity
  apply roundDiv_eq (scaleDown_den_pos num denPos exponent)
  rw [scaleDown_ratio]
  refine ⟨?_, ?_, fun odd => ⟨?_, ?_⟩⟩
  · rw [le_div_iff₀ unit]
    nlinarith [attracts.low]
  · rw [div_le_iff₀ unit]
    exact attracts.high
  · rw [lt_div_iff₀ unit]
    nlinarith [(attracts.strict odd).1]
  · rw [div_lt_iff₀ unit]
    exact (attracts.strict odd).2

/-- Below a power of two the last digits are half as large, and rounding carries over to it. -/
theorem roundDiv_of_attracts_below (power : mantissa = 2 ^ 52) (notLeast : -1074 < exponent)
    (under : (num / den : ℚ) < 2 ^ 52 * 2 ^ exponent) :
    roundDiv (scaleDown num den (exponent - 1)).1 (scaleDown num den (exponent - 1)).2 =
      2 ^ 53 := by
  have quarter : lowerShare mantissa exponent = 1 / 4 := if_pos ⟨power, notLeast⟩
  have halfUnit : (0 : ℚ) < 2 ^ (exponent - 1) := by positivity
  have half : (2 : ℚ) ^ exponent = 2 * 2 ^ (exponent - 1) := by
    rw [zpow_sub_one₀ (by norm_num)]
    ring
  have low := attracts.low
  rw [quarter, power, half] at low
  rw [half] at under
  apply roundDiv_eq (scaleDown_den_pos num denPos (exponent - 1))
  rw [scaleDown_ratio]
  push_cast at low ⊢
  refine ⟨?_, ?_, fun odd => ?_⟩
  · rw [le_div_iff₀ halfUnit]
    linarith
  · rw [div_le_iff₀ halfUnit]
    linarith
  · norm_num at odd

end Attracted

/-- What lies in the rounding interval of a number is rounded to it. -/
theorem ofRatio_of_attracts (negative : Bool) {num den mantissa : Nat} {exponent : Int}
    (numPos : 0 < num) (denPos : 0 < den) (canonical : IsCanonical mantissa exponent)
    (attracts : Attracts mantissa exponent (num / den)) :
    ofRatio negative num den = coded negative mantissa exponent := by
  have code : (ratioExponent num den + 1074).toNat * fractionBits +
      roundDiv (scaleDown num den (ratioExponent num den)).1
        (scaleDown num den (ratioExponent num den)).2 = codeOf mantissa exponent := by
    rcases ratioExponent_of_attracts numPos denPos canonical attracts with same | below
    · rw [same, roundDiv_of_attracts denPos attracts]
      rfl
    · obtain ⟨lower, power, notLeast, under⟩ := below
      rw [lower, roundDiv_of_attracts_below denPos attracts power notLeast under, codeOf, power,
        fractionBits_eq]
      omega
  unfold ofRatio
  rw [if_neg (by omega)]
  dsimp only
  rw [code, if_pos (codeOf_lt canonical)]
  rfl

theorem lt_pow_length_toDigits (n : Nat) : n < 10 ^ (Nat.toDigits 10 n).length :=
  (Nat.length_toDigits_le_iff (by decide) Nat.length_toDigits_pos).mp (le_refl _)

theorem pow_length_toDigits_le {n : Nat} (positive : 0 < n) :
    10 ^ ((Nat.toDigits 10 n).length - 1) ≤ n := by
  by_contra less
  rcases Nat.eq_zero_or_pos ((Nat.toDigits 10 n).length - 1) with zero | more
  · rw [zero] at less
    omega
  · have shorter := (Nat.length_toDigits_le_iff (b := 10) (by decide) more).mpr (Nat.not_le.mp less)
    omega

theorem length_toDigits_bounds {n : Nat} (positive : 0 < n) :
    (10 : ℚ) ^ (((Nat.toDigits 10 n).length : Int) - 1) ≤ n ∧
      (n : ℚ) < 10 ^ ((Nat.toDigits 10 n).length : Int) := by
  have length : 0 < (Nat.toDigits 10 n).length := Nat.length_toDigits_pos
  have low := pow_length_toDigits_le positive
  have high := lt_pow_length_toDigits n
  rw [← Nat.cast_pred length, zpow_natCast, zpow_natCast]
  exact ⟨by exact_mod_cast low, by exact_mod_cast high⟩

theorem pow_two_lt {n : Nat} (small : n ≤ 1200) : (2 : ℚ) ^ n < 10 ^ 400 := by
  calc (2 : ℚ) ^ n ≤ 2 ^ (3 * 400) := pow_le_pow_right₀ (by norm_num) small
    _ = (2 ^ 3) ^ 400 := pow_mul 2 3 400
    _ < 10 ^ 400 := pow_lt_pow_left₀ (by norm_num) (by norm_num) (by norm_num)

theorem Attracts.bounds {mantissa : Nat} {exponent : Int} {ratio : ℚ}
    (attracts : Attracts mantissa exponent ratio) (canonical : IsCanonical mantissa exponent)
    (positive : 0 < mantissa) :
    (10 : ℚ) ^ (-400 : Int) < ratio ∧ ratio < 10 ^ (400 : Int) := by
  have share := lowerShare_le mantissa exponent
  have low := attracts.low
  have high := attracts.high
  have unit : (0 : ℚ) < 2 ^ exponent := by positivity
  have one : (1 : ℚ) ≤ mantissa := by exact_mod_cast positive
  have small := canonical.mantissa_add_one_le
  have least : (2 : ℚ) ^ (-1074 : Int) ≤ 2 ^ exponent := by
    have := canonical.least
    gcongr
    norm_num
  have greatest : (2 : ℚ) ^ exponent ≤ 2 ^ (971 : Int) := by
    have := canonical.greatest
    gcongr
    norm_num
  constructor
  · calc (10 : ℚ) ^ (-400 : Int) = (10 ^ 400)⁻¹ := rfl
      _ < (2 ^ 1075)⁻¹ := inv_strictAnti₀ (by positivity) (pow_two_lt (by norm_num))
      _ = 1 / 2 * 2 ^ (-1074 : Int) := by
          rw [pow_succ, mul_inv, mul_comm, one_div]
          congr 1
      _ ≤ 1 / 2 * 2 ^ exponent := by gcongr
      _ ≤ (mantissa - lowerShare mantissa exponent) * 2 ^ exponent := by
          gcongr
          linarith
      _ ≤ ratio := low
  · calc ratio ≤ (mantissa + 1 / 2) * 2 ^ exponent := high
      _ ≤ 2 ^ 53 * 2 ^ exponent := by
          gcongr
          linarith
      _ ≤ 2 ^ 53 * 2 ^ (971 : Int) := by gcongr
      _ = 2 ^ (53 + 971) := (pow_add 2 53 971).symm
      _ < 10 ^ 400 := pow_two_lt (by norm_num)

theorem ofDecimal_of_attracts (negative : Bool) {digits : Nat} {place : Int} {mantissa : Nat}
    {exponent : Int} (nonzero : digits ≠ 0) (canonical : IsCanonical mantissa exponent)
    (positive : 0 < mantissa) (attracts : Attracts mantissa exponent (digits * 10 ^ place)) :
    ofDecimal negative digits place = coded negative mantissa exponent := by
  have digitsPos : 0 < digits := Nat.pos_of_ne_zero nonzero
  obtain ⟨above, below⟩ := attracts.bounds canonical positive
  obtain ⟨low, high⟩ := length_toDigits_bounds digitsPos
  unfold ofDecimal
  dsimp only
  generalize ((Nat.toDigits 10 digits).length : Int) = size at low high ⊢
  have grid : (0 : ℚ) < 10 ^ place := by positivity
  have notSmall : -400 < size + place := by
    rw [← zpow_lt_zpow_iff_right₀ (show (1 : ℚ) < 10 by norm_num), zpow_add₀ (by norm_num)]
    refine lt_trans above ?_
    gcongr
  have notLarge : size - 1 + place < 400 := by
    rw [← zpow_lt_zpow_iff_right₀ (show (1 : ℚ) < 10 by norm_num), zpow_add₀ (by norm_num)]
    refine lt_of_le_of_lt ?_ below
    gcongr
  rw [if_neg nonzero, if_neg (by unfold exponentBound; omega),
    if_neg (by unfold exponentBound; omega)]
  cases place with
  | ofNat p =>
      apply ofRatio_of_attracts negative (Nat.mul_pos digitsPos (Nat.pow_pos (by decide)))
        Nat.one_pos canonical
      simpa using attracts
  | negSucc p =>
      apply ofRatio_of_attracts negative digitsPos (Nat.pow_pos (by decide)) canonical
      simpa [zpow_negSucc, div_eq_mul_inv] using attracts

theorem signBit_cases (negative : Bool) : signBit negative = 0 ∨ signBit negative = 2 ^ 63 := by
  cases negative with
  | false => exact .inl rfl
  | true => exact .inr rfl

theorem isFinite_of_code (negative : Bool) {code : Nat} (small : code < 2047 * fractionBits) :
    isFinite ⟨UInt64.ofNat (signBit negative + code)⟩ = true := by
  rw [fractionBits_eq] at small
  have bits : (UInt64.ofNat (signBit negative + code)).toNat = signBit negative + code := by
    rw [UInt64.toNat_ofNat']
    rcases signBit_cases negative with sign | sign
    · omega
    · omega
  have field : (signBit negative + code) / 2 ^ 52 % 2048 ≠ 2047 := by
    rcases signBit_cases negative with sign | sign
    · omega
    · omega
  unfold isFinite decode
  dsimp only
  rw [bits, fractionBits_eq, if_neg field]
  split
  · rfl
  · rename_i infinite
    exfalso
    split at infinite
    · exact infinite _ _ _ rfl
    · exact infinite _ _ _ rfl

theorem ratioExponent_lt_of_lt {n : Nat} (positive : 0 < n) (small : n < 2 ^ 64) :
    ratioExponent n 1 < 13 := by
  obtain ⟨-, -, normal⟩ := ratioExponent_bounds positive Nat.one_pos
  rw [Nat.cast_one, div_one] at normal
  rcases normal with isLeast | normal
  · omega
  · have bound : (n : ℚ) < 2 ^ 64 := by exact_mod_cast small
    have power : (2 : ℚ) ^ 52 * 2 ^ ratioExponent n 1 < 2 ^ 52 * 2 ^ (13 : Int) := by
      refine lt_trans (lt_of_le_of_lt normal bound) ?_
      norm_num
    rw [mul_lt_mul_iff_right₀ (by norm_num)] at power
    exact (zpow_lt_zpow_iff_right₀ (by norm_num)).mp power

/-- At its exponent a ratio is rounded to 53 binary digits, or up to the next power of two. -/
theorem roundDiv_ratioExponent_le {num den : Nat} (numPos : 0 < num) (denPos : 0 < den) :
    roundDiv (scaleDown num den (ratioExponent num den)).1
      (scaleDown num den (ratioExponent num den)).2 ≤ 2 ^ 53 := by
  obtain ⟨-, below, -⟩ := ratioExponent_bounds numPos denPos
  have scaledPos := scaleDown_den_pos num denPos (ratioExponent num den)
  obtain ⟨near, -⟩ := roundDiv_near (scaleDown num den (ratioExponent num den)).1 scaledPos
  have unit : (0 : ℚ) < 2 ^ ratioExponent num den := by positivity
  rw [scaleDown_ratio] at near
  rw [← div_lt_iff₀ unit] at below
  generalize roundDiv _ _ = rounded at near ⊢
  have bound : (rounded : ℚ) < 2 ^ 53 + 1 := by linarith
  have whole : rounded < 2 ^ 53 + 1 := by exact_mod_cast bound
  exact Nat.le_of_lt_succ whole

theorem isFinite_ofNat {n : Nat} (small : n < 2 ^ 64) (negative : Bool) :
    (ofRatio negative n 1).isFinite = true := by
  unfold ofRatio
  split
  · exact isFinite_of_code negative (show 0 < 2047 * fractionBits by decide)
  · have positive : 0 < n := by omega
    have greatest := ratioExponent_lt_of_lt positive small
    have rounded := roundDiv_ratioExponent_le positive Nat.one_pos
    have bounded : (ratioExponent n 1 + 1074).toNat * fractionBits +
        roundDiv (scaleDown n 1 (ratioExponent n 1)).1
          (scaleDown n 1 (ratioExponent n 1)).2 < 2047 * fractionBits := by
      rw [fractionBits_eq]
      omega
    dsimp only
    rw [if_pos bounded]
    exact isFinite_of_code negative bounded

end GigListings.Number.Binary64
