import GigListings.Proofs.Number.Rounding
import Mathlib.Data.Nat.Cast.Order.Field

namespace GigListings.Number.Binary64

/-! The shortest digits of a number lie in its rounding interval. -/

theorem leadingPlace_le {num den : Nat} (numPos : 0 < num) (denPos : 0 < den) :
    (10 : ℚ) ^ leadingPlace num den ≤ num / den := by
  have denRatio : (0 : ℚ) < den := by exact_mod_cast denPos
  unfold leadingPlace
  split
  · rename_i atLeast
    obtain ⟨low, -⟩ := length_toDigits_bounds (Nat.div_pos atLeast denPos)
    exact le_trans low Nat.cast_div_le
  · rename_i less
    dsimp only
    have quotient := Nat.div_pos (show num ≤ den by omega) numPos
    have high := lt_pow_length_toDigits (den / num)
    have length : 0 < (Nat.toDigits 10 (den / num)).length := Nat.length_toDigits_pos
    generalize (Nat.toDigits 10 (den / num)).length = size at high length ⊢
    rw [le_div_iff₀ denRatio]
    split
    · rw [Nat.div_lt_iff_lt_mul numPos] at high
      rw [zpow_neg, zpow_natCast, inv_mul_le_iff₀ (by positivity)]
      exact_mod_cast Nat.le_of_lt high
    · rename_i enough
      rw [← Nat.cast_pred length, zpow_neg, zpow_natCast, inv_mul_le_iff₀ (by positivity), mul_comm]
      rw [Nat.pow_eq] at enough
      exact_mod_cast Nat.not_lt.mp enough

theorem toRatio_fst (mantissa : Nat) (exponent : Int) :
    (toRatio mantissa exponent).1 = mantissa * (toRatio 1 exponent).1 := by
  cases exponent with
  | ofNat e => simp [toRatio]
  | negSucc e => simp [toRatio]

theorem toRatio_snd (mantissa : Nat) (exponent : Int) :
    (toRatio mantissa exponent).2 = (toRatio 1 exponent).2 := by
  cases exponent with
  | ofNat e => rfl
  | negSucc e => rfl

theorem toRatio_snd_pos (mantissa : Nat) (exponent : Int) : 0 < (toRatio mantissa exponent).2 := by
  cases exponent with
  | ofNat e => exact Nat.one_pos
  | negSucc e => exact Nat.pow_pos (by decide)

section Ends

variable {mantissa : Nat} (exponent : Int)

theorem interval_den_pos (mantissa : Nat) : 0 < (interval mantissa exponent).den :=
  Nat.mul_pos (by decide) (toRatio_snd_pos mantissa exponent)

theorem interval_value (mantissa : Nat) :
    ((interval mantissa exponent).value : ℚ) / (interval mantissa exponent).den =
      mantissa * 2 ^ exponent := by
  rw [← toRatio_ratio]
  simp only [interval]
  push_cast
  rw [mul_div_mul_left _ _ (by norm_num)]

theorem interval_high (mantissa : Nat) :
    ((interval mantissa exponent).high : ℚ) / (interval mantissa exponent).den =
      (mantissa + 1 / 2) * 2 ^ exponent := by
  have unit := toRatio_ratio 1 exponent
  have positive : ((toRatio 1 exponent).2 : ℚ) ≠ 0 := by
    exact_mod_cast Nat.ne_of_gt (toRatio_snd_pos 1 exponent)
  simp only [interval, toRatio_fst mantissa, toRatio_snd mantissa]
  rw [Nat.cast_one, one_mul] at unit
  rw [← unit]
  push_cast
  field_simp
  ring

theorem interval_low (positive : 0 < mantissa) :
    ((interval mantissa exponent).low : ℚ) / (interval mantissa exponent).den =
      (mantissa - lowerShare mantissa exponent) * 2 ^ exponent := by
  have unit := toRatio_ratio 1 exponent
  have denNe : ((toRatio 1 exponent).2 : ℚ) ≠ 0 := by
    exact_mod_cast Nat.ne_of_gt (toRatio_snd_pos 1 exponent)
  have covers (gap : Nat) (small : gap ≤ 4) :
      gap * (toRatio 1 exponent).1 ≤ 4 * (mantissa * (toRatio 1 exponent).1) := by
    rw [← Nat.mul_assoc]
    exact Nat.mul_le_mul_right _ (by omega)
  simp only [interval, toRatio_fst mantissa, toRatio_snd mantissa, lowerShare]
  rw [Nat.cast_one, one_mul] at unit
  rw [← unit]
  split
  · rw [Nat.cast_sub (covers 1 (by decide))]
    push_cast
    field_simp
  · rw [Nat.cast_sub (covers 2 (by decide))]
    push_cast
    field_simp
    ring

end Ends

theorem Interval.holds_iff {i : Interval} (denPos : 0 < i.den) (digits : Nat) (place : Int) :
    i.holds digits place = true ↔
      if i.closed then
        (i.low / i.den : ℚ) ≤ digits * 10 ^ place ∧ (digits * 10 ^ place : ℚ) ≤ i.high / i.den
      else (i.low / i.den : ℚ) < digits * 10 ^ place ∧
        (digits * 10 ^ place : ℚ) < i.high / i.den := by
  have denRatio : (0 : ℚ) < i.den := by exact_mod_cast denPos
  cases place with
  | ofNat p =>
      simp only [holds, Nat.pow_eq, Int.ofNat_eq_natCast, zpow_natCast, div_le_iff₀ denRatio,
        le_div_iff₀ denRatio, div_lt_iff₀ denRatio, lt_div_iff₀ denRatio]
      split
      · simp only [Bool.and_eq_true, decide_eq_true_eq, Nat.mul_one]
        norm_cast
      · simp only [Bool.and_eq_true, decide_eq_true_eq, Nat.mul_one]
        norm_cast
  | negSucc p =>
      have power : (0 : ℚ) < 10 ^ (p + 1) := by positivity
      have value : (digits * 10 ^ Int.negSucc p : ℚ) = digits / 10 ^ (p + 1) := by
        rw [zpow_negSucc, div_eq_mul_inv]
      rw [value]
      simp only [holds, Nat.pow_eq, div_le_div_iff₀ denRatio power, div_lt_div_iff₀ denRatio power,
        div_le_div_iff₀ power denRatio, div_lt_div_iff₀ power denRatio]
      split
      · simp only [Bool.and_eq_true, decide_eq_true_eq]
        norm_cast
      · simp only [Bool.and_eq_true, decide_eq_true_eq]
        norm_cast

theorem holds_interval_iff {mantissa : Nat} (positive : 0 < mantissa) (exponent : Int)
    (digits : Nat) (place : Int) :
    (interval mantissa exponent).holds digits place = true ↔
      Attracts mantissa exponent (digits * 10 ^ place) := by
  have share : 0 < lowerShare mantissa exponent := by
    unfold lowerShare
    split
    · norm_num
    · norm_num
  have closed : (interval mantissa exponent).closed = decide (mantissa % 2 = 0) := rfl
  rw [Interval.holds_iff (interval_den_pos exponent mantissa), interval_low exponent positive,
    interval_high, closed]
  by_cases even : mantissa % 2 = 0
  · rw [decide_eq_true even, if_pos rfl]
    exact ⟨fun ⟨low, high⟩ => ⟨low, high, fun odd => by omega⟩, fun inside => ⟨inside.1, inside.2⟩⟩
  · rw [decide_eq_false even, if_neg (by decide)]
    exact ⟨fun ⟨low, high⟩ => ⟨le_of_lt low, le_of_lt high, fun _ => ⟨low, high⟩⟩,
      fun inside => inside.3 (by omega)⟩

theorem roundDiv_mem_neighbours (num den : Nat) :
    roundDiv num den = num / den ∨ roundDiv num den = num / den + 1 := by
  unfold roundDiv
  dsimp only
  split
  · exact .inl rfl
  · split
    · exact .inr rfl
    · split
      · exact .inl rfl
      · exact .inr rfl

theorem Interval.exists_near {i : Interval} (denPos : 0 < i.den) (place : Int) :
    ∃ digits ∈ i.neighbours place,
      (i.value / i.den : ℚ) - 10 ^ place / 2 ≤ digits * 10 ^ place ∧
        (digits * 10 ^ place : ℚ) ≤ i.value / i.den + 10 ^ place / 2 := by
  have grid : (0 : ℚ) < 10 ^ place := by positivity
  have nearest : ∃ num den : Nat, 0 < den ∧ (num / den : ℚ) = i.value / i.den / 10 ^ place ∧
      roundDiv num den ∈ i.neighbours place := by
    unfold neighbours
    cases place with
    | ofNat p =>
        refine ⟨i.value, i.den * 10 ^ p, Nat.mul_pos denPos (Nat.pow_pos (by decide)), ?_, ?_⟩
        · rw [Int.ofNat_eq_natCast, zpow_natCast, div_div]
          push_cast
          rfl
        · rcases roundDiv_mem_neighbours i.value (i.den * 10 ^ p) with down | up
          · simp [down]
          · simp [up]
    | negSucc p =>
        refine ⟨i.value * 10 ^ (p + 1), i.den, denPos, ?_, ?_⟩
        · rw [zpow_negSucc, div_inv_eq_mul, div_mul_eq_mul_div]
          push_cast
          rfl
        · rcases roundDiv_mem_neighbours (i.value * 10 ^ (p + 1)) i.den with down | up
          · simp [down]
          · simp [up]
  obtain ⟨num, den, positive, ratio, member⟩ := nearest
  obtain ⟨low, high⟩ := roundDiv_near num positive
  rw [ratio, le_div_iff₀ grid] at low
  rw [ratio, div_le_iff₀ grid] at high
  exact ⟨_, member, by linarith, by linarith⟩

theorem Interval.search_holds {i : Interval} {fuel : Nat} {place : Int} {steps digits : Nat}
    (inReach : steps < fuel) (near : digits ∈ i.neighbours (place - steps)) (nonzero : digits ≠ 0)
    (inside : i.holds digits (place - steps) = true) :
    (i.search fuel place).1 ≠ 0 ∧
      i.holds (i.search fuel place).1 (i.search fuel place).2 = true := by
  -- `steps` counts down to the place where a neighbour is known to lie in the interval.
  induction fuel generalizing place steps with
  | zero => omega
  | succ fuel induction =>
      unfold search
      split
      · rename_i found equation
        have good := List.find?_some equation
        simp only [ne_eq, Bool.and_eq_true, decide_eq_true_eq] at good
        exact good
      · rename_i none
        cases steps with
        | zero =>
            rw [Nat.cast_zero, sub_zero] at near inside
            have bad := List.find?_eq_none.mp none digits near
            simp [nonzero, inside] at bad
        | succ steps =>
            have shift : place - (steps + 1 : Nat) = place - 1 - steps := by omega
            rw [shift] at near inside
            exact induction (Nat.lt_of_succ_lt_succ inReach) near inside

theorem attracts_of_near {mantissa : Nat} {exponent : Int} {ratio width : ℚ}
    (canonical : IsCanonical mantissa exponent)
    (narrow : 10 ^ 16 * width ≤ mantissa * 2 ^ exponent)
    (low : mantissa * 2 ^ exponent - width / 2 ≤ ratio)
    (high : ratio ≤ mantissa * 2 ^ exponent + width / 2) :
    Attracts mantissa exponent ratio := by
  have unit : (0 : ℚ) < 2 ^ exponent := by positivity
  have small : (mantissa : ℚ) < 2 ^ 53 := by exact_mod_cast canonical.small
  have half : width / 2 < 1 / 2 * 2 ^ exponent := by nlinarith
  have share : width / 2 < lowerShare mantissa exponent * 2 ^ exponent := by
    unfold lowerShare
    split
    · rename_i power
      have exactly : (mantissa : ℚ) = 2 ^ 52 := by
        rw [power.1]
        exact_mod_cast fractionBits_eq
      rw [exactly] at narrow
      linarith
    · exact half
  exact ⟨by linarith, by linarith, fun _ => ⟨by linarith, by linarith⟩⟩

/-- The shortest digits of a number stand for a ratio that is rounded to it. -/
theorem shortest_attracts {mantissa : Nat} {exponent : Int}
    (canonical : IsCanonical mantissa exponent) (positive : 0 < mantissa) :
    (shortest mantissa exponent).1 ≠ 0 ∧
      Attracts mantissa exponent
        ((shortest mantissa exponent).1 * 10 ^ (shortest mantissa exponent).2) := by
  have denPos := interval_den_pos exponent mantissa
  have value := interval_value exponent mantissa
  have valuePos : 0 < (interval mantissa exponent).value := by
    have ratio : (0 : ℚ) < mantissa * 2 ^ exponent := by positivity
    rw [← value] at ratio
    by_contra zero
    rw [Nat.eq_zero_of_not_pos zero, Nat.cast_zero, zero_div] at ratio
    exact lt_irrefl _ ratio
  have leading := leadingPlace_le valuePos denPos
  rw [value] at leading
  unfold shortest
  dsimp only
  generalize leadingPlace (interval mantissa exponent).value (interval mantissa exponent).den =
    place at leading ⊢
  obtain ⟨digits, near, low, high⟩ := Interval.exists_near denPos (place - (16 : Nat))
  rw [value] at low high
  have grid : (10 : ℚ) ^ 16 * 10 ^ (place - (16 : Nat)) = 10 ^ place := by
    rw [zpow_sub₀ (by norm_num), zpow_natCast]
    field_simp
  have narrow : (10 : ℚ) ^ 16 * 10 ^ (place - (16 : Nat)) ≤ mantissa * 2 ^ exponent := by
    rw [grid]
    exact leading
  have widthPos : (0 : ℚ) < 10 ^ (place - (16 : Nat)) := by positivity
  have nonzero : digits ≠ 0 := by
    rintro rfl
    rw [Nat.cast_zero, zero_mul] at low
    generalize (10 : ℚ) ^ (place - (16 : Nat)) = width at narrow low widthPos
    linarith
  have inside := (holds_interval_iff positive exponent digits (place - (16 : Nat))).mpr
    (attracts_of_near canonical narrow low high)
  have found := Interval.search_holds (show 16 < 17 by decide) near nonzero inside
  exact ⟨found.1, (holds_interval_iff positive exponent _ _).mp found.2⟩

end GigListings.Number.Binary64
