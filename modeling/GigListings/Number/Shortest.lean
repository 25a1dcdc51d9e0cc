import GigListings.Number.Binary64

namespace GigListings.Number

/-! The shortest decimal that reads back as a given binary number. -/

namespace Binary64

/-- A ratio of natural numbers that stands for `mantissa * 2 ^ exponent`. -/
def toRatio (mantissa : Nat) (exponent : Int) : Nat × Nat :=
  match exponent with
  | .ofNat e => (mantissa * Nat.pow 2 e, 1)
  | .negSucc e => (mantissa, Nat.pow 2 (e + 1))

/-- The rounding interval of a positive number over the common denominator `den`:
the numerators of its lower end, of the number and of its upper end. -/
structure Interval where
  low : Nat
  value : Nat
  high : Nat
  den : Nat
  closed : Bool

/-- Half the gap to each neighbour; below a power of two the gap is half as wide. -/
def interval (mantissa : Nat) (exponent : Int) : Interval :=
  let ratio := toRatio mantissa exponent
  let unit := toRatio 1 exponent
  let lowGap := if mantissa = fractionBits ∧ -1074 < exponent then 1 else 2
  { low := 4 * ratio.1 - lowGap * unit.1
    value := 4 * ratio.1
    high := 4 * ratio.1 + 2 * unit.1
    den := 4 * ratio.2
    closed := mantissa % 2 = 0 }

/-- Whether `digits * 10 ^ place` reads back as the number. -/
def Interval.holds (i : Interval) (digits : Nat) (place : Int) : Bool :=
  let sides : Nat × Nat := match place with
    | .ofNat p => (digits * Nat.pow 10 p * i.den, 1)
    | .negSucc p => (digits * i.den, Nat.pow 10 (p + 1))
  if i.closed then i.low * sides.2 ≤ sides.1 && sides.1 ≤ i.high * sides.2
  else i.low * sides.2 < sides.1 && sides.1 < i.high * sides.2

/-- The number of digits before the point, minus one, of `num / den`. -/
def leadingPlace (num den : Nat) : Int :=
  if den ≤ num then ((Nat.toDigits 10 (num / den)).length : Int) - 1
  else
    let size := (Nat.toDigits 10 (den / num)).length
    if num * Nat.pow 10 (size - 1) < den then -(size : Int) else -((size : Int) - 1)

/-- The two neighbours of the value on the grid `10 ^ place`, nearer one first. -/
def Interval.neighbours (i : Interval) (place : Int) : List Nat :=
  let ratio : Nat × Nat := match place with
    | .ofNat p => (i.value, i.den * Nat.pow 10 p)
    | .negSucc p => (i.value * Nat.pow 10 (p + 1), i.den)
  let floor := ratio.1 / ratio.2
  let nearest := roundDiv ratio.1 ratio.2
  if nearest = floor then [floor, floor + 1] else [floor + 1, floor]

/-- Searches the grids from the coarsest on, `fuel` of them. -/
def Interval.search (i : Interval) : (fuel : Nat) → (place : Int) → Nat × Int
  | 0, place => (((i.neighbours place).head?).getD 0, place)
  | fuel + 1, place =>
      match (i.neighbours place).find? fun digits => digits ≠ 0 && i.holds digits place with
      | some digits => (digits, place)
      | none => i.search fuel (place - 1)

/-- The fewest digits and the place of the last one, for a positive number. -/
def shortest (mantissa : Nat) (exponent : Int) : Nat × Int :=
  let i := interval mantissa exponent
  i.search 17 (leadingPlace i.value i.den)

end Binary64

end GigListings.Number
