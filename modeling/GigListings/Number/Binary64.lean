namespace GigListings.Number

/-! Binary floating point numbers of 64 bits, and rounding of exact ratios to them. -/

structure Binary64 where
  bits : UInt64
deriving DecidableEq, Inhabited

namespace Binary64

/-- The value that a bit pattern stands for; a finite value is `mantissa * 2 ^ exponent`. -/
inductive Decoded where
  | finite (negative : Bool) (mantissa : Nat) (exponent : Int)
  | infinite (negative : Bool)
  | notANumber
deriving DecidableEq, Repr

def fractionBits : Nat := Nat.pow 2 52

def decode (x : Binary64) : Decoded :=
  let code := x.bits.toNat
  let negative := code / Nat.pow 2 63 == 1
  let field := code / fractionBits % 2048
  let fraction := code % fractionBits
  if field = 2047 then
    if fraction = 0 then .infinite negative else .notANumber
  else if field = 0 then .finite negative fraction (-1074)
  else .finite negative (fractionBits + fraction) ((field : Int) - 1075)

def isFinite (x : Binary64) : Bool :=
  match x.decode with
  | .finite .. => true
  | _ => false

def isIntegral (x : Binary64) : Bool :=
  match x.decode with
  | .finite _ _ (.ofNat _) => true
  | .finite _ mantissa (.negSucc e) => mantissa % Nat.pow 2 (e + 1) == 0
  | _ => false

def isAtLeast (x : Binary64) (n : Nat) : Bool :=
  match x.decode with
  | .finite true mantissa _ => mantissa == 0 && n == 0
  | .finite false mantissa (.ofNat e) => n ≤ mantissa * Nat.pow 2 e
  | .finite false mantissa (.negSucc e) => n * Nat.pow 2 (e + 1) ≤ mantissa
  | _ => false

def isZero (x : Binary64) : Bool := x.bits.toNat % Nat.pow 2 63 == 0

def signBit (negative : Bool) : Nat := if negative then Nat.pow 2 63 else 0

def infinity (negative : Bool) : Binary64 :=
  ⟨UInt64.ofNat (signBit negative + 2047 * fractionBits)⟩

def notANumber : Binary64 := ⟨UInt64.ofNat (2047 * fractionBits + fractionBits / 2)⟩

/-- The nearest integer to `num / den`; a tie goes to the even neighbour. -/
def roundDiv (num den : Nat) : Nat :=
  let floor := num / den
  let twice := 2 * (num % den)
  if twice < den then floor
  else if den < twice then floor + 1
  else if floor % 2 = 0 then floor else floor + 1

/-- `num / den` scaled by `2 ^ -exponent`, as a ratio. -/
def scaleDown (num den : Nat) (exponent : Int) : Nat × Nat :=
  match exponent with
  | .ofNat e => (num, den * Nat.pow 2 e)
  | .negSucc e => (num * Nat.pow 2 (e + 1), den)

/-- The exponent at which `num / den` has 53 binary digits, or the least one. -/
def ratioExponent (num den : Nat) : Int :=
  let guess : Int := (num.log2 : Int) - den.log2 - 52
  let scaled := scaleDown num den guess
  let exact := if scaled.1 < fractionBits * scaled.2 then guess - 1 else guess
  max exact (-1074)

/-- The nearest number to `num / den`, ties to even; too large a ratio gives infinity. -/
def ofRatio (negative : Bool) (num den : Nat) : Binary64 :=
  if num = 0 ∨ den = 0 then ⟨UInt64.ofNat (signBit negative)⟩
  else
    let exponent := ratioExponent num den
    let scaled := scaleDown num den exponent
    let code := (exponent + 1074).toNat * fractionBits + roundDiv scaled.1 scaled.2
    if code < 2047 * fractionBits then ⟨UInt64.ofNat (signBit negative + code)⟩
    else infinity negative

def ofInt (i : Int) : Binary64 := ofRatio (decide (i < 0)) i.natAbs 1

/-- The largest count of digits after which every power of ten decides the result. -/
def exponentBound : Nat := 400

def ofDecimal (negative : Bool) (digits : Nat) (exponent : Int) : Binary64 :=
  let size : Int := (Nat.toDigits 10 digits).length
  if digits = 0 then ofRatio negative 0 1
  else if size + exponent < -exponentBound then ofRatio negative 0 1
  else if (exponentBound : Int) < size + exponent then infinity negative
  else match exponent with
    | .ofNat e => ofRatio negative (digits * Nat.pow 10 e) 1
    | .negSucc e => ofRatio negative digits (Nat.pow 10 (e + 1))

end Binary64

end GigListings.Number
