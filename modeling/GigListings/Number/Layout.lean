import GigListings.Number.Shortest

namespace GigListings.Number

/-! How a finite number is written: plainly in the middle of the range, with at least one
decimal, and with an exponent outside it. -/

structure Layout where
  leastPlain : Int
  greatestPlain : Int

/-- Exponents from -5 to 15 are written without an exponent. -/
def listing : Layout := ⟨-5, 15⟩

def zeros (count : Nat) : List Char := List.replicate count '0'

/-- `digits * 10 ^ place`, where the digits have no needless trailing zero. -/
def Layout.decimal (layout : Layout) (digits : List Char) (place : Int) : List Char :=
  let exponent : Int := place + digits.length - 1
  if layout.leastPlain ≤ exponent ∧ exponent ≤ layout.greatestPlain then
    if 0 ≤ place then digits ++ zeros place.toNat ++ ['.', '0']
    else if 0 ≤ exponent then
      digits.take (exponent.toNat + 1) ++ '.' :: digits.drop (exponent.toNat + 1)
    else '0' :: '.' :: zeros (-exponent - 1).toNat ++ digits
  else
    let lead := match digits with
      | [d] => [d]
      | d :: rest => d :: '.' :: rest
      | [] => []
    let sign := if exponent < 0 then '-' else '+'
    lead ++ 'e' :: sign :: Nat.toDigits 10 exponent.natAbs

def dropZeros (digits : List Char) (place : Int) : List Char × Int :=
  let kept := (digits.reverse.dropWhile (· == '0')).reverse
  (kept, place + (digits.length - kept.length : Nat))

/-- The text of a finite number; there is none for infinities and for what is no number. -/
def Binary64.text? (x : Binary64) : Option (List Char) :=
  match x.decode with
  | .finite negative mantissa exponent =>
      let body :=
        if mantissa = 0 then ['0', '.', '0']
        else
          let found := Binary64.shortest mantissa exponent
          let kept := dropZeros (Nat.toDigits 10 found.1) found.2
          listing.decimal kept.1 kept.2
      some (if negative then '-' :: body else body)
  | _ => none

end GigListings.Number
