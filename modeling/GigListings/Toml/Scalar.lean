import GigListings.Calendar.Date
import GigListings.Number.Reader
import GigListings.Text.Ranges

namespace GigListings.Toml

open Text Number

/-! Numbers, truth values, dates and times. They are only checked. -/

/-- Digits that may be parted by single underscores. -/
def isDigitRun (isDigit : Char → Bool) (text : List Char) : Bool :=
  (splitOn (· == '_') text).all fun run => run ≠ [] && run.all isDigit

def withoutUnderscores (text : List Char) : List Char := text.filter (· != '_')

def withoutSign : List Char → List Char
  | '+' :: rest => rest
  | '-' :: rest => rest
  | text => text

/-- A number without needless zeros in front. -/
def isWhole (text : List Char) : Bool :=
  isDigitRun isAsciiDigit text && (text.head? != some '0' || text.length == 1)

def hexValue (c : Char) : Nat :=
  if isAsciiDigit c then c.toNat - '0'.toNat else (asciiLower c).toNat - 'a'.toNat + 10

def valueIn (base : Nat) (digits : List Char) : Nat :=
  digits.foldl (fun n c => base * n + hexValue c) 0

def isDigitIn (base : Nat) (c : Char) : Bool :=
  (isAsciiDigit c || ('a' ≤ asciiLower c && asciiLower c ≤ 'f')) && hexValue c < base

def isBased (base : Nat) (text : List Char) : Bool :=
  isDigitRun (isDigitIn base) text && valueIn base (withoutUnderscores text) < Nat.pow 2 63

/-- Whole numbers have 64 bits with a sign. -/
def isInteger (text : List Char) : Bool :=
  match text with
  | '0' :: 'x' :: digits => isBased 16 digits
  | '0' :: 'o' :: digits => isBased 8 digits
  | '0' :: 'b' :: digits => isBased 2 digits
  | text =>
      let value := valueIn 10 (withoutUnderscores (withoutSign text))
      isWhole (withoutSign text) &&
        (if text.head? == some '-' then value ≤ Nat.pow 2 63 else value < Nat.pow 2 63)

def isFraction (text : List Char) : Bool := isDigitRun isAsciiDigit text

def isExponent (text : List Char) : Bool := isDigitRun isAsciiDigit (withoutSign text)

def isExponentMark (c : Char) : Bool := c == 'e' || c == 'E'

def isFloatShape (text : List Char) : Bool :=
  match splitOn isExponentMark text with
  | [mantissa] =>
      match splitOn (· == '.') mantissa with
      | [whole, fraction] => isWhole whole && isFraction fraction
      | _ => false
  | [mantissa, exponent] =>
      isExponent exponent &&
        match splitOn (· == '.') mantissa with
        | [whole] => isWhole whole
        | [whole, fraction] => isWhole whole && isFraction fraction
        | _ => false
  | _ => false

/-- Numbers with a fraction or exponent do not go beyond the finite ones. -/
def isFloat (text : List Char) : Bool :=
  let bare := withoutSign text
  bare == "inf".toList || bare == "nan".toList ||
    (isFloatShape bare &&
      (Binary64.ofText? (String.ofList (withoutUnderscores bare))).any Binary64.isFinite)

/-! Dates and times. -/

def pair? : List Char → Option (Nat × List Char)
  | a :: b :: rest => (number? [a, b]).map (·, rest)
  | _ => none

def afterChar? (c : Char) : List Char → Option (List Char)
  | d :: rest => if c = d then some rest else none
  | [] => none

def afterDate? (text : List Char) : Option (List Char) := do
  let year ← number? (text.take 4)
  if text.length < 4 then none
  let (month, rest) ← pair? (← afterChar? '-' (text.drop 4))
  let (day, rest) ← pair? (← afterChar? '-' rest)
  if 1 ≤ day ∧ day ≤ daysInMonth year month then some rest else none

def afterFraction? (text : List Char) : Option (List Char) :=
  match text with
  | '.' :: rest =>
      let (digits, rest) := takeRun isAsciiDigit rest
      if digits.isEmpty then none else some rest
  | text => some text

def afterTime? (text : List Char) : Option (List Char) := do
  let (hour, rest) ← pair? text
  let (minute, rest) ← pair? (← afterChar? ':' rest)
  let (second, rest) ← pair? (← afterChar? ':' rest)
  if hour < 24 ∧ minute < 60 ∧ second ≤ 60 then afterFraction? rest else none

def isOffset (text : List Char) : Bool :=
  match text with
  | ['Z'] => true
  | ['z'] => true
  | sign :: rest =>
      (sign == '+' || sign == '-') &&
        match pair? rest with
        | some (hour, ':' :: rest) =>
            match pair? rest with
            | some (minute, []) => hour < 24 && minute < 60
            | _ => false
        | _ => false
  | [] => false

/-- A time that may be followed by an offset. -/
def isTimeOfDate (text : List Char) : Bool :=
  match afterTime? text with
  | some rest => rest.isEmpty || isOffset rest
  | none => false

def isDate (text : List Char) : Bool := afterDate? text == some []

def isDateTime (text : List Char) : Bool :=
  match afterDate? text with
  | some [] => true
  | some (mark :: rest) => (mark == 'T' || mark == 't') && isTimeOfDate rest
  | none => afterTime? text == some []

def isScalar (text : List Char) : Bool :=
  text == "true".toList || text == "false".toList || isInteger text || isFloat text ||
    isDateTime text

end GigListings.Toml
