import GigListings.Number.Binary64
import GigListings.Text.Scan

namespace GigListings.Number

open Text

/-! Numbers written by hand: a sign, digits with a point, an exponent, or a word. -/

def exponent? (text : List Char) : Option Int :=
  match text with
  | '-' :: digits => (number? digits).map fun n => -(n : Int)
  | '+' :: digits => (number? digits).map Int.ofNat
  | digits => (number? digits).map Int.ofNat

/-- What stands behind the digits: nothing, or an exponent. -/
def scale? : List Char → Option Int
  | [] => some 0
  | e :: rest => if e == 'e' || e == 'E' then exponent? rest else none

def digitsAndPoint (text : List Char) : List Char × List Char × List Char :=
  let (whole, rest) := takeRun isAsciiDigit text
  match rest with
  | '.' :: rest =>
      let (fraction, rest) := takeRun isAsciiDigit rest
      (whole, fraction, rest)
  | rest => (whole, [], rest)

def decimal? (negative : Bool) (text : List Char) : Option Binary64 := do
  let (whole, fraction, rest) := digitsAndPoint text
  let digits ← number? (whole ++ fraction)
  let scale ← scale? rest
  return Binary64.ofDecimal negative digits (scale - fraction.length)

def unsigned? (negative : Bool) (text : List Char) : Option Binary64 :=
  match String.ofList (text.map asciiLower) with
  | "inf" => some (.infinity negative)
  | "infinity" => some (.infinity negative)
  | "nan" => some .notANumber
  | _ => decimal? negative text

/-- The number that a text shows. -/
def Binary64.ofText? (text : String) : Option Binary64 :=
  match text.toList with
  | '-' :: rest => unsigned? true rest
  | '+' :: rest => unsigned? false rest
  | rest => unsigned? false rest

end GigListings.Number
