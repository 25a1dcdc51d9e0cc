import GigListings.Json.Printer
import GigListings.Text.Basic

namespace GigListings

open Number

/-! Reading JSON text. Of two members with one key the later value wins. -/

namespace Json

def isSpace (c : Char) : Bool := c == ' ' || c == '\n' || c == '\t' || c == '\r'

def skipSpace (text : List Char) : List Char := text.dropWhile isSpace

def digitsValue (digits : List Char) : Nat :=
  digits.foldl (fun value c => value * 10 + (c.toNat - '0'.toNat)) 0

def readUnit : List Char → Option (Nat × List Char)
  | a :: b :: c :: d :: rest =>
      match Text.hexDigit? a, Text.hexDigit? b, Text.hexDigit? c, Text.hexDigit? d with
      | some a, some b, some c, some d => some (((a * 16 + b) * 16 + c) * 16 + d, rest)
      | _, _, _, _ => none
  | _ => none

/-- The character of one or two escaped units; half of a pair is refused. -/
def readEscapedUnit (text : List Char) : Option (Char × List Char) :=
  match readUnit text with
  | none => none
  | some (unit, rest) =>
      if unit < 0xD800 ∨ 0xE000 ≤ unit then some (Char.ofNat unit, rest)
      else if 0xDC00 ≤ unit then none
      else match rest with
        | '\\' :: 'u' :: rest =>
            match readUnit rest with
            | some (low, rest) =>
                if 0xDC00 ≤ low ∧ low < 0xE000 then
                  some (Char.ofNat (0x10000 + (unit - 0xD800) * 0x400 + (low - 0xDC00)), rest)
                else none
            | none => none
        | _ => none

def readEscape : List Char → Option (Char × List Char)
  | '"' :: rest => some ('"', rest)
  | '\\' :: rest => some ('\\', rest)
  | '/' :: rest => some ('/', rest)
  | 'b' :: rest => some ('\x08', rest)
  | 'f' :: rest => some ('\x0c', rest)
  | 'n' :: rest => some ('\n', rest)
  | 'r' :: rest => some ('\r', rest)
  | 't' :: rest => some ('\t', rest)
  | 'u' :: rest => readEscapedUnit rest
  | _ => none

/-- The rest of a string after its opening quote; `read` holds what was read, last first. -/
def readString : (fuel : Nat) → (read text : List Char) → Option (String × List Char)
  | 0, _, _ => none
  | _ + 1, _, [] => none
  | fuel + 1, read, c :: rest =>
      if c = '"' then some (String.ofList read.reverse, rest)
      else if c = '\\' then
        match readEscape rest with
        | some (escaped, rest) => readString fuel (escaped :: read) rest
        | none => none
      else if c.toNat < 32 then none
      else readString fuel (c :: read) rest

def readWhole (text : List Char) : Option (List Char × List Char) :=
  match text.takeWhile Text.isAsciiDigit with
  | [] => none
  | '0' :: _ :: _ => none
  | digits => some (digits, text.dropWhile Text.isAsciiDigit)

def readFraction : List Char → Option (List Char × List Char)
  | '.' :: rest =>
      match rest.takeWhile Text.isAsciiDigit with
      | [] => none
      | digits => some (digits, rest.dropWhile Text.isAsciiDigit)
  | text => some ([], text)

def readExponentDigits (negative : Bool) (text : List Char) : Option (Option Int × List Char) :=
  match text.takeWhile Text.isAsciiDigit with
  | [] => none
  | digits =>
      let value : Int := digitsValue digits
      some (some (if negative then -value else value), text.dropWhile Text.isAsciiDigit)

def readExponent : List Char → Option (Option Int × List Char)
  | 'e' :: '-' :: rest => readExponentDigits true rest
  | 'e' :: '+' :: rest => readExponentDigits false rest
  | 'e' :: rest => readExponentDigits false rest
  | 'E' :: '-' :: rest => readExponentDigits true rest
  | 'E' :: '+' :: rest => readExponentDigits false rest
  | 'E' :: rest => readExponentDigits false rest
  | text => some (none, text)

def finiteReal? (value : Binary64) : Option Json :=
  if value.isFinite then some (real value) else none

/-- Whole numbers of at most 64 bits stay exact, all others are rounded. -/
def numberOf (negative : Bool) (whole fraction : List Char) (exponent : Option Int) :
    Option Json :=
  match fraction, exponent with
  | [], none =>
      let value := digitsValue whole
      if negative then
        if 0 < value ∧ value ≤ Nat.pow 2 63 then some (int (-value))
        else finiteReal? (Binary64.ofDecimal true value 0)
      else if value < UInt64.size then some (int value)
      else finiteReal? (Binary64.ofDecimal false value 0)
  | _, _ =>
      finiteReal? (Binary64.ofDecimal negative (digitsValue (whole ++ fraction))
        (exponent.getD 0 - fraction.length))

def readUnsigned (negative : Bool) (text : List Char) : Option (Json × List Char) := do
  let (whole, rest) ← readWhole text
  let (fraction, rest) ← readFraction rest
  let (exponent, rest) ← readExponent rest
  let value ← numberOf negative whole fraction exponent
  return (value, rest)

def readNumber : List Char → Option (Json × List Char)
  | '-' :: rest => readUnsigned true rest
  | text => readUnsigned false text

mutual

/-- A value that nests at most `depth` deep. -/
def readValue : (fuel depth : Nat) → List Char → Option (Json × List Char)
  | 0, _, _ => none
  | fuel + 1, depth, text =>
      match skipSpace text with
      | 'n' :: 'u' :: 'l' :: 'l' :: rest => some (null, rest)
      | 't' :: 'r' :: 'u' :: 'e' :: rest => some (bool true, rest)
      | 'f' :: 'a' :: 'l' :: 's' :: 'e' :: rest => some (bool false, rest)
      | '"' :: rest =>
          (readString (rest.length + 1) [] rest).map fun (text, rest) => (str text, rest)
      | '[' :: rest =>
          match depth with
          | 0 => none
          | depth + 1 =>
              match skipSpace rest with
              | ']' :: rest => some (arr [], rest)
              | rest => (readItems fuel depth [] rest).map fun (items, rest) => (arr items, rest)
      | '\x7b' :: rest =>
          match depth with
          | 0 => none
          | depth + 1 =>
              match skipSpace rest with
              | '\x7d' :: rest => some (obj [], rest)
              | rest => (readMembers fuel depth [] rest).map fun (members, rest) =>
                  (obj members, rest)
      | rest => readNumber rest

def readItems : (fuel depth : Nat) → (read : List Json) → List Char →
    Option (List Json × List Char)
  | 0, _, _, _ => none
  | fuel + 1, depth, read, text =>
      match readValue fuel depth text with
      | none => none
      | some (value, rest) =>
          match skipSpace rest with
          | ',' :: rest => readItems fuel depth (value :: read) rest
          | ']' :: rest => some ((value :: read).reverse, rest)
          | _ => none

def readMembers : (fuel depth : Nat) → (read : Members) → List Char →
    Option (Members × List Char)
  | 0, _, _, _ => none
  | fuel + 1, depth, read, text =>
      match skipSpace text with
      | '"' :: rest =>
          match readString (rest.length + 1) [] rest with
          | none => none
          | some (key, rest) =>
              match skipSpace rest with
              | ':' :: rest =>
                  match readValue fuel depth rest with
                  | none => none
                  | some (value, rest) =>
                      let members := read.insert key value
                      match skipSpace rest with
                      | ',' :: rest => readMembers fuel depth members rest
                      | '\x7d' :: rest => some (members, rest)
                      | _ => none
              | _ => none
      | _ => none

end

/-- How deep values may nest. -/
def depthLimit : Nat := 127

def parse? (text : String) : Option Json :=
  let chars := text.toList
  match readValue (chars.length + 1) depthLimit chars with
  | some (value, rest) => if (skipSpace rest).isEmpty then some value else none
  | none => none

end Json

end GigListings
