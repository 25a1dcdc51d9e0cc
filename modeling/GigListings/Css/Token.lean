import GigListings.Text.Class

namespace GigListings.Css

open Text

/-! The tokens of a style sheet, as far as selectors have a use for them. -/

inductive Token where
  | blank
  | ident (name : String)
  /-- An identifier after a hash. -/
  | id (name : String)
  | string (text : String)
  /-- A number, with its value if it is whole. -/
  | number (signed : Bool) (value : Option Int)
  | dimension (value : Option Int) (unit : String)
  /-- A name with an opening parenthesis. -/
  | function (name : String)
  /-- A character with an equals sign. -/
  | matcher (kind : Char)
  | delim (c : Char)
  /-- Anything that no selector holds. -/
  | other
deriving DecidableEq

def isSpace (c : Char) : Bool := c == ' ' || c == '\t' || c == '\n' || c == '\r' || c == '\x0c'

def isBreak (c : Char) : Bool := c == '\n' || c == '\r' || c == '\x0c'

def isNameStart (c : Char) : Bool :=
  isAsciiLetter c || c == '_' || c == '\x00' || 128 ≤ c.toNat

def isNameChar (c : Char) : Bool := isNameStart c || isAsciiDigit c || c == '-'

def breaksAfter : List Char → Bool
  | c :: _ => isBreak c
  | [] => false

def startsName : List Char → Bool
  | '-' :: c :: _ => isNameStart c || c == '-' || c == '\\'
  | '\\' :: rest => !breaksAfter rest
  | c :: _ => isNameStart c
  | [] => false

def hexValue (c : Char) : Option Nat :=
  if isAsciiDigit c then some (c.toNat - '0'.toNat)
  else if 'a' ≤ c ∧ c ≤ 'f' then some (c.toNat - 'a'.toNat + 10)
  else if 'A' ≤ c ∧ c ≤ 'F' then some (c.toNat - 'A'.toNat + 10)
  else none

def codePoint (n : Nat) : Char :=
  if h : n.isValidChar ∧ n ≠ 0 then Char.ofNatAux n h.1 else '\uFFFD'

def dropSpace : List Char → List Char
  | '\r' :: '\n' :: rest => rest
  | c :: rest => if isSpace c then rest else c :: rest
  | [] => []

def unescape (text : List Char) : Char × List Char :=
  match (text.take 6).takeWhile fun c => (hexValue c).isSome with
  | [] =>
      match text with
      | '\x00' :: rest => ('\uFFFD', rest)
      | c :: rest => (c, rest)
      | [] => ('\uFFFD', [])
  | digits =>
      (codePoint (digits.foldl (fun n c => 16 * n + (hexValue c).getD 0) 0),
        dropSpace (text.drop digits.length))

def nullReplaced (c : Char) : Char := if c == '\x00' then '\uFFFD' else c

def name : (fuel : Nat) → List Char → List Char × List Char
  | 0, text => ([], text)
  | fuel + 1, text =>
      match text with
      | '\\' :: rest =>
          if breaksAfter rest then ([], text)
          else
            let (c, rest) := unescape rest
            let (more, rest) := name fuel rest
            (c :: more, rest)
      | c :: rest =>
          if isNameChar c then
            let (more, rest) := name fuel rest
            (nullReplaced c :: more, rest)
          else ([], text)
      | [] => ([], [])

/-- The text up to a quotation mark, or nothing if the line ends before. -/
def quotedText (mark : Char) : (fuel : Nat) → List Char → Option (List Char) × List Char
  | 0, text => (none, text)
  | fuel + 1, text =>
      match text with
      | [] => (some [], [])
      | '\\' :: [] => (some [], [])
      | '\\' :: '\r' :: '\n' :: rest => quotedText mark fuel rest
      | '\\' :: c :: rest =>
          if isBreak c then quotedText mark fuel rest
          else
            let (c, rest) := unescape (c :: rest)
            let (more, rest) := quotedText mark fuel rest
            (more.map (c :: ·), rest)
      | c :: rest =>
          if c == mark then (some [], rest)
          else if isBreak c then (none, text)
          else
            let (more, rest) := quotedText mark fuel rest
            (more.map (nullReplaced c :: ·), rest)

def isDigitAt (text : List Char) (i : Nat) : Bool := text[i]?.any isAsciiDigit

def startsNumber : List Char → Bool
  | '.' :: rest => isDigitAt rest 0
  | c :: rest =>
      isAsciiDigit c || ((c == '+' || c == '-') &&
        (isDigitAt rest 0 || (rest.head? == some '.' && isDigitAt rest 1)))
  | [] => false

def digitsValue (digits : List Char) : Nat :=
  digits.foldl (fun n c => 10 * n + (c.toNat - '0'.toNat)) 0

/-- Whole numbers end at the bounds of 32 bits. -/
def clamped (n : Int) : Int := max (-2147483648) (min 2147483647 n)

/-- What stands after the digits of an exponent, if there is one. -/
def afterExponent? : List Char → Option (List Char)
  | e :: rest =>
      if e == 'e' || e == 'E' then
        if isDigitAt rest 0 then some (rest.dropWhile isAsciiDigit)
        else if (rest.head? == some '+' || rest.head? == some '-') && isDigitAt rest 1 then
          some ((rest.drop 1).dropWhile isAsciiDigit)
        else none
      else none
  | [] => none

def numberToken (text : List Char) : Token × List Char :=
  let signed := text.head? == some '+' || text.head? == some '-'
  let digits := text.drop (if signed then 1 else 0)
  let whole := digits.takeWhile isAsciiDigit
  let value : Int := if text.head? == some '-' then -digitsValue whole else digitsValue whole
  let rest := digits.drop whole.length
  let (isWhole, rest) :=
    if rest.head? == some '.' && isDigitAt rest 1 then
      (false, (rest.drop 1).dropWhile isAsciiDigit)
    else (true, rest)
  let (isWhole, rest) :=
    match afterExponent? rest with
    | some rest => (false, rest)
    | none => (isWhole, rest)
  let value := if isWhole then some (clamped value) else none
  if rest.head? == some '%' then (.other, rest.drop 1)
  else if startsName rest then
    let (unit, rest) := name (rest.length + 1) rest
    (.dimension value (String.ofList unit), rest)
  else (.number signed value, rest)

def nameToken (text : List Char) : Token × List Char :=
  let (word, rest) := name (text.length + 1) text
  match rest with
  | '(' :: rest => (.function (String.ofList word), rest)
  | rest => (.ident (String.ofList word), rest)

def afterComment : List Char → List Char
  | '*' :: '/' :: rest => rest
  | _ :: rest => afterComment rest
  | [] => []

def matcherKinds : List Char := ['~', '|', '^', '$', '*']

def tokensOf : (fuel : Nat) → List Char → List Token
  | 0, _ => []
  | fuel + 1, text =>
      match text with
      | [] => []
      | '/' :: '*' :: rest => tokensOf fuel (afterComment rest)
      | '-' :: '-' :: '>' :: rest => .other :: tokensOf fuel rest
      | '<' :: '!' :: '-' :: '-' :: rest => .other :: tokensOf fuel rest
      | c :: rest =>
          if isSpace c then .blank :: tokensOf fuel (rest.dropWhile isSpace)
          else if c == '"' || c == '\'' then
            match quotedText c (rest.length + 1) rest with
            | (some text, rest) => .string (String.ofList text) :: tokensOf fuel rest
            | (none, rest) => .other :: tokensOf fuel rest
          else if c == '#' && startsName rest then
            let (word, rest) := name (rest.length + 1) rest
            .id (String.ofList word) :: tokensOf fuel rest
          else if startsNumber text then
            let (token, rest) := numberToken text
            token :: tokensOf fuel rest
          else if startsName text then
            let (token, rest) := nameToken text
            token :: tokensOf fuel rest
          else if matcherKinds.contains c && rest.head? == some '=' then
            .matcher c :: tokensOf fuel (rest.drop 1)
          else .delim c :: tokensOf fuel rest

def tokens (text : String) : List Token := tokensOf (text.length + 1) text.toList

end GigListings.Css
