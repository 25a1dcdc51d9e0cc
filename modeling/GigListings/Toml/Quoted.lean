import GigListings.Text.Class

namespace GigListings.Toml

open Text

/-! Texts between quotation marks. Each function gives the text and what stands behind it. -/

abbrev Scanned := Option (List Char × List Char)

def prepend (c : Char) (scanned : Scanned) : Scanned :=
  scanned.map fun (text, rest) => (c :: text, rest)

def isLineSpace (c : Char) : Bool := c == ' ' || c == '\t'

/-- Characters that may stand on a line. -/
def isLineChar (c : Char) : Bool := c == '\t' || (32 ≤ c.toNat && c.toNat ≠ 127)

/-- The character that hexadecimal digits stand for. -/
def codePoint? (digits : List Char) : Option Char := do
  let n ← digits.foldlM (fun n c => (hexDigit? c).map (16 * n + ·)) 0
  if h : n.isValidChar then some (Char.ofNatAux n h) else none

def escape? (c : Char) : Option Char :=
  match c with
  | 'b' => some '\x08'
  | 't' => some '\t'
  | 'n' => some '\n'
  | 'f' => some '\x0c'
  | 'r' => some '\r'
  | '"' => some '"'
  | '\\' => some '\\'
  | _ => none

def basic : List Char → Scanned
  | '"' :: rest => some ([], rest)
  | '\\' :: 'u' :: a :: b :: c :: d :: rest => do prepend (← codePoint? [a, b, c, d]) (basic rest)
  | '\\' :: 'U' :: a :: b :: c :: d :: e :: f :: g :: h :: rest => do
      prepend (← codePoint? [a, b, c, d, e, f, g, h]) (basic rest)
  | '\\' :: c :: rest => do prepend (← escape? c) (basic rest)
  | c :: rest => if isLineChar c && c != '\\' then prepend c (basic rest) else none
  | [] => none

def literal : List Char → Scanned
  | '\'' :: rest => some ([], rest)
  | c :: rest => if isLineChar c then prepend c (literal rest) else none
  | [] => none

/-- A text over several lines ends with three marks; up to two more belong to it. -/
def closing? (mark : Char) (text : List Char) : Scanned :=
  let marks := (text.take 5).takeWhile (· == mark)
  if marks.length < 3 then none else some (marks.drop 3, text.drop marks.length)

/-- What follows a backslash at the end of a line: the next text that is not blank. -/
def afterContinuation? (text : List Char) : Option (List Char) :=
  match text.dropWhile isLineSpace with
  | '\n' :: rest => some (rest.dropWhile isBreakOrSpace)
  | '\r' :: '\n' :: rest => some (rest.dropWhile isBreakOrSpace)
  | _ => none
where
  isBreakOrSpace (c : Char) : Bool := isLineSpace c || c == '\n' || c == '\r'

def basicLines : (fuel : Nat) → List Char → Scanned
  | 0, _ => none
  | fuel + 1, text =>
      match closing? '"' text with
      | some found => some found
      | none =>
          match text with
          | '\\' :: 'u' :: a :: b :: c :: d :: rest => do
              prepend (← codePoint? [a, b, c, d]) (basicLines fuel rest)
          | '\\' :: 'U' :: a :: b :: c :: d :: e :: f :: g :: h :: rest => do
              prepend (← codePoint? [a, b, c, d, e, f, g, h]) (basicLines fuel rest)
          | '\\' :: rest =>
              match afterContinuation? rest, rest with
              | some rest, _ => basicLines fuel rest
              | none, c :: rest => do prepend (← escape? c) (basicLines fuel rest)
              | none, [] => none
          | '\n' :: rest => prepend '\n' (basicLines fuel rest)
          | '\r' :: '\n' :: rest => prepend '\n' (basicLines fuel rest)
          | c :: rest => if isLineChar c then prepend c (basicLines fuel rest) else none
          | [] => none

def literalLines : (fuel : Nat) → List Char → Scanned
  | 0, _ => none
  | fuel + 1, text =>
      match closing? '\'' text with
      | some found => some found
      | none =>
          match text with
          | '\n' :: rest => prepend '\n' (literalLines fuel rest)
          | '\r' :: '\n' :: rest => prepend '\n' (literalLines fuel rest)
          | c :: rest => if isLineChar c then prepend c (literalLines fuel rest) else none
          | [] => none

/-- A line break right behind the marks does not count. -/
def dropBreak : List Char → List Char
  | '\n' :: rest => rest
  | '\r' :: '\n' :: rest => rest
  | text => text

def quotedText : List Char → Scanned
  | '"' :: '"' :: '"' :: rest => basicLines (rest.length + 1) (dropBreak rest)
  | '"' :: rest => basic rest
  | '\'' :: '\'' :: '\'' :: rest => literalLines (rest.length + 1) (dropBreak rest)
  | '\'' :: rest => literal rest
  | _ => none

end GigListings.Toml
