import GigListings.Json.Basic

namespace GigListings

open Number

/-! The two written forms of a value: compact on one line, and indented by two spaces. -/

namespace Json

def hexPair (n : Nat) : List Char := [Nat.digitChar (n / 16 % 16), Nat.digitChar (n % 16)]

def escapeChar (c : Char) : List Char :=
  if c = '"' then ['\\', '"']
  else if c = '\\' then ['\\', '\\']
  else if c = '\x08' then ['\\', 'b']
  else if c = '\x0c' then ['\\', 'f']
  else if c = '\n' then ['\\', 'n']
  else if c = '\r' then ['\\', 'r']
  else if c = '\t' then ['\\', 't']
  else if c.toNat < 32 then '\\' :: 'u' :: '0' :: '0' :: hexPair c.toNat
  else [c]

def quote (text : String) : List Char := '"' :: text.toList.flatMap escapeChar ++ ['"']

def intText (value : Int) : List Char :=
  match value with
  | .ofNat n => Nat.toDigits 10 n
  | .negSucc n => '-' :: Nat.toDigits 10 (n + 1)

/-- A number without a decimal form is written as null. -/
def realText (value : Binary64) : List Char := value.text?.getD ['n', 'u', 'l', 'l']

def scalarText : Json → List Char
  | null => ['n', 'u', 'l', 'l']
  | bool true => ['t', 'r', 'u', 'e']
  | bool false => ['f', 'a', 'l', 's', 'e']
  | int value => intText value
  | real value => realText value
  | str text => quote text
  | arr _ => ['[', ']']
  | obj _ => ['\x7b', '\x7d']

mutual

def compactChars : Json → List Char
  | arr [] => ['[', ']']
  | arr (item :: items) => '[' :: (compactChars item ++ compactItems items)
  | obj [] => ['\x7b', '\x7d']
  | obj ((key, value) :: rest) =>
      '\x7b' :: (quote key ++ ':' :: (compactChars value ++ compactMembers rest))
  | scalar => scalarText scalar

def compactItems : List Json → List Char
  | [] => [']']
  | item :: items => ',' :: (compactChars item ++ compactItems items)

def compactMembers : List (String × Json) → List Char
  | [] => ['\x7d']
  | (key, value) :: rest =>
      ',' :: (quote key ++ ':' :: (compactChars value ++ compactMembers rest))

end

def compact (value : Json) : String := String.ofList value.compactChars

def lineBreak (level : Nat) : List Char := '\n' :: List.replicate (2 * level) ' '

mutual

def prettyChars (level : Nat) : Json → List Char
  | arr [] => ['[', ']']
  | arr (item :: items) =>
      '[' :: (lineBreak (level + 1) ++ prettyChars (level + 1) item ++ prettyItems level items)
  | obj [] => ['\x7b', '\x7d']
  | obj ((key, value) :: rest) =>
      '\x7b' :: (lineBreak (level + 1) ++ quote key ++ ':' :: ' ' ::
        (prettyChars (level + 1) value ++ prettyMembers level rest))
  | scalar => scalarText scalar

def prettyItems (level : Nat) : List Json → List Char
  | [] => lineBreak level ++ [']']
  | item :: items =>
      ',' :: (lineBreak (level + 1) ++ prettyChars (level + 1) item ++ prettyItems level items)

def prettyMembers (level : Nat) : List (String × Json) → List Char
  | [] => lineBreak level ++ ['\x7d']
  | (key, value) :: rest =>
      ',' :: (lineBreak (level + 1) ++ quote key ++ ':' :: ' ' ::
        (prettyChars (level + 1) value ++ prettyMembers level rest))

end

def pretty (value : Json) : String := String.ofList (value.prettyChars 0)

end Json

end GigListings
