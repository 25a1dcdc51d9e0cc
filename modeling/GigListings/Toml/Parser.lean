import GigListings.Toml.Quoted
import GigListings.Toml.Scalar
import GigListings.Toml.Table

namespace GigListings.Toml

open Text

/-! Reading tables from text. -/

def skipSpace (text : List Char) : List Char := text.dropWhile isLineSpace

def afterBreak? : List Char → Option (List Char)
  | '\n' :: rest => some rest
  | '\r' :: '\n' :: rest => some rest
  | _ => none

def skipComment : List Char → List Char
  | '#' :: rest => rest.dropWhile isLineChar
  | text => text

def nextLine? (text : List Char) : Option (List Char) :=
  match skipComment (skipSpace text) with
  | [] => some []
  | rest => afterBreak? rest

def skipLines : (fuel : Nat) → List Char → List Char
  | 0, text => text
  | fuel + 1, text =>
      let text := skipSpace text
      match afterBreak? (skipComment text) with
      | some rest => skipLines fuel rest
      | none => text

def isBareKeyChar (c : Char) : Bool := isAsciiAlphanumeric c || c == '_' || c == '-'

def simpleKey? : List Char → Option (String × List Char)
  | '"' :: rest => (basic rest).map fun (name, rest) => (String.ofList name, rest)
  | '\'' :: rest => (literal rest).map fun (name, rest) => (String.ofList name, rest)
  | text =>
      let (name, rest) := takeRun isBareKeyChar text
      if name.isEmpty then none else some (String.ofList name, rest)

/-- The names of a dotted key. -/
def key? : (fuel : Nat) → List Char → Option (List String × List Char)
  | 0, _ => none
  | fuel + 1, text => do
      let (name, rest) ← simpleKey? (skipSpace text)
      match skipSpace rest with
      | '.' :: rest =>
          let (names, rest) ← key? fuel rest
          return (name :: names, rest)
      | rest => return ([name], rest)

def keyOf (text : List Char) : Option (List String × List Char) := key? (text.length + 1) text

/-- A key is the way to a table and a name in it. -/
def wayAndName? (names : List String) : Option (List String × String) :=
  names.getLast?.map fun name => (names.dropLast, name)

def endsScalar (c : Char) : Bool :=
  isLineSpace c || c == ',' || c == ']' || c == '}' || c == '#' || c == '\n' || c == '\r'

/-- A date and a time may be parted by a blank. -/
def scalar? (text : List Char) : Option (List Char) :=
  let word := text.takeWhile fun c => !endsScalar c
  let rest := text.drop word.length
  if !isScalar word then none
  else match isDate word, rest with
    | true, ' ' :: more =>
        let time := more.takeWhile fun c => !endsScalar c
        some (if isTimeOfDate time then more.drop time.length else rest)
    | _, rest => some rest

def nestingBound : Nat := 80

mutual

/-- A value and what stands behind it; brackets are nested `depth` deep at most. -/
def value? : (depth fuel : Nat) → List Char → Option (Value × List Char)
  | _, 0, _ => none
  | depth, fuel + 1, text =>
      match text with
      | '"' :: _ => (quotedText text).map fun (found, rest) => (.text (String.ofList found), rest)
      | '\'' :: _ => (quotedText text).map fun (found, rest) => (.text (String.ofList found), rest)
      | '[' :: rest =>
          if depth = 0 then none
          else (items? (depth - 1) fuel rest).map fun rest => (.other, rest)
      | '{' :: rest =>
          if depth = 0 then none
          else match skipSpace rest with
            | '}' :: rest => some (.other, rest)
            | rest => (members? (depth - 1) fuel [] rest).map fun rest => (.other, rest)
      | text => (scalar? text).map fun rest => (.other, rest)

def items? : (depth fuel : Nat) → List Char → Option (List Char)
  | _, 0, _ => none
  | depth, fuel + 1, text =>
      match skipLines (text.length + 1) text with
      | ']' :: rest => some rest
      | text => do
          let (_, rest) ← value? depth fuel text
          match skipLines (rest.length + 1) rest with
          | ']' :: rest => some rest
          | ',' :: rest => items? depth fuel rest
          | _ => none

def members? : (depth fuel : Nat) → Entries → List Char → Option (List Char)
  | _, 0, _, _ => none
  | depth, fuel + 1, entries, text => do
      let (names, rest) ← keyOf text
      let rest ← afterChar? '=' rest
      let (value, rest) ← value? depth fuel (skipSpace rest)
      let (way, name) ← wayAndName? names
      let entries ← entries.insert value name way
      match skipSpace rest with
      | '}' :: rest => some rest
      | ',' :: rest => members? depth fuel entries rest
      | _ => none

end

/-- A table whose name stands in brackets, and the rest of its line. -/
def header? (entries : Entries) (text : List Char) : Option (List String × Entries × List Char) :=
  match text with
  | '[' :: '[' :: rest => do
      let (names, rest) ← keyOf rest
      let (way, name) ← wayAndName? names
      let rest ← afterChar? ']' (← afterChar? ']' rest)
      return (names, ← entries.change (Entries.declareNext name) way, rest)
  | '[' :: rest => do
      let (names, rest) ← keyOf rest
      let (way, name) ← wayAndName? names
      let rest ← afterChar? ']' rest
      return (names, ← entries.change (Entries.declare name) way, rest)
  | _ => none

/-- A key with its value goes into the table that was named last. -/
def member? (entries : Entries) (table : List String) (text : List Char) :
    Option (Entries × List Char) := do
  let (names, rest) ← keyOf text
  let rest ← afterChar? '=' rest
  let rest := skipSpace rest
  let (value, rest) ← value? nestingBound (2 * rest.length + 2) rest
  let (way, name) ← wayAndName? names
  return (← entries.change (Entries.insert value name way) table, rest)

def lines? : (fuel : Nat) → (table : List String) → Entries → List Char → Option Entries
  | 0, _, _, _ => none
  | fuel + 1, table, entries, text =>
      match skipSpace text with
      | [] => some entries
      | '[' :: rest => do
          let (table, entries, rest) ← header? entries ('[' :: rest)
          lines? fuel table entries (← nextLine? rest)
      | '#' :: rest => do lines? fuel table entries (← nextLine? ('#' :: rest))
      | '\n' :: rest => lines? fuel table entries rest
      | '\r' :: '\n' :: rest => lines? fuel table entries rest
      | text => do
          let (entries, rest) ← member? entries table text
          lines? fuel table entries (← nextLine? rest)

def parse? (text : String) : Option Entries :=
  let text := match text.toList with
    | '\uFEFF' :: rest => rest
    | text => text
  lines? (text.length + 1) [] [] text

end GigListings.Toml
