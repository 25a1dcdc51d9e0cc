import GigListings.Storage.Disk
import GigListings.Text.Scan

namespace GigListings

/-! Variables with their values. -/

abbrev Environment := List (String × String)

namespace Environment

def get? (environment : Environment) (name : String) : Option String := environment.lookup name

/-- A variable that is there keeps its value. -/
def add (environment : Environment) (name value : String) : Environment :=
  if (environment.get? name).isSome then environment else environment ++ [(name, value)]

end Environment

end GigListings

namespace GigListings.Environment

open Text

/-! Files of lines such as `NAME=value # comment`, which set variables. -/

inductive ValueState where
  | plain
  /-- Between single quotes, where every character stands for itself. -/
  | quoted
  | escaped
  /-- In a name behind a dollar sign. -/
  | name (name : List Char)
  /-- In such a name within braces. -/
  | braced (name : List Char)
  /-- Behind the value, where nothing but a comment may follow. -/
  | ended

def valueOf (environment : Environment) (name : List Char) : List Char :=
  ((environment.get? (String.ofList name)).getD "").toList

def unescaped? (c : Char) : Option Char :=
  if ['\\', '\'', '"', '$', ' '].contains c then some c else if c = 'n' then some '\n' else none

/-- Reads a value. `double` tells whether double quotes are open. The character that ends a name
without braces stands for itself. -/
def value? (environment : Environment) :
    ValueState → (double : Bool) → List Char → Option (List Char)
  | .name name, false, [] => some (environment.valueOf name)
  | .plain, false, [] => some []
  | .escaped, false, [] => some []
  | .ended, _, [] => some []
  | _, _, [] => none
  | .ended, double, c :: rest =>
      if c = ' ' ∨ c = '\t' then environment.value? .ended double rest
      else if c = '#' then some []
      else none
  | .escaped, double, c :: rest => do
      return (← unescaped? c) :: (← environment.value? .plain double rest)
  | .quoted, double, c :: rest =>
      if c = '\'' then environment.value? .plain double rest
      else (environment.value? .quoted double rest).map (c :: ·)
  | .name name, double, c :: rest =>
      if isAlphanumeric c then environment.value? (.name (name ++ [c])) double rest
      else if c = '\x7b' ∧ name = [] then environment.value? (.braced []) double rest
      else if c = '$' then
        (environment.value? (.name []) double rest).map (environment.valueOf name ++ ·)
      else (environment.value? .plain double rest).map (environment.valueOf name ++ c :: ·)
  | .braced name, double, c :: rest =>
      if c = '\x7d' then
        (environment.value? .plain double rest).map (environment.valueOf name ++ ·)
      else environment.value? (.braced (name ++ [c])) double rest
  | .plain, double, c :: rest =>
      if c = '$' then environment.value? (.name []) double rest
      else if c = '\\' then environment.value? .escaped double rest
      else if c = '"' then environment.value? .plain (!double) rest
      else if double then (environment.value? .plain double rest).map (c :: ·)
      else if c = '\'' then environment.value? .quoted double rest
      else if c = ' ' ∨ c = '\t' then environment.value? .ended double rest
      else (environment.value? .plain double rest).map (c :: ·)

def isNameStart (c : Char) : Bool := isAsciiLetter c || c == '_'

def isNameChar (c : Char) : Bool := isAsciiAlphanumeric c || c == '_' || c == '.'

def name? : List Char → Option (String × List Char)
  | c :: rest =>
      if isNameStart c then
        let (name, rest) := takeRun isNameChar rest
        some (String.ofList (c :: name), skipBlanks rest)
      else none
  | [] => none

def afterEquals? : List Char → Option (List Char)
  | '=' :: rest => some (skipBlanks rest)
  | _ => none

/-- The name of a line, which may stand behind the word `export`, and what follows its equals
sign. -/
def nameAndRest? (text : List Char) : Option (String × List Char) := do
  let (name, rest) ← name? text
  match name, afterEquals? rest with
  | _, some rest => return (name, rest)
  | "export", none =>
      let (name, rest) ← name? rest
      return (name, ← afterEquals? rest)
  | _, none => none

def isVoid : List Char → Bool
  | [] => true
  | c :: _ => c == '#'

/-- What the variables are after a line; none if the line is malformed. -/
def addLine? (environment : Environment) (line : List Char) : Option Environment :=
  let text := trim line
  if isVoid text then some environment
  else do
    let (name, rest) ← nameAndRest? text
    if isVoid rest then return environment.add name ""
    else return environment.add name (String.ofList (← environment.value? .plain false rest))

/-- Lines behind a malformed one do not count. -/
def addLines (environment : Environment) : List (List Char) → Environment
  | [] => environment
  | line :: rest =>
      match environment.addLine? line with
      | some environment => environment.addLines rest
      | none => environment

def withFile (environment : Environment) (disk : Disk) : Environment :=
  match disk.read ".env" with
  | .ok text => environment.addLines (splitOn (· == '\n') text.toList)
  | .error _ => environment

end GigListings.Environment
