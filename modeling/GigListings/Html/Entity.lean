import GigListings.Html.EntityTable
import GigListings.Text.Scan

namespace GigListings.Html

open Text

/-! Character references. -/

structure Entity where
  characters : List Char
  /-- Whether the name may stand without a semicolon. -/
  bare : Bool
deriving Inhabited

structure Entities where
  names : Array String
  entities : Array Entity
deriving Inhabited

def entityOfText (text : List Char) : Entity :=
  match text with
  | '-' :: codes => ⟨decode codes, true⟩
  | codes => ⟨decode codes, false⟩
where
  decode (codes : List Char) : List Char :=
    (splitOn (· == '+') codes).map fun code => Char.ofNat (hexValue code)

def readEntities (table : Entities) : List (List Char) → Entities
  | name :: codes :: rest =>
      readEntities ⟨table.names.push (String.ofList name), table.entities.push (entityOfText codes)⟩
        rest
  | _ => table

def entities : Entities := readEntities ⟨#[], #[]⟩ (tableTokens entityTable)

/-- How many names of a sorted array come before `name`, searched in `lo..hi`. -/
def countBefore (names : Array String) (name : String) (lo hi : Nat) : Nat :=
  if lo < hi then
    let mid := (lo + hi) / 2
    if names.getD mid "" < name then countBefore names name (mid + 1) hi
    else countBefore names name lo mid
  else lo
termination_by hi - lo

def entity? (name : List Char) : Option Entity :=
  let name := String.ofList name
  let index := countBefore entities.names name 0 entities.names.size
  if entities.names.getD index "" = name then entities.entities[index]? else none

/-- The longest of the names that begin a text and need no semicolon. -/
def bareEntity? (run : List Char) : (length : Nat) → Option (List Char × List Char)
  | 0 => none
  | length + 1 =>
      match (entity? (run.take (length + 1))).filter (·.bare) with
      | some entity => some (entity.characters, run.drop (length + 1))
      | none => bareEntity? run length

/-- In an attribute, a bare name does not count before a letter, a digit or an equals sign. -/
def continuesName : List Char → Bool
  | c :: _ => isAsciiAlphanumeric c || c == '='
  | [] => false

def namedReference? (inAttribute : Bool) (text : List Char) : Option (List Char × List Char) :=
  let (run, rest) := takeUpTo isAsciiAlphanumeric 32 text
  let whole := match rest with
    | ';' :: rest => (entity? run).map fun entity => (entity.characters, rest)
    | _ => none
  match whole with
  | some found => some found
  | none =>
      match bareEntity? run run.length with
      | some (characters, more) =>
          if inAttribute && continuesName (more ++ rest) then none
          else some (characters, more ++ rest)
      | none => none

/-- What old pages mean by the codes from 0x80 to 0x9F. -/
def windowsCodes : List Nat :=
  [0x20AC, 0x81, 0x201A, 0x192, 0x201E, 0x2026, 0x2020, 0x2021, 0x2C6, 0x2030, 0x160, 0x2039, 0x152,
    0x8D, 0x17D, 0x8F, 0x90, 0x2018, 0x2019, 0x201C, 0x201D, 0x2022, 0x2013, 0x2014, 0x2DC, 0x2122,
    0x161, 0x203A, 0x153, 0x9D, 0x17E, 0x178]

def codeCharacter (code : Nat) : Char :=
  if code = 0 ∨ 0x10FFFF < code ∨ (0xD800 ≤ code ∧ code ≤ 0xDFFF) then '\uFFFD'
  else if 0x80 ≤ code ∧ code ≤ 0x9F then Char.ofNat (windowsCodes.getD (code - 0x80) code)
  else Char.ofNat code

def dropSemicolon : List Char → List Char
  | ';' :: rest => rest
  | rest => rest

def isHexDigit (c : Char) : Bool := (hexDigit? c).isSome

def numericReference? (text : List Char) : Option (List Char × List Char) :=
  match text with
  | 'x' :: rest => hexadecimal rest
  | 'X' :: rest => hexadecimal rest
  | text =>
      let (digits, rest) := takeRun isAsciiDigit text
      (number? digits).map fun code => ([codeCharacter code], dropSemicolon rest)
where
  hexadecimal (text : List Char) : Option (List Char × List Char) :=
    let (digits, rest) := takeRun isHexDigit text
    if digits = [] then none
    else some ([codeCharacter (hexValue digits)], dropSemicolon rest)

def reference? (inAttribute : Bool) (text : List Char) : Option (List Char × List Char) :=
  match text with
  | '#' :: rest => numericReference? rest
  | text => namedReference? inAttribute text

def decodeUpTo (inAttribute : Bool) : (fuel : Nat) → List Char → List Char
  | 0, text => text
  | _, [] => []
  | fuel + 1, '&' :: rest =>
      match reference? inAttribute rest with
      | some (characters, rest) => characters ++ decodeUpTo inAttribute fuel rest
      | none => '&' :: decodeUpTo inAttribute fuel rest
  | fuel + 1, c :: rest => c :: decodeUpTo inAttribute fuel rest

def decodeReferences (inAttribute : Bool) (text : List Char) : List Char :=
  decodeUpTo inAttribute text.length text

end GigListings.Html
