import GigListings.Text.Class
import GigListings.Text.CaseTable

namespace GigListings.Text

/-! Lower and upper case, character by character except for the final sigma. -/

def asciiLower (c : Char) : Char :=
  if isAsciiUpper c then Char.ofNat (c.toNat + 32) else c

def asciiUpper (c : Char) : Char :=
  if isAsciiLower c then Char.ofNat (c.toNat - 32) else c

def lowerChar (c : Char) : List Char :=
  if c.toNat < 128 then [asciiLower c]
  else match lowerExpansions.lookup c with
    | some images => images
    | none => [(lowerRuns.get? c.toNat).getD c]

def upperChar (c : Char) : List Char :=
  if c.toNat < 128 then [asciiUpper c]
  else match upperExpansions.lookup c with
    | some images => images
    | none => [(upperRuns.get? c.toNat).getD c]

/-- Whether the next character that case context does not skip has case. -/
def nextIsCased (text : List Char) : Bool :=
  match text.dropWhile isCaseIgnorable with
  | c :: _ => isCased c
  | [] => false

/-- Lowers a text whose earlier characters, nearest first, are `before`. A capital sigma
that ends a word becomes the final form. -/
def lowerAfter (before : List Char) : List Char → List Char
  | [] => []
  | c :: rest =>
      let image :=
        if c = 'Σ' then
          if nextIsCased before && !nextIsCased rest then ['ς'] else ['σ']
        else lowerChar c
      image ++ lowerAfter (c :: before) rest

def lower (text : List Char) : List Char := lowerAfter [] text

def upper (text : List Char) : List Char := text.flatMap upperChar

/-- The character that stands for `c` in caseless comparison. -/
def foldChar (c : Char) : Char :=
  if c.toNat < 128 then asciiLower c else (foldRuns.get? c.toNat).getD c

def caseOrbit (c : Char) : List Char :=
  let folded := foldChar c
  folded :: ((if isAsciiLower folded then [asciiUpper folded] else []) ++
    foldRuns.sources folded)

end GigListings.Text
