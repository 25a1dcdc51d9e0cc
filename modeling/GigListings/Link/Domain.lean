import GigListings.Link.DirectionTable
import GigListings.Link.DomainTable
import GigListings.Link.Punycode
import GigListings.Text.Normal
import GigListings.Text.Class

namespace GigListings.Link

open Text

/-! Domain names in ASCII. -/

def mapDomainChar? (c : Char) : Option (List Char) :=
  if c.toNat < 128 then some [if isAsciiUpper c then Char.ofNat (c.toNat + 32) else c]
  else if keptRanges.contains c.toNat then some [c]
  else if droppedRanges.contains c.toNat then some []
  else match replacementRuns.get? c.toNat with
    | some image => some [image]
    | none => replacementExpansions.lookup c

def mapDomain? (text : List Char) : Option (List Char) :=
  (text.mapM mapDomainChar?).map List.flatten

def isAscii (text : List Char) : Bool := text.all (·.toNat < 128)

def isKept (c : Char) : Bool :=
  if c.toNat < 128 then !isAsciiUpper c else keptRanges.contains c.toNat

def nonJoiner : Char := '\u200C'

def joiner : Char := '\u200D'

/-- Whether the next character is one of these, not counting those that let others join. -/
def joins (ranges : CodeRanges) (text : List Char) : Bool :=
  match text.dropWhile fun c => transparentRanges.contains c.toNat with
  | c :: _ => ranges.contains c.toNat
  | [] => false

/-- A joiner stands behind a character that takes away a vowel; a non-joiner may stand between two
characters that would be joined as well. -/
def joinerFits (before : List Char) (c : Char) (behind : List Char) : Bool :=
  before.head?.any (combiningClass · == 9) ||
    (c == nonJoiner && joins joiningLeftRanges before && joins joiningRightRanges behind)

/-- The text before each character is backwards. -/
def joinersFit : (before : List Char) → List Char → Bool
  | _, [] => true
  | before, c :: behind =>
      (!(c == joiner || c == nonJoiner) || joinerFits before c behind) &&
        joinersFit (c :: before) behind

def isLabel (label : List Char) : Bool :=
  normal label == label && label.all isKept && joinersFit [] label &&
    match label with
    | c :: _ => !markRanges.contains c.toNat
    | [] => true

def marker : List Char := ['x', 'n', '-', '-']

def labelToAscii? (label : List Char) : Option (List Char) :=
  if marker.isPrefixOf label then
    match Punycode.decode? (label.drop marker.length) with
    | some decoded =>
        if isAscii label ∧ decoded ≠ [] ∧ isAscii decoded = false ∧ isLabel decoded then
          some label
        else none
    | none => none
  else if isAscii label then some label
  else if isLabel label then some (marker ++ Punycode.encode label)
  else none

/-- A label as it is shown. -/
def shownLabel (label : List Char) : List Char :=
  if marker.isPrefixOf label then (Punycode.decode? (label.drop marker.length)).getD label
  else label

/-! Directions of writing. A name with characters that are written from right to left is refused
if the direction of one of its labels is in doubt. -/

inductive Direction where
  | leftToRight
  | rightToLeft
  | arabicNumber
  | europeanNumber
  | nonspacing
  | neutral
  | blank
deriving DecidableEq

def asciiDirection (c : Char) : Direction :=
  if isAsciiLetter c then .leftToRight
  else if isAsciiDigit c then .europeanNumber
  else if isBlank c || (0x1C ≤ c.toNat && c.toNat ≤ 0x1F) then .blank
  else .neutral

def direction (c : Char) : Direction :=
  let code := c.toNat
  if code < 128 then asciiDirection c
  else if rightToLeftRanges.contains code then .rightToLeft
  else if arabicNumberRanges.contains code then .arabicNumber
  else if europeanNumberRanges.contains code then .europeanNumber
  else if nonspacingRanges.contains code then .nonspacing
  else if neutralRanges.contains code then .neutral
  else .leftToRight

def Direction.isFromRight (direction : Direction) : Bool :=
  [rightToLeft, arabicNumber].contains direction

def endsFromLeft : List Direction := [.leftToRight, .europeanNumber]

def withinFromLeft : List Direction := endsFromLeft ++ [.nonspacing, .neutral]

def endsFromRight : List Direction := [.rightToLeft, .arabicNumber, .europeanNumber]

def withinFromRight : List Direction := endsFromRight ++ [.nonspacing, .neutral]

/-- Whether a label runs in the direction of its first character to its end, marks behind it aside,
and has no digits of two kinds if it is written from right to left. -/
def runsOneWay (label : List Char) : Bool :=
  let run := ((label.map direction).reverse.dropWhile (· == .nonspacing)).reverse
  match run.head?, run.getLast? with
  | some .leftToRight, some last => endsFromLeft.contains last && run.all withinFromLeft.contains
  | some .rightToLeft, some last =>
      endsFromRight.contains last && run.all withinFromRight.contains &&
        !(run.contains .europeanNumber && run.contains .arabicNumber)
  | _, _ => false

def runOneWay (labels : List (List Char)) : Bool :=
  !labels.any (·.any (direction · |>.isFromRight)) ||
    labels.all fun label => label.isEmpty || runsOneWay label

/-- A domain name in lower case and ASCII, if its labels are well formed. -/
def domainToAscii? (text : List Char) : Option (List Char) := do
  let mapped ← mapDomain? text
  let labels := splitOn (· == '.') (normal mapped)
  let written ← labels.mapM labelToAscii?
  if runOneWay (labels.map shownLabel) then some (written.intersperse ['.']).flatten else none

end GigListings.Link
