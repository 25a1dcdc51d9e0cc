import GigListings.Text.PropertyTable

namespace GigListings.Text

/-! Character classes. ASCII is decided directly, everything else by the property tables. -/

/-- The White_Space property. -/
def isBlank (c : Char) : Bool :=
  let code := c.toNat
  (9 ≤ code && code ≤ 13) || code == 0x20 || code == 0x85 || code == 0xA0 || code == 0x1680 ||
    (0x2000 ≤ code && code ≤ 0x200A) || code == 0x2028 || code == 0x2029 || code == 0x202F ||
    code == 0x205F || code == 0x3000

def isAsciiDigit (c : Char) : Bool := '0' ≤ c && c ≤ '9'

def isAsciiLower (c : Char) : Bool := 'a' ≤ c && c ≤ 'z'

def isAsciiUpper (c : Char) : Bool := 'A' ≤ c && c ≤ 'Z'

def isAsciiLetter (c : Char) : Bool := isAsciiLower c || isAsciiUpper c

def isAsciiAlphanumeric (c : Char) : Bool := isAsciiLetter c || isAsciiDigit c

def isLetter (c : Char) : Bool :=
  if c.toNat < 128 then isAsciiLetter c else alphabeticRanges.contains c.toNat

def isNumeric (c : Char) : Bool :=
  if c.toNat < 128 then isAsciiDigit c else numericRanges.contains c.toNat

def isAlphanumeric (c : Char) : Bool := isLetter c || isNumeric c

/-- A decimal digit of any script. -/
def isDigit (c : Char) : Bool :=
  if c.toNat < 128 then isAsciiDigit c else decimalRanges.contains c.toNat

/-- A character that words are made of: letters, marks, decimal digits, connecting
punctuation and the two joiners. -/
def isWord (c : Char) : Bool :=
  if c.toNat < 128 then isAsciiAlphanumeric c || c == '_'
  else
    let code := c.toNat
    alphabeticRanges.contains code || markRanges.contains code || decimalRanges.contains code ||
      connectorRanges.contains code || code == 0x200C || code == 0x200D

def isCased (c : Char) : Bool :=
  if c.toNat < 128 then isAsciiLetter c else casedRanges.contains c.toNat

def isCaseIgnorable (c : Char) : Bool := caseIgnorableRanges.contains c.toNat

end GigListings.Text
