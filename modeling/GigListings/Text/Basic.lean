import GigListings.Text.Case

namespace GigListings.Text

/-! Trimming, splitting and joining of texts. -/

def trimStart (text : List Char) : List Char := text.dropWhile isBlank

def trimEnd (text : List Char) : List Char := (text.reverse.dropWhile isBlank).reverse

def trim (text : List Char) : List Char := trimEnd (trimStart text)

/-- Replaces every run of blanks by one space, none if a run is already being replaced. -/
def squeezeAfter (blank : Bool) : List Char → List Char
  | [] => []
  | c :: rest =>
      if isBlank c then
        if blank then squeezeAfter true rest else ' ' :: squeezeAfter true rest
      else c :: squeezeAfter false rest

def squeeze (text : List Char) : List Char := squeezeAfter false text

/-- Trimmed, with inner runs of blanks collapsed. -/
def collapse (text : List Char) : List Char := squeeze (trim text)

def words (text : List Char) : List (List Char) :=
  (splitOn isBlank text).filter (· ≠ [])

def intercalate (separator : List Char) (pieces : List (List Char)) : List Char :=
  (pieces.intersperse separator).flatten

/-- What follows `lead` in a text that starts with it. -/
def afterLead? : (lead text : List Char) → Option (List Char)
  | [], text => some text
  | _ :: _, [] => none
  | c :: lead, d :: text => if c = d then afterLead? lead text else none

def contains (needle : List Char) : List Char → Bool
  | [] => needle.isEmpty
  | c :: rest => (afterLead? needle (c :: rest)).isSome || contains needle rest

/-- The runs of characters that satisfy `p`, joined by hyphens or the like. -/
def joinRuns (p : Char → Bool) (separator : Char) (text : List Char) : List Char :=
  intercalate [separator] ((splitOn (fun c => !p c) text).filter (· ≠ []))

/-- A name in lower case, its letters and digits joined by hyphens. -/
def slug (name : List Char) : List Char := joinRuns isAlphanumeric '-' (lower name)

end GigListings.Text
