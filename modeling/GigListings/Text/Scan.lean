import GigListings.Text.Basic

namespace GigListings.Text

/-! Scanning from the left: what was read, and the rest. -/

/-- At most `most` leading characters that satisfy `p`. -/
def takeUpTo (p : Char → Bool) : (most : Nat) → List Char → List Char × List Char
  | 0, text => ([], text)
  | _ + 1, [] => ([], [])
  | most + 1, c :: rest =>
      if p c then
        let (taken, rest) := takeUpTo p most rest
        (c :: taken, rest)
      else ([], c :: rest)

theorem takeUpTo_append (p : Char → Bool) (most : Nat) (text : List Char) :
    (takeUpTo p most text).1 ++ (takeUpTo p most text).2 = text := by
  induction most generalizing text with
  | zero => rfl
  | succ most ih =>
      cases text with
      | nil => rfl
      | cons c rest =>
          by_cases h : p c
          · simp [takeUpTo, h, ih rest]
          · simp [takeUpTo, h]

def takeRun (p : Char → Bool) (text : List Char) : List Char × List Char :=
  (text.takeWhile p, text.dropWhile p)

def skipBlanks (text : List Char) : List Char := text.dropWhile isBlank

/-- The rest after at least one blank. -/
def afterBlanks? : List Char → Option (List Char)
  | c :: rest => if isBlank c then some (skipBlanks rest) else none
  | [] => none

def skipOne (p : Char → Bool) : List Char → List Char
  | c :: rest => if p c then rest else c :: rest
  | [] => []

def startsWithWord : List Char → Bool
  | c :: _ => isWord c
  | [] => false

/-- What follows a lead in a text whose characters are folded before they are compared. -/
def afterFolded? (fold : Char → Char) : (lead text : List Char) → Option (List Char)
  | [], text => some text
  | _ :: _, [] => none
  | c :: lead, d :: text => if fold d = c then afterFolded? fold lead text else none

def number? (digits : List Char) : Option Nat :=
  if digits ≠ [] ∧ digits.all isAsciiDigit then
    some (digits.foldl (fun value c => value * 10 + (c.toNat - '0'.toNat)) 0)
  else none

/-- Between `least` and `most` ASCII digits. -/
def readNumber (least most : Nat) (text : List Char) : Option (Nat × List Char) :=
  let (digits, rest) := takeUpTo isAsciiDigit most text
  if digits.length < least then none
  else (number? digits).map (·, rest)

end GigListings.Text
