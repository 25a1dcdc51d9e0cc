namespace GigListings.Text

/-! Numbers written in base 16 and separated by blanks: the form in which tables are kept. -/

def hexDigit? (c : Char) : Option Nat :=
  if '0' ≤ c ∧ c ≤ '9' then some (c.toNat - '0'.toNat)
  else if 'a' ≤ c ∧ c ≤ 'f' then some (c.toNat - 'a'.toNat + 10)
  else if 'A' ≤ c ∧ c ≤ 'F' then some (c.toNat - 'A'.toNat + 10)
  else none

/-- The value of the leading digits' base 16 numeral, other characters skipped. -/
def hexValue (digits : List Char) : Nat :=
  digits.foldl (fun value c => match hexDigit? c with
    | some d => value * 16 + d
    | none => value) 0

def hexInt (digits : List Char) : Int :=
  match digits with
  | '-' :: rest => -(hexValue rest : Int)
  | _ => hexValue digits

def splitOn (isSeparator : Char → Bool) : List Char → List (List Char)
  | [] => [[]]
  | c :: rest =>
      if isSeparator c then [] :: splitOn isSeparator rest
      else match splitOn isSeparator rest with
        | piece :: pieces => (c :: piece) :: pieces
        | [] => [[c]]

def tableTokens (table : String) : List (List Char) :=
  (splitOn (fun c => c == ' ' || c == '\n') table.toList).filter (· ≠ [])

/-! Sets of code points as sorted disjoint ranges. -/

structure CodeRanges where
  starts : Array Nat
  stops : Array Nat
deriving Inhabited

/-- How many entries of a sorted array are at most `x`, searched in `lo..hi`. -/
def countLe (entries : Array Nat) (x lo hi : Nat) : Nat :=
  if lo < hi then
    let mid := (lo + hi) / 2
    if entries.getD mid 0 ≤ x then countLe entries x (mid + 1) hi
    else countLe entries x lo mid
  else lo
termination_by hi - lo

namespace CodeRanges

def contains (ranges : CodeRanges) (code : Nat) : Bool :=
  match countLe ranges.starts code 0 ranges.starts.size with
  | 0 => false
  | index + 1 => code < ranges.stops.getD index 0

def ofGaps (ranges : CodeRanges) (stop : Nat) :
    List (List Char) → CodeRanges
  | gap :: length :: rest =>
      let start := stop + hexValue gap
      let next := start + hexValue length
      ofGaps ⟨ranges.starts.push start, ranges.stops.push next⟩ next rest
  | _ => ranges

/-- Each range is its distance from the end of the range before it, then its length. -/
def ofText (table : String) : CodeRanges :=
  ofGaps ⟨#[], #[]⟩ 0 (tableTokens table)

end CodeRanges

end GigListings.Text
