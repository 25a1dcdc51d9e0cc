import GigListings.Text.NormalTable

namespace GigListings.Text

/-! The canonical composed form of a text. -/

def readClasses (last : Nat) : List (List Char) → List (Nat × Nat × Nat)
  | gap :: length :: order :: rest =>
      let start := last + hexValue gap
      let stop := start + hexValue length
      (start, stop, hexValue order) :: readClasses stop rest
  | _ => []

def combiningClasses : List (Nat × Nat × Nat) := readClasses 0 (tableTokens combiningTable)

/-- The order in which a mark follows its letter; zero for what is no such mark. -/
def combiningClass (c : Char) : Nat :=
  match combiningClasses.find? fun (start, stop, _) => start ≤ c.toNat && c.toNat < stop with
  | some (_, _, order) => order
  | none => 0

def syllableBase : Nat := 0xAC00

/-- Syllables of Hangul fall apart by arithmetic. -/
def decomposeSyllable (code : Nat) : List Char :=
  let index := code - syllableBase
  let lead := Char.ofNat (0x1100 + index / 588)
  let vowel := Char.ofNat (0x1161 + index % 588 / 28)
  if index % 28 = 0 then [lead, vowel] else [lead, vowel, Char.ofNat (0x11A7 + index % 28)]

/-- Takes a character apart as `parts?` says, and then its parts. -/
def decomposeWith (parts? : Char → Option (List Char)) : (depth : Nat) → Char → List Char
  | 0, c => [c]
  | depth + 1, c =>
      if syllableBase ≤ c.toNat ∧ c.toNat < syllableBase + 11172 then decomposeSyllable c.toNat
      else match parts? c with
        | some parts => parts.flatMap (decomposeWith parts? depth)
        | none => [c]

def decomposeChar (c : Char) : List Char := decomposeWith (decompositions.lookup ·) 8 c

/-- Puts a mark behind the marks of its own order and of lower order. -/
def insertMark (mark : Nat × Char) : List (Nat × Char) → List (Nat × Char)
  | [] => [mark]
  | other :: rest =>
      if mark.1 < other.1 then mark :: other :: rest else other :: insertMark mark rest

/-- Orders runs of marks by their class; `marks` is the run at hand. -/
def orderMarks (classOf : Char → Nat) : (marks : List (Nat × Char)) → List Char → List Char
  | marks, [] => marks.map Prod.snd
  | marks, c :: rest =>
      match classOf c with
      | 0 => marks.map Prod.snd ++ c :: orderMarks classOf [] rest
      | order => orderMarks classOf (insertMark (order, c) marks) rest

def composeSyllable? (a b : Nat) : Option Char :=
  if 0x1100 ≤ a ∧ a < 0x1113 ∧ 0x1161 ≤ b ∧ b < 0x1176 then
    some (Char.ofNat (syllableBase + ((a - 0x1100) * 21 + (b - 0x1161)) * 28))
  else if syllableBase ≤ a ∧ a < syllableBase + 11172 ∧ (a - syllableBase) % 28 = 0 ∧
      0x11A7 < b ∧ b < 0x11C3 then
    some (Char.ofNat (a + (b - 0x11A7)))
  else none

def composePair? (a b : Char) : Option Char :=
  match composeSyllable? a.toNat b.toNat with
  | some c => some c
  | none => (decompositions.find? fun (c, parts) =>
      parts == [a, b] && !uncomposed.contains c.toNat).map Prod.fst

/-- Whether the marks that stay, last first, keep a character apart from their starter. -/
def isBlocked (classOf : Char → Nat) (c : Char) : (skipped : List Char) → Bool
  | [] => false
  | last :: _ => classOf c = 0 || classOf c ≤ classOf last

/-- Composes a starter with the marks behind it that nothing keeps apart from it. -/
def composeFrom (classOf : Char → Nat) (pair? : Char → Char → Option Char) (starter : Char) :
    (skipped : List Char) → List Char → List Char
  | skipped, [] => starter :: skipped.reverse
  | skipped, c :: rest =>
      match (if isBlocked classOf c skipped then none else pair? starter c) with
      | some composed => composeFrom classOf pair? composed skipped rest
      | none =>
          if classOf c = 0 then starter :: skipped.reverse ++ composeFrom classOf pair? c [] rest
          else composeFrom classOf pair? starter (c :: skipped) rest

def compose (classOf : Char → Nat) (pair? : Char → Char → Option Char) : List Char → List Char
  | [] => []
  | c :: rest =>
      if classOf c = 0 then composeFrom classOf pair? c [] rest
      else c :: compose classOf pair? rest

/-- Text in ASCII is composed as it is. -/
def normal (text : List Char) : List Char :=
  if text.all (·.toNat < 128) then text
  else
    compose combiningClass composePair?
      (orderMarks combiningClass [] (text.flatMap decomposeChar))

end GigListings.Text
