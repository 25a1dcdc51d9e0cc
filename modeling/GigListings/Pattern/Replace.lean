import GigListings.Pattern.Parser

namespace GigListings

open Text

/-! What a match captured, and replacing matches by a template. -/

structure Captures where
  text : Array Char
  slots : Array (Option Nat)

namespace Captures

def span? (captures : Captures) (group : Nat) : Option (Nat × Nat) :=
  match captures.slots[2 * group]?, captures.slots[2 * group + 1]? with
  | some (some start), some (some finish) => some (start, finish)
  | _, _ => none

def group? (captures : Captures) (group : Nat) : Option (List Char) :=
  (captures.span? group).map fun (start, finish) =>
    (captures.text.extract start finish).toList

end Captures

namespace CompiledPattern

def captures? (pattern : CompiledPattern) (text : Array Char) (place : Nat) :
    Option Captures :=
  (pattern.program.search text place).map (⟨text, ·⟩)

/-- What a template refers to behind a dollar sign. -/
def reference? : List Char → Option (List Char × List Char)
  | '\x7b' :: rest =>
      let name := rest.takeWhile (· ≠ '\x7d')
      match rest.drop name.length with
      | _ :: rest => some (name, rest)
      | [] => none
  | text =>
      match takeRun isAsciiWord text with
      | ([], _) => none
      | found => some found

def referenced (pattern : CompiledPattern) (captures : Captures) (name : List Char) :
    List Char :=
  let digits := match name with
    | '+' :: digits => digits
    | digits => digits
  let group := match number? digits with
    | some index => some index
    | none => pattern.names.lookup (String.ofList name)
  ((group.bind captures.group?)).getD []

/-- Fills in a template. Two dollar signs stand for one. -/
def expand (pattern : CompiledPattern) (captures : Captures) :
    (fuel : Nat) → List Char → List Char
  | 0, template => template
  | _ + 1, [] => []
  | fuel + 1, '$' :: '$' :: rest => '$' :: expand pattern captures fuel rest
  | fuel + 1, '$' :: rest =>
      match reference? rest with
      | some (name, rest) =>
          referenced pattern captures name ++ expand pattern captures fuel rest
      | none => '$' :: expand pattern captures fuel rest
  | fuel + 1, c :: rest => c :: expand pattern captures fuel rest

/-- All matches from `place` on, at most `fuel`. An empty match does not follow directly on
the match before it, which ended at `last`. -/
def matchesFrom (pattern : CompiledPattern) (text : Array Char) :
    (fuel : Nat) → (place : Nat) → (last : Option Nat) → List Captures
  | 0, _, _ => []
  | fuel + 1, place, last =>
      if text.size < place then []
      else match pattern.captures? text place with
        | none => []
        | some captures =>
            match captures.span? 0 with
            | none => []
            | some (start, finish) =>
                if start = finish ∧ last = some finish then
                  matchesFrom pattern text fuel (place + 1) none
                else captures :: matchesFrom pattern text fuel finish (some finish)

def allMatches (pattern : CompiledPattern) (text : List Char) : List Captures :=
  matchesFrom pattern text.toArray (2 * text.length + 2) 0 none

def replaceIn (pattern : CompiledPattern) (text : Array Char) (template : List Char) :
    (place : Nat) → List Captures → List Char
  | place, [] => (text.extract place text.size).toList
  | place, captures :: rest =>
      match captures.span? 0 with
      | none => replaceIn pattern text template place rest
      | some (start, finish) =>
          (text.extract place start).toList ++
            expand pattern captures template.length template ++
            replaceIn pattern text template finish rest

def replaceAll (pattern : CompiledPattern) (template text : List Char) : List Char :=
  replaceIn pattern text.toArray template 0 (pattern.allMatches text)

def first? (pattern : CompiledPattern) (text : List Char) : Option Captures :=
  pattern.captures? text.toArray 0

end CompiledPattern

end GigListings
