import GigListings.Text.Case
import GigListings.Text.Category

namespace GigListings

open Text

/-! Regular expressions, with capture groups and greedy and lazy repetition. -/

inductive CharSet where
  | none
  | range (low high : Char)
  | all (holds : Char → Bool)
  | union (a b : CharSet)
  | inter (a b : CharSet)
  | diff (a b : CharSet)
  | symmDiff (a b : CharSet)
  | compl (a : CharSet)
  | caseless (a : CharSet)

namespace CharSet

def contains : CharSet → Char → Bool
  | none, _ => false
  | range low high, c => low ≤ c && c ≤ high
  | all holds, c => holds c
  | union a b, c => a.contains c || b.contains c
  | inter a b, c => a.contains c && b.contains c
  | diff a b, c => a.contains c && !b.contains c
  | symmDiff a b, c => a.contains c != b.contains c
  | compl a, c => !a.contains c
  | caseless a, c => (caseOrbit c).any a.contains

def single (c : Char) : CharSet := range c c

end CharSet

inductive Anchor where
  | textStart
  | textEnd
  | lineStart
  | lineEnd
  | returnLineStart
  | returnLineEnd
  | wordEdge
  | notWordEdge
  | wordStart
  | wordEnd
  | wordStartHalf
  | wordEndHalf
  | asciiWordEdge
  | notAsciiWordEdge
deriving DecidableEq

def isAsciiWord (c : Char) : Bool := isAsciiAlphanumeric c || c == '_'

namespace Anchor

def holds (anchor : Anchor) (before after : Option Char) : Bool :=
  let wordBefore := before.any isWord
  let wordAfter := after.any isWord
  match anchor with
  | textStart => before.isNone
  | textEnd => after.isNone
  | lineStart => before.all (· == '\n')
  | lineEnd => after.all (· == '\n')
  | returnLineStart =>
      before.all (· == '\n') || (before == some '\r' && after != some '\n')
  | returnLineEnd =>
      after.all (· == '\r') || (after == some '\n' && before != some '\r')
  | wordEdge => wordBefore != wordAfter
  | notWordEdge => wordBefore == wordAfter
  | wordStart => !wordBefore && wordAfter
  | wordEnd => wordBefore && !wordAfter
  | wordStartHalf => !wordBefore
  | wordEndHalf => !wordAfter
  | asciiWordEdge => before.any isAsciiWord != after.any isAsciiWord
  | notAsciiWordEdge => before.any isAsciiWord == after.any isAsciiWord

end Anchor

structure Repetition where
  least : Nat
  most : Option Nat
  greedy : Bool
deriving DecidableEq

inductive Pattern where
  | empty
  | char (set : CharSet)
  | anchor (anchor : Anchor)
  | group (index : Nat) (body : Pattern)
  | seq (first second : Pattern)
  | alt (first second : Pattern)
  | rep (repetition : Repetition) (body : Pattern)

namespace Pattern

def seqAll : List Pattern → Pattern
  | [] => empty
  | [pattern] => pattern
  | pattern :: rest => seq pattern (seqAll rest)

/-- Whether the pattern matches the empty text somewhere. -/
def isNullable : Pattern → Bool
  | empty => true
  | char _ => false
  | anchor _ => true
  | group _ body => body.isNullable
  | seq first second => first.isNullable && second.isNullable
  | alt first second => first.isNullable || second.isNullable
  | rep repetition body => repetition.least == 0 || body.isNullable

/-- About how many bytes the pattern takes once its repetitions are written out. -/
def weight : Pattern → Nat
  | empty => 24
  | char _ => 32
  | anchor _ => 24
  | group _ body => 48 + body.weight
  | seq first second => first.weight + second.weight
  | alt first second => 32 + first.weight + second.weight
  | rep repetition body =>
      let copies := max 1 (max repetition.least (repetition.most.getD 0))
      copies * (body.weight + 16)

/-- Patterns that take more bytes than this are refused. -/
def weightLimit : Nat := 10485760

end Pattern

end GigListings
