import GigListings.Css.Parser
import GigListings.Html.Document

namespace GigListings.Css

open Text Html

/-! Finding the elements that a selector means. -/

/-- Positions end at the bounds of 32 bits. -/
def Positions.holds (positions : Positions) (index : Nat) : Bool :=
  let distance := (index : Int) - positions.offset
  decide (distance ≤ 2147483647) &&
    if positions.step = 0 then distance == 0
    else distance.tdiv positions.step ≥ 0 &&
      positions.step * distance.tdiv positions.step == distance

/-- The position of an element among its siblings, counted from one. -/
def Positions.indexOf (positions : Positions) (place : Place) : Nat :=
  let siblings := if positions.fromEnd then place.elementsAfter else place.elementsBefore
  1 + if positions.ofType then siblings.countP (·.name == place.element.name) else siblings.length

def Relation.holds (relation : Relation) (value text : List Char) : Bool :=
  match relation with
  | .equal => value == text
  | .word => !text.isEmpty && (splitOn isSpace value).contains text
  | .language => value == text || (text ++ ['-']).isPrefixOf value
  | .lead => !text.isEmpty && text.isPrefixOf value
  | .tail => !text.isEmpty && text.isSuffixOf value
  | .within => !text.isEmpty && Text.contains text value

def ValueTest.holds (test : ValueTest) (name : ElementName) (value : String) : Bool :=
  let ignoresCase : Bool := match test.case with
    | .exact => false
    | .ignored => true
    | .ignoredInHtml => decide (name.space = .html)
  if ignoresCase then
    test.relation.holds (value.toList.map asciiLower) (test.text.toList.map asciiLower)
  else test.relation.holds value.toList test.text.toList

/-- Names are read in lower case, except in drawings and formulas. -/
def nameFor (element : Element) (name : String) : String :=
  if element.name.space = .html then lowered name else name

def attributeHolds (element : Element) (anySpace : Bool) (name : String)
    (test : Option ValueTest) : Bool :=
  element.attributes.any fun attr =>
    (anySpace || attr.space == .plain) && attr.name == nameFor element name &&
      test.all fun test => test.holds element.name attr.value

def isEmptyElement (element : Element) : Bool :=
  element.children.all fun node => node.element?.isNone && !node.isText

mutual

/-- Whether a simple selector means an element; the scope is the number of an element. -/
def Simple.matches (scope : Option Nat) (place : Place) : Simple → Bool
  | .typeName name => place.element.name.name == nameFor place.element name
  | .never => false
  | .id name => place.element.attribute? "id" == some name
  | .className name => place.element.hasClass name
  | .attribute anySpace name test => attributeHolds place.element anySpace name test
  | .nth positions => positions.holds (positions.indexOf place)
  | .root => place.isRoot
  | .empty => isEmptyElement place.element
  | .scope =>
      match scope with
      | some number => place.number == number
      | none => place.isRoot
  | .not alternatives => !anyMatches scope place alternatives

def allMatch (scope : Option Nat) (place : Place) : List Simple → Bool
  | [] => true
  | simple :: rest => simple.matches scope place && allMatch scope place rest

def Complex.matches (scope : Option Nat) (place : Place) : Complex → Bool
  | .alone subject => allMatch scope place subject
  | .after left combinator subject =>
      allMatch scope place subject &&
        match combinator with
        | .child => place.parent?.any fun parent => left.matches scope parent
        | .descendant => place.ancestors.any fun ancestor => left.matches scope ancestor
        | .next => place.preceding.head?.any fun sibling => left.matches scope sibling
        | .later => place.preceding.any fun sibling => left.matches scope sibling

def anyMatches (scope : Option Nat) (place : Place) : List Complex → Bool
  | [] => false
  | complex :: rest => complex.matches scope place || anyMatches scope place rest

end

def Selector.matches (selector : Selector) (scope : Option Nat) (place : Place) : Bool :=
  anyMatches scope place selector.alternatives

end GigListings.Css

namespace GigListings.Html

open Css

def Document.select (document : Document) (selector : Selector) : List Place :=
  document.places.filter (selector.matches none)

def Place.select (place : Place) (selector : Selector) : List Place :=
  place.descendants.filter (selector.matches (some place.number))

end GigListings.Html
