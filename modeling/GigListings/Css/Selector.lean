namespace GigListings.Css

/-! Selectors: which elements of a page are meant. -/

inductive Combinator where
  | child
  | descendant
  | next
  | later
deriving DecidableEq, Repr

inductive Relation where
  | equal
  /-- One of the words in it. -/
  | word
  /-- The text alone, or with a dash behind it. -/
  | language
  | lead
  | tail
  | within
deriving DecidableEq, Repr

inductive CaseRule where
  | exact
  | ignored
  /-- Ignored for elements of the page, not in drawings and formulas. -/
  | ignoredInHtml
deriving DecidableEq, Repr

structure ValueTest where
  relation : Relation
  text : String
  case : CaseRule
deriving DecidableEq

/-- Positions among siblings: those that are `step * n + offset` for some `n` from zero on. -/
structure Positions where
  ofType : Bool
  fromEnd : Bool
  step : Int
  offset : Int
deriving DecidableEq

mutual

inductive Simple where
  | typeName (name : String)
  /-- No element at all. -/
  | never
  | id (name : String)
  | className (name : String)
  | attribute (anySpace : Bool) (name : String) (test : Option ValueTest)
  | nth (positions : Positions)
  | root
  | empty
  | scope
  | not (alternatives : List Complex)

/-- Simple selectors for one element, and what has to stand to the left of it. -/
inductive Complex where
  | alone (subject : List Simple)
  | after (left : Complex) (combinator : Combinator) (subject : List Simple)

end

structure Selector where
  alternatives : List Complex

end GigListings.Css
