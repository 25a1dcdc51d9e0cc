import GigListings.Config.Basic
import GigListings.Gig.Basic
import GigListings.Text.Ranges
import GigListings.Text.Scan

namespace GigListings

open Number Text

/-! Whether the gigs of a run are as many and as complete as a site's rules demand. -/

inductive BatchFault where
  | tooFew (least count : Nat)
  | missing (id path : String)
deriving DecidableEq

def BatchFault.reason : BatchFault → String
  | tooFew least count =>
      "expected at least " ++ toString least ++ " events, got " ++ toString count ++ " (" ++
        toString count ++ " of " ++ toString least ++ "); the site markup may have changed"
  | missing id path => "record " ++ id ++ " is missing required field '" ++ path ++ "'"

def BatchFault.message (fault : BatchFault) : String :=
  "Result validation failed: " ++ fault.reason

namespace Json

def index? : List Char → Option Nat
  | '+' :: digits => number? digits
  | digits => number? digits

def step? (value : Json) (name : List Char) : Option Json :=
  match value with
  | obj members => Members.get? members (String.ofList name)
  | arr items => (index? name).bind (items[·]?)
  | _ => none

def lookup? (value : Json) (path : String) : Option Json :=
  (splitOn (· == '.') path.toList).foldlM step? value

def isTruthy : Json → Bool
  | null => false
  | bool value => value
  | int value => value != 0
  | real value => !value.isZero
  | str text => text ≠ ""
  | arr items => !items.isEmpty
  | obj _ => true

end Json

namespace ValidationRules

/-- The first required path at which a gig holds nothing. -/
def missingPath? (rules : ValidationRules) (gig : Gig) : Option String :=
  rules.required.find? fun path => !(gig.toJson.lookup? path).any Json.isTruthy

def checkGigs (rules : ValidationRules) : List Gig → Except BatchFault Unit
  | [] => .ok ()
  | gig :: rest =>
      match rules.missingPath? gig with
      | some path => .error (.missing gig.id path)
      | none => rules.checkGigs rest

/-- Too few gigs are a fault, too many are not. -/
def check (rules : ValidationRules) (gigs : List Gig) : Except BatchFault Unit :=
  match rules.minEventsExpected with
  | some least =>
      if gigs.length < least.toNat then .error (.tooFew least.toNat gigs.length)
      else rules.checkGigs gigs
  | none => rules.checkGigs gigs

end ValidationRules

end GigListings
