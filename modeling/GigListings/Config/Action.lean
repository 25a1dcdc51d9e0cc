import GigListings.Config.Field

namespace GigListings

/-! The steps of a workflow. -/

inductive WaitCondition where
  | visible
  | hidden
  | networkIdle
deriving DecidableEq, Repr

def WaitCondition.name : WaitCondition → String
  | visible => "visible"
  | hidden => "hidden"
  | networkIdle => "networkidle"

def WaitCondition.all : List WaitCondition := [visible, hidden, networkIdle]

inductive ScrollDirection where
  | up
  | down
  | bottom
deriving DecidableEq, Repr

def ScrollDirection.name : ScrollDirection → String
  | up => "up"
  | down => "down"
  | bottom => "bottom"

def ScrollDirection.all : List ScrollDirection := [up, down, bottom]

structure NavigateAction where
  url : String
  waitForLoad : Option Bool
deriving BEq

structure WaitAction where
  selector : Option String
  condition : WaitCondition
  /-- In milliseconds; the browser's timeout if there is none. -/
  timeout : Option UInt64
deriving BEq

structure ClickAction where
  selector : String
  optional : Bool
  waitAfter : Option UInt64
deriving BEq

structure ScrollAction where
  direction : ScrollDirection
  amount : Option Int64
  waitAfter : Option UInt64
deriving BEq

/-- Headings and events side by side: a heading's date applies to the events after it. -/
structure DateGroups where
  headingSelector : String
  eventSelector : String
  format : Option String
deriving BEq

structure ExtractAction where
  containerSelector : String
  fields : FieldRules
  /-- Applied to every item of the action. -/
  followUp : Option FollowUp
  dateGroups : Option DateGroups
deriving BEq

inductive Action where
  | navigate (action : NavigateAction)
  | wait (action : WaitAction)
  | click (action : ClickAction)
  | scroll (action : ScrollAction)
  | extract (action : ExtractAction)
deriving BEq

inductive Action.Kind where
  | navigate
  | wait
  | click
  | scroll
  | extract
deriving DecidableEq, Repr

def Action.Kind.all : List Action.Kind := [navigate, wait, click, scroll, extract]

def Action.Kind.name : Action.Kind → String
  | navigate => "navigate"
  | wait => "wait"
  | click => "click"
  | scroll => "scroll"
  | extract => "extract"

def Action.kind : Action → Action.Kind
  | navigate _ => .navigate
  | wait _ => .wait
  | click _ => .click
  | scroll _ => .scroll
  | extract _ => .extract

end GigListings
