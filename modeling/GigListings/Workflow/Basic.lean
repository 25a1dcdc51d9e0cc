import GigListings.Browser.Capture
import GigListings.Extraction.Page

namespace GigListings

open Css

/-! Workflows: the actions of a site, carried out one after another on a page. -/

inductive StepFault where
  | notLoaded (url : String) (fault : PageFault)
  | page (fault : PageFault)
  | stillVisible (selector : String) (millis : Nat)
  | didNotAppear (selector : String) (millis : Nat)
  | notNavigated
  | selector (fault : SelectorFault)
deriving DecidableEq

def StepFault.message : StepFault → String
  | notLoaded url fault => "could not load " ++ url ++ ": " ++ fault.message
  | page fault => fault.message
  | stillVisible name millis => "'" ++ name ++ "' still visible after " ++ millisText millis
  | didNotAppear name millis => "'" ++ name ++ "' did not appear within " ++ millisText millis
  | notNavigated => "no page has been navigated to yet"
  | selector fault => fault.message

/-- A failure with the place of its action in the workflow. -/
structure ActionFault where
  index : Nat
  kind : Action.Kind
  cause : StepFault
deriving DecidableEq

def ActionFault.message (fault : ActionFault) : String :=
  "Action #" ++ toString fault.index ++ " (" ++ fault.kind.name ++ ") failed: " ++
    fault.cause.message

structure Executor where
  config : Config
  transforms : TransformRegistry
  formats : FormatRegistry
  dates : DateContext
  capture : Capture

/-- Where a run is in its workflow: before the action with an index, behind the last one, or at the
action that failed. -/
inductive RunState where
  | pending (index : Nat)
  | completed
  | failed (index : Nat)
deriving DecidableEq

def RunState.text : RunState → String
  | pending index => "Pending(" ++ toString index ++ ")"
  | completed => "Completed"
  | failed index => "Failed(" ++ toString index ++ ")"

/-- The page on which follow-ups are visited; it is opened when the first one is due. -/
inductive FollowUpPage where
  | unopened
  | opened (page : Page)
  | unavailable
deriving DecidableEq

structure Progress where
  state : RunState
  items : List Item
  navigated : Bool
  followUpPage : FollowUpPage
deriving DecidableEq

namespace Progress

def start : Progress := ⟨.pending 0, [], false, .unopened⟩

def pending (progress : Progress) (index : Nat) : Progress :=
  { progress with state := .pending index }

def completed (progress : Progress) : Progress := { progress with state := .completed }

def failed (progress : Progress) (index : Nat) : Progress :=
  { progress with state := .failed index }

end Progress

namespace Executor

def extractor (executor : Executor) : Extractor :=
  ⟨executor.transforms, executor.config.site.baseUrl, executor.dates, executor.formats⟩

/-- Rests between actions and before visits, if the site asks for it. -/
def rest (executor : Executor) : Run Unit :=
  match executor.config.rateLimit.delayBetweenRequests with
  | some delay => if delay = 0 then return else Run.sleepMillis delay.toNat
  | none => return

/-- Keeps what the page shows when an action fails. -/
def fail (executor : Executor) (kind : Action.Kind) (selector : Option String) (page : Page)
    (cause : StepFault) : Run (Except StepFault α) := do
  discard (executor.capture.take page "failed" kind.name selector)
  return .error cause

def pause (millis : Option UInt64) : Run Unit :=
  match millis with
  | some millis => Run.sleepMillis millis.toNat
  | none => return

end Executor

end GigListings
