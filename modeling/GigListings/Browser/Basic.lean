import GigListings.Config.Basic
import GigListings.Css.Parser

namespace GigListings

open Css

/-! What is asked of a browser, and what it answers. -/

inductive SelectorState where
  | absent
  | hidden
  | visible
deriving DecidableEq, Repr

def SelectorState.isPresent (state : SelectorState) : Bool := state ≠ .absent

inductive PageFault where
  | noDocument
  | noSavedPage (url : String)
  | noElement (selector : String)
  | selector (fault : SelectorFault)
  /-- In the browser's own words. -/
  | reported (message : String)
deriving DecidableEq

def PageFault.message : PageFault → String
  | noDocument => "Browser error: No document loaded; navigate first"
  | noSavedPage url => "Browser error: No fixture page for " ++ url
  | noElement name => "Browser error: No element matches '" ++ name ++ "'"
  | selector fault => fault.message
  | reported message => "Browser error: " ++ message

inductive PageCall where
  | goto (url : String) (waitForLoad : Bool)
  | state (selector : String)
  /-- Waits until nothing has been loaded for a while, for so many milliseconds at most. -/
  | idle (millis : Nat)
  | click (selector : String)
  | scroll (direction : ScrollDirection) (amount : Int64)
  | content
  | screenshot
  | close
deriving DecidableEq

/-- What a page answers to a call that succeeds. There may be no picture of a page. -/
abbrev PageCall.Answer : PageCall → Type
  | goto _ _ => Unit
  | state _ => SelectorState
  | idle _ => Unit
  | click _ => Unit
  | scroll _ _ => Unit
  | content => String
  | screenshot => Option String
  | close => Unit

/-- Pages are numbered from one in the order in which they are opened. -/
inductive Call where
  | openPage (page : Nat) (options : BrowserOptions)
  | onPage (page : Nat) (call : PageCall)
deriving DecidableEq

namespace Call

def page : Call → Nat
  | openPage page _ => page
  | onPage page _ => page

abbrev Answer : Call → Type
  | openPage _ _ => Unit
  | onPage _ call => call.Answer

end Call

/-- A call with the time at which it was made, in microseconds from the start of a run. -/
structure Event where
  time : Nat
  call : Call
  answer : Except PageFault call.Answer

/-- The calls that have been made, the latest first. -/
abbrev History := List Event

/-- What a browser answers to a call, given the calls before it and the time. -/
structure Browser where
  answer : History → (time : Nat) → (call : Call) → Except PageFault call.Answer

end GigListings
