import GigListings.Workflow.Basic

namespace GigListings

/-! Waiting until a selector finds something, or nothing visible any more. -/

def WaitCondition.holds (condition : WaitCondition) (state : SelectorState) : Bool :=
  match condition with
  | .visible => state = .visible
  | .hidden => state ≠ .visible
  | .networkIdle => true

/-- Milliseconds between two looks at a page. -/
def pollInterval : Nat := 100

/-- Looks at a page, at most so many times, until a condition holds or the time is over; gives
whether it holds. -/
def Page.poll (page : Page) (selector : String) (condition : WaitCondition) (deadline : Nat) :
    (looks : Nat) → Run (Except PageFault Bool)
  | 0 => return .ok false
  | looks + 1 => do
      match ← page.call (.state selector) with
      | .error fault => return .error fault
      | .ok state =>
          if condition.holds state then return .ok true
          else if deadline ≤ (← Run.time) then return .ok false
          else
            Run.sleepMillis pollInterval
            page.poll selector condition deadline looks

/-- Looks once in an interval; as no sleep is cut short, the time is over before the looks are. -/
def Page.waitFor (page : Page) (selector : String) (condition : WaitCondition) (millis : Nat) :
    Run (Except PageFault Bool) := do
  page.poll selector condition ((← Run.time) + 1000 * millis) (millis / pollInterval + 2)

namespace Executor

/-- After half as long again, it is enough that the element is there. -/
def recover (executor : Executor) (selector : String) (millis : Nat) (page : Page) :
    Run (Except StepFault Unit) := do
  discard (executor.capture.take page "before" "wait" (some selector))
  Run.sleep (500 * millis)
  match ← page.call (.state selector) with
  | .error fault => executor.fail .wait (some selector) page (.page fault)
  | .ok state =>
      if state.isPresent then return .ok ()
      else
        discard (executor.capture.take page "after" "wait" (some selector))
        return .error (.didNotAppear selector millis)

def waitForIdle (executor : Executor) (selector : Option String) (millis : Nat) (page : Page) :
    Run (Except StepFault Unit) := do
  match ← page.call (.idle millis) with
  | .ok () => return .ok ()
  | .error fault => executor.fail .wait selector page (.page fault)

def waitForSelector (executor : Executor) (selector : String) (condition : WaitCondition)
    (millis : Nat) (page : Page) : Run (Except StepFault Unit) := do
  match ← page.waitFor selector condition millis with
  | .error fault => executor.fail .wait (some selector) page (.page fault)
  | .ok true => return .ok ()
  | .ok false =>
      if condition = .visible then executor.recover selector millis page
      else executor.fail .wait (some selector) page (.stillVisible selector millis)

def wait (executor : Executor) (action : WaitAction) (page : Page) :
    Run (Except StepFault Unit) :=
  let millis := (action.timeout.getD executor.config.browser.timeout).toNat
  match action.selector with
  | none => executor.waitForIdle none millis page
  | some selector =>
      if action.condition = .networkIdle then executor.waitForIdle (some selector) millis page
      else executor.waitForSelector selector action.condition millis page

end Executor

end GigListings
