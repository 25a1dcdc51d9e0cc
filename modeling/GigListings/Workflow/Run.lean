import GigListings.Link.Resolve
import GigListings.Workflow.FollowUps
import GigListings.Workflow.Wait

namespace GigListings.Executor

/-! Carrying out a workflow. The first action that fails ends it. -/

def target (executor : Executor) (action : NavigateAction) : String :=
  let baseUrl := executor.config.site.baseUrl
  ((Link.resolve? action.url.toList baseUrl.toList none).map String.ofList).getD baseUrl

def navigate (executor : Executor) (action : NavigateAction) (page : Page) :
    Run (Except StepFault Unit) := do
  let url := executor.target action
  match ← page.call (.goto url (action.waitForLoad.getD true)) with
  | .ok () => return .ok ()
  | .error fault => executor.fail .navigate none page (.notLoaded url fault)

/-- An optional click that fails is passed over. -/
def click (executor : Executor) (action : ClickAction) (page : Page) :
    Run (Except StepFault Unit) := do
  match ← page.call (.click action.selector) with
  | .ok () =>
      pause action.waitAfter
      return .ok ()
  | .error fault =>
      if action.optional then return .ok ()
      else executor.fail .click (some action.selector) page (.page fault)

def defaultScroll : Int64 := 800

def scroll (executor : Executor) (action : ScrollAction) (page : Page) :
    Run (Except StepFault Unit) := do
  match ← page.call (.scroll action.direction (action.amount.getD defaultScroll)) with
  | .ok () =>
      pause action.waitAfter
      return .ok ()
  | .error fault => executor.fail .scroll none page (.page fault)

def extract (executor : Executor) (action : ExtractAction) (page : Page) (progress : Progress) :
    Run (Except StepFault Progress) := do
  if !progress.navigated then return .error .notNavigated
  match ← page.call .content with
  | .error fault => executor.fail .extract none page (.page fault)
  | .ok html =>
      match executor.extractor.extractPage action html with
      | .error fault => return .error (.selector fault)
      | .ok found => return .ok (← executor.completeAll progress found)

/-- Leaves the progress as it is, but for navigations. -/
def keeping (progress : Progress) (step : Run (Except StepFault Unit)) :
    Run (Except StepFault Progress) := do
  match ← step with
  | .ok () => return .ok progress
  | .error cause => return .error cause

def perform (executor : Executor) (action : Action) (page : Page) (progress : Progress) :
    Run (Except StepFault Progress) :=
  match action with
  | .navigate action =>
      keeping { progress with navigated := true } (executor.navigate action page)
  | .wait action => keeping progress (executor.wait action page)
  | .click action => keeping progress (executor.click action page)
  | .scroll action => keeping progress (executor.scroll action page)
  | .extract action => executor.extract action page progress

/-- Carries out the actions from an index on; a failed action leaves the progress before it. -/
def performAll (executor : Executor) (page : Page) (index : Nat) (progress : Progress) :
    List Action → Run (Progress × Option ActionFault)
  | [] => return (progress.completed, none)
  | action :: rest => do
      if index ≠ 0 then executor.rest
      match ← executor.perform action page (progress.pending index) with
      | .ok progress => executor.performAll page (index + 1) progress rest
      | .error cause => return (progress.failed index, some ⟨index, action.kind, cause⟩)

/-- A page that is closed is gone, however the closing goes. -/
def closeFollowUps : FollowUpPage → Run FollowUpPage
  | .opened page => do
      discard (page.call .close)
      return .unopened
  | followUps => return followUps

def run (executor : Executor) (page : Page) : Run (Except ActionFault Progress) := do
  let (progress, fault) ← executor.performAll page 0 .start executor.config.workflow
  let followUpPage ← closeFollowUps progress.followUpPage
  match fault with
  | none => return .ok { progress with followUpPage }
  | some fault => return .error fault

end GigListings.Executor
