import GigListings.Proofs.Run.Makes
import GigListings.Workflow.Run

namespace GigListings

open Run

namespace Executor

/-! A workflow in parts: an action, what comes after it, and what is left after the last one. -/

/-- What comes after an action: the later ones, unless it failed. -/
def proceed (executor : Executor) (page : Page) (index : Nat) (action : Action)
    (later : List Action) (before : Progress) :
    Except StepFault Progress → Run (Progress × Option ActionFault)
  | .ok progress => executor.performAll page (index + 1) progress later
  | .error cause => return (before.failed index, some ⟨index, action.kind, cause⟩)

theorem performAll_cons (executor : Executor) (page : Page) (index : Nat) (progress : Progress)
    (action : Action) (later : List Action) :
    executor.performAll page index progress (action :: later) =
      (if index ≠ 0 then executor.rest else pure () :) >>= fun _ =>
        executor.perform action page (progress.pending index) >>=
          executor.proceed page index action later progress := by
  unfold performAll
  split <;> rfl

def finish (progress : Progress) (fault : Option ActionFault) :
    Run (Except ActionFault Progress) := do
  let followUpPage ← closeFollowUps progress.followUpPage
  match fault with
  | none => return .ok { progress with followUpPage }
  | some fault => return .error fault

theorem run_eq (executor : Executor) (page : Page) :
    executor.run page =
      executor.performAll page 0 .start executor.config.workflow >>= fun done =>
        finish done.1 done.2 := rfl

end Executor

/-! A workflow takes the same steps with other captures, and with other rules for its results.
Waits, clicks and scrolls make none but quiet calls, and no action closes a page. -/

/-- The executor with other rules, other options for looking into failures, and other captures. -/
def Executor.refitted (executor : Executor) (rules : ValidationRules) (debug : DebugOptions)
    (capture : Capture) : Executor :=
  { executor with config := { executor.config with validation := rules, debug }, capture }

namespace Run.Beside

section Shared

variable {allowed : Call → Prop} {capture other : Capture}

theorem pause (millis : Option UInt64) :
    Beside allowed capture other (Executor.pause millis) (Executor.pause millis) := by
  cases millis with
  | none => exact pure _
  | some millis => exact sleep _

theorem rest (executor : Executor) :
    Beside allowed capture other executor.rest executor.rest := by
  unfold Executor.rest
  split
  · split
    · exact pure _
    · exact sleep _
  · exact pure _

theorem keeping {step step' : Run (Except StepFault Unit)}
    (beside : Beside allowed capture other step step') (progress : Progress) :
    Beside allowed capture other (Executor.keeping progress step)
      (Executor.keeping progress step') := by
  refine bind beside fun result => ?_
  cases result with
  | ok _ => exact pure _
  | error cause => exact pure _

theorem closeFollowUps (closing : ∀ number, allowed (.onPage number .close))
    (followUps : FollowUpPage) :
    Beside allowed capture other (Executor.closeFollowUps followUps)
      (Executor.closeFollowUps followUps) := by
  cases followUps with
  | opened page => exact bind (bind (call (closing page.number)) fun _ => pure ()) fun _ => pure _
  | unopened => exact pure _
  | unavailable => exact pure _

theorem finish (closing : ∀ number, allowed (.onPage number .close)) (progress : Progress)
    (fault : Option ActionFault) :
    Beside allowed capture other (Executor.finish progress fault)
      (Executor.finish progress fault) := by
  refine bind (closeFollowUps closing progress.followUpPage) fun _ => ?_
  cases fault with
  | none => exact pure _
  | some fault => exact pure _

/-! Pictures are not in question: only captures take them. -/

variable (quiet : ∀ call : Call, call.IsQuiet → call.takesPicture = false → allowed call)
include quiet

theorem poll (page : Page) (selector : String) (condition : WaitCondition) (deadline looks : Nat) :
    Beside allowed capture other (page.poll selector condition deadline looks)
      (page.poll selector condition deadline looks) := by
  induction looks with
  | zero => exact pure _
  | succ looks induction =>
      refine bind (call (quiet _ ⟨rfl, rfl⟩ rfl)) fun answer => ?_
      cases answer with
      | error fault => exact pure _
      | ok state =>
          dsimp only
          split
          · exact pure _
          · refine bind time fun now => ?_
            split
            · exact pure _
            · exact bind (sleep _) fun _ => induction

theorem waitFor (page : Page) (selector : String) (condition : WaitCondition) (millis : Nat) :
    Beside allowed capture other (page.waitFor selector condition millis)
      (page.waitFor selector condition millis) :=
  bind time fun _ => poll quiet page selector condition _ _

theorem followUpPage (executor : Executor) (followUps : FollowUpPage) :
    Beside allowed capture other (executor.followUpPage followUps)
      (executor.followUpPage followUps) := by
  cases followUps with
  | opened page => exact pure _
  | unavailable => exact pure _
  | unopened =>
      refine bind (openNext fun _ => quiet _ ⟨rfl, rfl⟩ rfl) fun answer => ?_
      cases answer with
      | ok page => exact pure _
      | error fault => exact pure _

end Shared

/-- A run of an executor beside the same run of the refitted one. -/
abbrev Refitted {α : Type} (allowed : Call → Prop) (executor : Executor) (rules : ValidationRules)
    (debug : DebugOptions) (capture : Capture) (run : Executor → Run α) : Prop :=
  Beside allowed executor.capture capture (run executor)
    (run (executor.refitted rules debug capture))

variable {allowed : Call → Prop} (executor : Executor) (rules : ValidationRules)
  (debug : DebugOptions) (capture : Capture) (page : Page)

theorem fail (kind : Action.Kind) (selector : Option String) (cause : StepFault) :
    Refitted allowed executor rules debug capture fun executor =>
      (executor.fail kind selector page cause : Run (Except StepFault α)) :=
  bind (take page _ _ _) fun _ => pure _

section Quiet

variable (quiet : ∀ call : Call, call.IsQuiet → call.takesPicture = false → allowed call)
include quiet

theorem recover (selector : String) (millis : Nat) :
    Refitted allowed executor rules debug capture (·.recover selector millis page) := by
  refine bind (take page _ _ _) fun _ => ?_
  refine bind (sleep _) fun _ => ?_
  refine bind (call (quiet _ ⟨rfl, rfl⟩ rfl)) fun answer => ?_
  cases answer with
  | error fault => exact fail executor rules debug capture page _ _ _
  | ok state =>
      dsimp only
      split
      · exact pure _
      · exact bind (take page _ _ _) fun _ => pure _

theorem waitForIdle (selector : Option String) (millis : Nat) :
    Refitted allowed executor rules debug capture (·.waitForIdle selector millis page) := by
  refine bind (call (quiet _ ⟨rfl, rfl⟩ rfl)) fun answer => ?_
  cases answer with
  | ok _ => exact pure _
  | error fault => exact fail executor rules debug capture page _ _ _

theorem waitForSelector (selector : String) (condition : WaitCondition) (millis : Nat) :
    Refitted allowed executor rules debug capture
      (·.waitForSelector selector condition millis page) := by
  refine bind (waitFor quiet page selector condition millis) fun result => ?_
  match result with
  | .error fault => exact fail executor rules debug capture page _ _ _
  | .ok true => exact pure _
  | .ok false =>
      dsimp only
      split
      · exact recover executor rules debug capture page quiet selector millis
      · exact fail executor rules debug capture page _ _ _

theorem wait (action : WaitAction) :
    Refitted allowed executor rules debug capture (·.wait action page) := by
  unfold Refitted Executor.wait
  cases action.selector with
  | none => exact waitForIdle executor rules debug capture page quiet none _
  | some selector =>
      dsimp only
      split
      · exact waitForIdle executor rules debug capture page quiet _ _
      · exact waitForSelector executor rules debug capture page quiet _ _ _

theorem click (action : ClickAction) :
    Refitted allowed executor rules debug capture (·.click action page) := by
  refine bind (call (quiet _ ⟨rfl, rfl⟩ rfl)) fun answer => ?_
  cases answer with
  | ok _ => exact bind (pause _) fun _ => pure _
  | error fault =>
      dsimp only
      split
      · exact pure _
      · exact fail executor rules debug capture page _ _ _

theorem scroll (action : ScrollAction) :
    Refitted allowed executor rules debug capture (·.scroll action page) := by
  refine bind (call (quiet _ ⟨rfl, rfl⟩ rfl)) fun answer => ?_
  cases answer with
  | ok _ => exact bind (pause _) fun _ => pure _
  | error fault => exact fail executor rules debug capture page _ _ _

end Quiet

section Unclosed

variable (unclosed : ∀ call : Call, call.closes = false → call.takesPicture = false → allowed call)
include unclosed

theorem navigate (action : NavigateAction) :
    Refitted allowed executor rules debug capture (·.navigate action page) := by
  refine bind (call (unclosed _ rfl rfl)) fun answer => ?_
  cases answer with
  | ok _ => exact pure _
  | error fault => exact fail executor rules debug capture page _ _ _

theorem visit (visit : Visit) :
    Refitted allowed executor rules debug capture (·.visit page visit) := by
  refine bind (call (unclosed _ rfl rfl)) fun loaded => ?_
  cases loaded with
  | error fault => exact pure _
  | ok _ =>
      refine bind (call (unclosed _ rfl rfl)) fun answer => ?_
      cases answer with
      | error fault => exact pure _
      | ok html => exact pure _

theorem visitAll (item : Item) (visits : List Visit) :
    Refitted allowed executor rules debug capture (·.visitAll page item visits) := by
  induction visits generalizing item with
  | nil => exact pure item
  | cons next later induction =>
      refine bind (rest executor) fun _ => ?_
      refine bind (visit executor rules debug capture page unclosed next) fun found => ?_
      cases found with
      | none => exact induction item
      | some found => exact induction (Dict.merge item found)

theorem complete (extracted : Extracted) (followUps : FollowUpPage) :
    Refitted allowed executor rules debug capture (·.complete extracted followUps) := by
  have quiet (call : Call) (quiet : call.IsQuiet) := unclosed call quiet.closes
  unfold Refitted Executor.complete
  split
  · exact pure _
  · refine bind (followUpPage quiet executor followUps) fun reached => ?_
    cases reached with
    | unopened => exact pure _
    | unavailable => exact pure _
    | opened page =>
        exact bind (visitAll executor rules debug capture page unclosed _ _) fun _ => pure _

theorem completeAll (progress : Progress) (found : List Extracted) :
    Refitted allowed executor rules debug capture (·.completeAll progress found) := by
  induction found generalizing progress with
  | nil => exact pure progress
  | cons extracted later induction =>
      refine bind ?_ fun _ => induction _
      exact complete executor rules debug capture unclosed extracted progress.followUpPage

theorem extract (action : ExtractAction) (progress : Progress) :
    Refitted allowed executor rules debug capture (·.extract action page progress) := by
  unfold Refitted Executor.extract
  cases progress.navigated with
  | false => exact pure _
  | true =>
      refine bind (call (unclosed _ rfl rfl)) fun answer => ?_
      cases answer with
      | error fault => exact fail executor rules debug capture page _ _ _
      | ok html =>
          have same : (executor.refitted rules debug capture).extractor = executor.extractor := rfl
          dsimp only
          rw [same]
          split
          · exact pure _
          · exact bind (completeAll executor rules debug capture unclosed progress _)
              fun _ => pure _

theorem perform (action : Action) (progress : Progress) :
    Refitted allowed executor rules debug capture (·.perform action page progress) := by
  have quiet (call : Call) (quiet : call.IsQuiet) := unclosed call quiet.closes
  cases action with
  | navigate action =>
      exact keeping (navigate executor rules debug capture page unclosed action) _
  | wait action => exact keeping (wait executor rules debug capture page quiet action) _
  | click action => exact keeping (click executor rules debug capture page quiet action) _
  | scroll action => exact keeping (scroll executor rules debug capture page quiet action) _
  | extract action => exact extract executor rules debug capture page unclosed action progress

theorem performAll (index : Nat) (progress : Progress) (actions : List Action) :
    Refitted allowed executor rules debug capture
      (·.performAll page index progress actions) := by
  induction actions generalizing index progress with
  | nil => exact pure _
  | cons action later induction =>
      have resting : Beside allowed executor.capture capture
          (if index ≠ 0 then executor.rest else Pure.pure ())
          (if index ≠ 0 then executor.rest else Pure.pure ()) := by
        split
        · exact rest executor
        · exact pure ()
      dsimp only [Refitted]
      rw [Executor.performAll_cons, Executor.performAll_cons]
      refine bind resting fun _ => ?_
      refine bind ?_ fun result => ?_
      · exact perform executor rules debug capture page unclosed action (progress.pending index)
      · cases result with
        | ok progress => exact induction (index + 1) progress
        | error cause => exact pure _

end Unclosed

theorem run : Refitted (fun call => call.takesPicture = false) executor rules debug capture
    (·.run page) := by
  have performing : Refitted (fun call => call.takesPicture = false) executor rules debug capture
      (·.performAll page 0 .start executor.config.workflow) :=
    performAll executor rules debug capture page (fun _ _ withoutPicture => withoutPicture) 0
      .start _
  dsimp only [Refitted]
  rw [Executor.run_eq, Executor.run_eq]
  exact bind performing fun done => finish (fun _ => rfl) done.1 done.2

end Run.Beside

end GigListings
