import GigListings.Proofs.Workflow.Beside

namespace GigListings.Run.Makes

/-! Which calls the actions of a workflow make, read off the workflow beside itself. -/

section Quiet

variable {allowed : Call → Prop} (quiet : ∀ call : Call, call.IsQuiet → allowed call)
  (executor : Executor) (page : Page)
include quiet

theorem of_refitted (run : Executor → Run α)
    (beside : (∀ call : Call, call.IsQuiet → call.takesPicture = false → allowed call) →
      Beside.Refitted allowed executor executor.config.validation executor.config.debug
        executor.capture run) :
    Makes allowed (run executor) :=
  of_beside quiet (beside fun call isQuiet _ => quiet call isQuiet)

theorem fail (kind : Action.Kind) (selector : Option String) (cause : StepFault) :
    Makes allowed (executor.fail kind selector page cause : Run (Except StepFault α)) :=
  of_refitted quiet executor (·.fail kind selector page cause) fun _ =>
    .fail executor _ _ _ page kind selector cause

theorem wait (action : WaitAction) : Makes allowed (executor.wait action page) :=
  of_refitted quiet executor (·.wait action page) fun quiet =>
    .wait executor _ _ _ page quiet action

theorem click (action : ClickAction) : Makes allowed (executor.click action page) :=
  of_refitted quiet executor (·.click action page) fun quiet =>
    .click executor _ _ _ page quiet action

theorem scroll (action : ScrollAction) : Makes allowed (executor.scroll action page) :=
  of_refitted quiet executor (·.scroll action page) fun quiet =>
    .scroll executor _ _ _ page quiet action

theorem followUpPage (followUps : FollowUpPage) :
    Makes allowed (executor.followUpPage followUps) :=
  of_refitted quiet executor (fun _ => executor.followUpPage followUps) fun quiet =>
    .followUpPage quiet executor followUps

include executor in
theorem closeFollowUps (closing : ∀ number, allowed (.onPage number .close))
    (followUps : FollowUpPage) : Makes allowed (Executor.closeFollowUps followUps) :=
  of_refitted quiet executor (fun _ => Executor.closeFollowUps followUps) fun _ =>
    .closeFollowUps closing followUps

end Quiet

/-- No action closes a page. -/
theorem performAll (executor : Executor) (page : Page) (index : Nat) (progress : Progress)
    (actions : List Action) :
    Makes (fun call => call.closes = false) (executor.performAll page index progress actions) :=
  of_refitted (fun _ quiet => quiet.closes) executor (·.performAll page index progress actions)
    fun _ => .performAll executor _ _ _ page (fun _ unclosed _ => unclosed) index progress actions

end GigListings.Run.Makes

namespace GigListings

/-! Runs in two worlds that differ in nothing but how pages are closed. Until a page is closed,
they are the same. -/

/-- Closing a page may fail in one world and not in the other, and may take longer. -/
structure World.AgreeButForClosing (first second : World) : Prop where
  start : first.clock.start = second.clock.start
  sleepTime : first.clock.sleepTime = second.clock.sleepTime
  callTime : ∀ history time (call : Call), call.closes = false →
    first.clock.callTime history time call = second.clock.callTime history time call
  answer : ∀ history time (call : Call), call.closes = false →
    first.browser.answer history time call = second.browser.answer history time call

namespace Run

/-- A run that comes to the same in two worlds. -/
def SameIn (first second : World) (step : Run α) : Prop :=
  ∀ session, step.outcome first session = step.outcome second session

namespace SameIn

variable {first second : World}

theorem pure (a : α) : SameIn first second (Pure.pure a) := fun _ => rfl

theorem bind {step : Run α} {next : α → Run β} (start : SameIn first second step)
    (rest : ∀ a, SameIn first second (next a)) : SameIn first second (step >>= next) := by
  intro session
  rw [outcome_bind, outcome_bind, start session]
  exact rest _ _

end SameIn

end Run

namespace World.AgreeButForClosing

open Run

variable {first second : World} (agree : first.AgreeButForClosing second)
include agree

theorem call {call : Call} (staysOpen : call.closes = false) :
    SameIn first second (Run.call call) := by
  intro session
  simp only [outcome, Run.call, agree.answer _ _ call staysOpen, agree.callTime _ _ call staysOpen]

theorem sleep (micros : Nat) : SameIn first second (Run.sleep micros) := by
  intro session
  simp only [outcome, Run.sleep, agree.sleepTime]

theorem now : SameIn first second Run.now := by
  intro session
  simp only [outcome, Run.now, agree.start]

omit agree in
theorem makeFolders (path : String) : SameIn first second (Run.makeFolders path) := by
  intro session
  rw [outcome_makeFolders, outcome_makeFolders]

omit agree in
theorem writeFile (path text : String) : SameIn first second (Run.writeFile path text) := by
  intro session
  rw [outcome_writeFile, outcome_writeFile]

theorem openNext (options : BrowserOptions) : SameIn first second (Page.openNext options) := by
  intro session
  rw [Page.outcome_openNext, Page.outcome_openNext]
  refine SameIn.bind (agree.call rfl) (fun answer => ?_) _
  cases answer with
  | ok _ => exact SameIn.pure _
  | error fault => exact SameIn.pure _

theorem of_makes {step : Run α} (makes : Makes (fun call => call.closes = false) step) :
    SameIn first second step := by
  induction makes with
  | pure a => exact SameIn.pure a
  | bind _ _ start rest => exact SameIn.bind start rest
  | call staysOpen => exact agree.call staysOpen
  | openNext => exact agree.openNext _
  | sleep micros => exact agree.sleep micros
  | now => exact agree.now
  | time => exact fun _ => rfl
  | makeFolders path => exact makeFolders path
  | writeFile path text => exact writeFile path text

theorem run (executor : Executor) (page : Page) (session : Session) :
    ((executor.run page).outcome first session).1 =
      ((executor.run page).outcome second session).1 := by
  have finish (done : Progress × Option ActionFault) (left right : Session) :
      ((Executor.finish done.1 done.2).outcome first left).1 =
        ((Executor.finish done.1 done.2).outcome second right).1 := by
    obtain ⟨⟨state, items, navigated, followUps⟩, fault⟩ := done
    cases fault with
    | none => cases followUps <;> rfl
    | some fault => rfl
  have performing : SameIn first second
      (executor.performAll page 0 .start executor.config.workflow) :=
    agree.of_makes (Makes.performAll executor page 0 .start _)
  rw [Executor.run_eq, outcome_bind, outcome_bind, performing session]
  exact finish _ _ _

end World.AgreeButForClosing

end GigListings
