import GigListings.Proofs.Workflow.Beside
import GigListings.Proofs.Workflow.Listing
import GigListings.Proofs.Workflow.Stages

namespace GigListings

/-! Workflows as sequences of stages. The first action that fails ends a workflow, and only the
page for visits is still closed. -/

def log (stages : List Stage) : List Event := stages.reverse.flatMap (·.events)

theorem log_cons (stage : Stage) (stages : List Stage) :
    log (stage :: stages) = log stages ++ stage.events := by
  simp [log]

/-- No page for visits, or one with a number above `known`. -/
def FollowUpPage.IsBeyond (known : Nat) (followUps : FollowUpPage) : Prop :=
  ∀ page, followUps = .opened page → known < page.number

section Beyond

variable {executor : Executor} {known : Nat} {before after : FollowUpPage}
  {events : List Event}

theorem FollowUpPage.isBeyond_unopened (known : Nat) : IsBeyond known .unopened := by
  rintro page ⟨⟩

theorem Reached.isBeyond {options : BrowserOptions}
    (reached : Reached options known before events after)
    (beyond : before.IsBeyond known) : after.IsBeyond known := by
  cases reached with
  | opened fresh =>
      rintro page ⟨⟩
      exact fresh
  | refused => rintro page ⟨⟩
  | again => exact beyond
  | unavailable => exact beyond

theorem Completed.isBeyond {completion : Completion}
    (completed : Completed executor known before completion events after)
    (beyond : before.IsBeyond known) : after.IsBeyond known := by
  cases completed with
  | unasked => exact beyond
  | unvisited _ reached => exact reached.isBeyond beyond
  | visited _ reached _ => exact reached.isBeyond beyond

theorem CompletedAll.isBeyond {completions : List Completion}
    (completed : CompletedAll executor known before completions events after)
    (beyond : before.IsBeyond known) : after.IsBeyond known := by
  induction completed with
  | nil => exact beyond
  | cons first _ induction => exact induction (first.isBeyond beyond)

/-! Visits make no calls on pages up to `known`. -/

theorem callsOn_append (late early : List Event) (number : Nat) :
    History.callsOn (late ++ early) number =
      History.callsOn late number ++ History.callsOn early number :=
  List.filterMap_append

theorem callsOn_onPage {number : Nat} {page : Page} (other : page.number ≠ number) (time : Nat)
    (call : PageCall) (answer : Except PageFault call.Answer) (earlier : History) :
    History.callsOn (⟨time, .onPage page.number call, answer⟩ :: earlier) number =
      History.callsOn earlier number := by
  simp [History.callsOn, other]

theorem Visited.callsOn {extractor : Extractor} {page : Page} {visit : Visit}
    {found : Option Item} {number : Nat}
    (visited : Visited extractor page visit events found) (other : page.number ≠ number) :
    History.callsOn events number = [] := by
  cases visited <;> simp [History.callsOn, other]

theorem VisitedAll.callsOn {extractor : Extractor} {page : Page} {visits : List Visit}
    {finds : List (Option Item)} {number : Nat}
    (visited : VisitedAll extractor page visits events finds)
    (other : page.number ≠ number) : History.callsOn events number = [] := by
  induction visited with
  | nil => rfl
  | cons first _ induction => rw [callsOn_append, induction, first.callsOn other, List.append_nil]

theorem Reached.callsOn {options : BrowserOptions}
    (reached : Reached options known before events after) (number : Nat) :
    History.callsOn events number = [] := by
  cases reached <;> rfl

theorem Completed.callsOn {completion : Completion} {number : Nat}
    (completed : Completed executor known before completion events after)
    (beyond : before.IsBeyond known) (old : number ≤ known) :
    History.callsOn events number = [] := by
  cases completed with
  | unasked => rfl
  | unvisited _ reached => exact reached.callsOn number
  | visited _ reached visited =>
      have fresh := reached.isBeyond beyond _ rfl
      rw [callsOn_append, visited.callsOn (by omega), reached.callsOn, List.append_nil]

theorem CompletedAll.callsOn {completions : List Completion} {number : Nat}
    (completed : CompletedAll executor known before completions events after)
    (beyond : before.IsBeyond known) (old : number ≤ known) :
    History.callsOn events number = [] := by
  induction completed with
  | nil => rfl
  | cons first _ induction =>
      rw [callsOn_append, induction (first.isBeyond beyond), first.callsOn beyond old,
        List.append_nil]

end Beyond

namespace Executor

variable {executor : Executor} {page : Page} {known : Nat}

/-- Actions that are carried out one after another, the first of them with the index `index`. -/
inductive Follows (executor : Executor) (page : Page) (known : Nat) :
    Nat → Progress → List Stage → Progress → Prop where
  | nil {index : Nat} {progress : Progress} :
      Follows executor page known index progress [] progress
  | cons {index : Nat} {before between after : Progress} {stage : Stage} {stages : List Stage}
      (first : executor.Carried page known (before.pending index) stage between)
      (later : Follows executor page known (index + 1) between stages after) :
      Follows executor page known index before (stage :: stages) after

theorem Carried.isBeyond {before after : Progress} {stage : Stage}
    (carried : executor.Carried page known before stage after)
    (beyond : before.followUpPage.IsBeyond known) : after.followUpPage.IsBeyond known := by
  cases carried with
  | extracted _ _ completed => exact completed.isBeyond beyond
  | _ => exact beyond

theorem Follows.isBeyond {index : Nat} {before after : Progress} {stages : List Stage}
    (follows : executor.Follows page known index before stages after)
    (beyond : before.followUpPage.IsBeyond known) : after.followUpPage.IsBeyond known := by
  induction follows with
  | nil => exact beyond
  | cons first _ induction => exact induction (first.isBeyond beyond)

theorem Follows.items {index : Nat} {before after : Progress} {stages : List Stage}
    (follows : executor.Follows page known index before stages after) :
    after.items = before.items ++ stages.flatMap (·.items) := by
  induction follows with
  | nil => exact (List.append_nil _).symm
  | cons first _ induction =>
      rw [induction, first.items, List.flatMap_cons, List.append_assoc]
      rfl

/-- A stage of an extraction has read the listing once and gives an item for each entry that was
extracted; other stages give none. -/
def Gathers (executor : Executor) (page : Page) (stage : Stage) : Prop :=
  match stage.action with
  | .extract action => ∃ time html visits,
      stage.events = visits ++ [⟨time, .onPage page.number .content, .ok html⟩] ∧
      History.callsOn visits page.number = [] ∧
      executor.extractor.extractPage action html = .ok (stage.completions.map (·.extracted))
  | _ => stage.completions = []

theorem Carried.gathers {before after : Progress} {stage : Stage}
    (carried : executor.Carried page known before stage after)
    (beyond : before.followUpPage.IsBeyond known) (old : page.number ≤ known) :
    executor.Gathers page stage := by
  cases carried with
  | extracted _ read completed => exact ⟨_, _, _, rfl, completed.callsOn beyond old, read⟩
  | _ => rfl

theorem Follows.gathers {index : Nat} {before after : Progress} {stages : List Stage}
    (follows : executor.Follows page known index before stages after)
    (beyond : before.followUpPage.IsBeyond known) (old : page.number ≤ known) :
    ∀ stage ∈ stages, executor.Gathers page stage := by
  induction follows with
  | nil =>
      intro stage member
      cases member
  | cons first _ induction =>
      intro stage member
      rcases List.mem_cons.mp member with rfl | later
      · exact first.gathers beyond old
      · exact induction (first.isBeyond beyond) stage later

/-- How a workflow ends from the action with the index `index` on. -/
inductive Ends (executor : Executor) (page : Page) (known index : Nat) (before : Progress)
    (actions : List Action) (stages : List Stage) :
    Progress × Option ActionFault → List Event → Prop where
  | completed {after : Progress} (follows : executor.Follows page known index before stages after)
      (all : actions = stages.map (·.action)) :
      Ends executor page known index before actions stages (after.completed, none) (log stages)
  | aborted {between : Progress} {action : Action} {later : List Action} {during : List Event}
      {cause : StepFault} (follows : executor.Follows page known index before stages between)
      (some : actions = stages.map (·.action) ++ action :: later)
      (fails : executor.Fails page (between.pending (index + stages.length)) action during cause) :
      Ends executor page known index before actions stages
        (between.failed (index + stages.length),
          .some ⟨index + stages.length, action.kind, cause⟩)
        (during ++ log stages)

theorem Ends.of_fails {index : Nat} {before : Progress} {action : Action} {later : List Action}
    {during : List Event} {cause : StepFault}
    (fails : executor.Fails page (before.pending index) action during cause) :
    executor.Ends page known index before (action :: later) []
      (before.failed index, some ⟨index, action.kind, cause⟩) during := by
  have ends : executor.Ends page known index before (action :: later) []
      (before.failed index, some ⟨index, action.kind, cause⟩) (during ++ []) :=
    .aborted .nil rfl fails
  rwa [List.append_nil] at ends

theorem Ends.cons {index : Nat} {before between : Progress} {stage : Stage}
    {stages : List Stage} {actions : List Action} {result : Progress × Option ActionFault}
    {late : List Event}
    (first : executor.Carried page known (before.pending index) stage between)
    (later : executor.Ends page known (index + 1) between actions stages result late) :
    executor.Ends page known index before (stage.action :: actions) (stage :: stages) result
      (late ++ stage.events) := by
  have place : index + 1 + stages.length = index + (stage :: stages).length := by
    rw [List.length_cons]
    omega
  cases later with
  | completed follows all =>
      rw [← log_cons]
      exact .completed (.cons first follows) (by rw [all]; rfl)
  | aborted follows some fails =>
      rw [place] at fails ⊢
      rw [List.append_assoc, ← log_cons]
      exact .aborted (.cons first follows) (by rw [some]; rfl) fails

/-- How the page for visits is closed, and what is left of it. -/
inductive Closes : FollowUpPage → List Event → FollowUpPage → Prop where
  | unopened : Closes .unopened [] .unopened
  | opened {page : Page} {time : Nat} {answer : Except PageFault Unit} :
      Closes (.opened page) [⟨time, .onPage page.number .close, answer⟩] .unopened
  | unavailable : Closes .unavailable [] .unavailable

theorem Closes.callsOn {followUps left : FollowUpPage} {events : List Event} {number : Nat}
    (closes : Closes followUps events left) (beyond : followUps.IsBeyond known)
    (old : number ≤ known) : History.callsOn events number = [] := by
  cases closes with
  | unopened => rfl
  | @opened page time answer =>
      have fresh := beyond page rfl
      exact callsOn_onPage (by omega) time .close answer []
  | unavailable => rfl

/-- How a run on a page concludes, with the actions that were carried out and the calls that were
made. Either all actions were carried out, and the run is completed with the items of its stages; or
the fault has the place and the kind of the first action that fails, after which the page was not
called any more. -/
inductive Concludes (executor : Executor) (page : Page) (stages : List Stage) :
    Except ActionFault Progress → List Event → Prop where
  | completed {done : Progress} {left : FollowUpPage} {closing : List Event}
      (follows : executor.Follows page page.number 0 .start stages done)
      (gathers : ∀ stage ∈ stages, executor.Gathers page stage)
      (all : executor.config.workflow = stages.map (·.action))
      (closes : Closes done.followUpPage closing left)
      (aside : History.callsOn closing page.number = []) :
      Concludes executor page stages
        (.ok ⟨.completed, stages.flatMap (·.items), done.navigated, left⟩) (closing ++ log stages)
  | aborted {between : Progress} {action : Action} {later : List Action} {cause : StepFault}
      {left : FollowUpPage} {during closing : List Event}
      (follows : executor.Follows page page.number 0 .start stages between)
      (gathers : ∀ stage ∈ stages, executor.Gathers page stage)
      (some : executor.config.workflow = stages.map (·.action) ++ action :: later)
      (fails : executor.Fails page (between.pending stages.length) action during cause)
      (closes : Closes between.followUpPage closing left)
      (aside : History.callsOn closing page.number = []) :
      Concludes executor page stages (.error ⟨stages.length, action.kind, cause⟩)
        (closing ++ (during ++ log stages))

/-- What a run gives after its workflow has ended and the page for visits is closed. -/
def outcomeOf (progress : Progress) (left : FollowUpPage) :
    Option ActionFault → Except ActionFault Progress
  | none => .ok { progress with followUpPage := left }
  | some fault => .error fault

theorem Ends.concludes {stages : List Stage} {done : Progress} {fault : Option ActionFault}
    {before closing : List Event} {left : FollowUpPage}
    (ends : executor.Ends page page.number 0 .start executor.config.workflow stages (done, fault)
      before)
    (closes : Closes done.followUpPage closing left) :
    executor.Concludes page stages (outcomeOf done left fault) (closing ++ before) := by
  have unopened := FollowUpPage.isBeyond_unopened page.number
  cases ends with
  | @completed after follows all =>
      have items : after.items = stages.flatMap (·.items) := follows.items
      have concludes : executor.Concludes page stages
          (.ok ⟨.completed, stages.flatMap (·.items), after.navigated, left⟩)
          (closing ++ log stages) :=
        .completed follows (follows.gathers unopened (Nat.le_refl _)) all closes
          (closes.callsOn (follows.isBeyond unopened) (Nat.le_refl _))
      rwa [← items] at concludes
  | aborted follows some fails =>
      rw [Nat.zero_add] at fails ⊢
      exact .aborted follows (follows.gathers unopened (Nat.le_refl _)) some fails closes
        (closes.callsOn (follows.isBeyond unopened) (Nat.le_refl _))

end Executor

namespace Yields

variable {known : Nat} {world : World} {page : Page}

theorem performAll (executor : Executor) (index : Nat) (before : Progress)
    (actions : List Action) :
    Yields known world (executor.performAll page index before actions) fun result events =>
      ∃ stages, executor.Ends page known index before actions stages result events := by
  induction actions generalizing index before with
  | nil => exact Yields.pure ⟨[], .completed .nil rfl⟩
  | cons action later induction =>
      have performing : Yields known world
          (executor.perform action page (before.pending index) >>=
            executor.proceed page index action later before) fun result events =>
          ∃ stages, executor.Ends page known index before (action :: later) stages result
            events := by
        refine Yields.bind (perform executor action) fun result early performed => ?_
        cases result with
        | error cause => exact Yields.pure ⟨[], Executor.Ends.of_fails performed⟩
        | ok between =>
            obtain ⟨completions, carried⟩ := performed
            refine (induction (index + 1) between).mono fun result late ends => ?_
            obtain ⟨stages, ends⟩ := ends
            exact ⟨_, .cons carried ends⟩
      rw [Executor.performAll_cons]
      split
      · exact after_silent (rest executor) fun _ => performing
      · exact performing

theorem closeFollowUps (followUps : FollowUpPage) :
    Yields known world (Executor.closeFollowUps followUps) fun left events =>
      Executor.Closes followUps events left := by
  cases followUps with
  | opened page =>
      have closing : Yields known world (Functor.discard (page.call .close)) fun _ events =>
          ∃ time answer, events = [⟨time, .onPage page.number .close, answer⟩] := by
        refine Yields.discard ((call (.onPage page.number .close)).mono ?_)
        rintro answer events ⟨time, rfl⟩
        exact ⟨time, answer, rfl⟩
      refine Yields.bind closing ?_
      rintro _ _ ⟨time, answer, rfl⟩
      exact Yields.pure .opened
  | unopened => exact Yields.pure .unopened
  | unavailable => exact Yields.pure .unavailable

theorem finish (progress : Progress) (fault : Option ActionFault) :
    Yields known world (Executor.finish progress fault) fun result closing =>
      ∃ left, Executor.Closes progress.followUpPage closing left ∧
        result = Executor.outcomeOf progress left fault := by
  refine Yields.bind (closeFollowUps progress.followUpPage) fun left closing closes => ?_
  cases fault with
  | none => exact Yields.pure ⟨left, closes, rfl⟩
  | some fault => exact Yields.pure ⟨left, closes, rfl⟩

theorem run (executor : Executor) :
    Yields known world (executor.run page) fun result events =>
      ∃ stages done before closing left,
        executor.Ends page known 0 .start executor.config.workflow stages done before ∧
        Executor.Closes done.1.followUpPage closing left ∧ events = closing ++ before ∧
        result = Executor.outcomeOf done.1 left done.2 := by
  rw [Executor.run_eq]
  refine Yields.bind (performAll executor 0 .start executor.config.workflow) ?_
  rintro done before ⟨stages, ends⟩
  refine (finish done.1 done.2).mono ?_
  rintro _ closing ⟨left, closes, rfl⟩
  exact ⟨stages, done, before, closing, left, ends, closes, rfl, rfl⟩

theorem concludes (executor : Executor) (page : Page) (world : World) :
    Yields page.number world (executor.run page) fun result events =>
      ∃ stages, executor.Concludes page stages result events := by
  refine (run executor).mono ?_
  rintro _ _ ⟨stages, done, before, closing, left, ends, closes, rfl, rfl⟩
  exact ⟨stages, ends.concludes closes⟩

end Yields

namespace Executor

end Executor

/-! A listing whose events have pages of their own, which open in one browser and not in
another. -/

def stillPage (html : String) : (call : PageCall) → Except PageFault call.Answer
  | .goto _ _ => .ok ()
  | .state _ => .ok .visible
  | .idle _ => .ok ()
  | .click _ => .ok ()
  | .scroll _ _ => .ok ()
  | .content => .ok html
  | .screenshot => .ok none
  | .close => .ok ()

def listingWorld (opensMore : Bool) : World where
  browser :=
    { answer := fun _ _ call =>
        match call with
        | .openPage _ _ => if opensMore then .ok () else .error (.reported "no more pages")
        | .onPage 1 call => stillPage "<li><a href='/1'>Concert</a></li>" call
        | .onPage _ call => stillPage "<p>At the door</p>" call }
  clock := .steady 0

/-- Reads links and, on their pages, where tickets are sold. -/
def ticketsExtraction : ExtractAction where
  containerSelector := "li"
  fields := [("url",
    { FieldRule.plain with
      selector := some "a", part := "href"
      followUp := some ⟨none, [("tickets", { FieldRule.plain with selector := some "p" })]⟩ })]
  followUp := none
  dateGroups := none

def ticketsExecutor : Executor where
  config :=
    { site := ⟨"Venue", "venue", "https://venue.example", none⟩
      browser := default
      rateLimit := default
      workflow := [.navigate ⟨"/", none⟩, .extract ticketsExtraction]
      mapping := ⟨.field "title", none, ⟨"venue", none, none, none, none, none⟩, .field "start",
        none, none, none, none, none, none, none, none, none⟩
      validation := default
      debug := default
      dateFormats := [] }
  transforms := .builtin
  formats := .builtin
  dates := ⟨default, none⟩
  capture := ⟨"venue", ".", false, false⟩

def listingOpened : Session := ⟨0, [⟨0, .openPage 1 default, .ok ()⟩], 1, .empty⟩

end GigListings
