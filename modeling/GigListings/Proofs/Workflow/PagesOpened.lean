import GigListings.Proofs.Workflow.InOrder

namespace GigListings

/-! Which pages a workflow opens and closes. Its actions close none and ask for one page at most,
the one for visits; when they are done, that page is closed. -/

/-- What a call does to the pages that are open. -/
inductive PageChange where
  | opened (page : Nat)
  | refused (page : Nat)
  | closed (page : Nat)
deriving DecidableEq

def PageChange.opened? : PageChange → Option Nat
  | .opened page => some page
  | _ => none

def PageChange.requested? : PageChange → Option Nat
  | .opened page => some page
  | .refused page => some page
  | .closed _ => none

def Event.change? : Event → Option PageChange
  | ⟨_, .openPage page _, .ok _⟩ => some (.opened page)
  | ⟨_, .openPage page _, .error _⟩ => some (.refused page)
  | ⟨_, .onPage page .close, _⟩ => some (.closed page)
  | _ => none

/-- What was opened and closed, the latest first. -/
def changes (events : List Event) : List PageChange := events.filterMap Event.change?

theorem changes_append (late early : List Event) :
    changes (late ++ early) = changes late ++ changes early :=
  List.filterMap_append

theorem changes_eq_nil {events : List Event}
    (none : ∀ event ∈ events, event.change? = none) : changes events = [] :=
  List.filterMap_eq_nil_iff.mpr none

theorem changes_of_capturesOnly {page : Page} {events : List Event}
    (captures : CapturesOnly page events) : changes events = [] :=
  captures.filterMap_eq_nil (fun _ _ => rfl) fun _ _ => rfl

theorem changes_of_unmet {page : Page} {selector : String} {condition : WaitCondition}
    {events : List Event} (unmet : Unmet page selector condition events) :
    changes events = [] := by
  refine changes_eq_nil fun event member => ?_
  obtain ⟨time, state, rfl, -⟩ := unmet event member
  rfl

theorem changes_captures {page : Page} {late : List Event} (captures : CapturesOnly page late)
    (early : List Event) : changes (late ++ early) = changes early := by
  rw [changes_append, changes_of_capturesOnly captures, List.nil_append]

theorem changes_captures_unmet {page : Page} {selector : String} {condition : WaitCondition}
    {late early : List Event} (captures : CapturesOnly page late)
    (unmet : Unmet page selector condition early) : changes (late ++ early) = [] :=
  (changes_captures captures early).trans (changes_of_unmet unmet)

theorem changes_cons_of_unchanged {event : Event} (unchanged : event.change? = none)
    (early : List Event) : changes (event :: early) = changes early :=
  List.filterMap_cons_none unchanged

def openedPages (events : List Event) : List Nat := (changes events).filterMap PageChange.opened?

def requestedPages (events : List Event) : List Nat :=
  (changes events).filterMap PageChange.requested?

/-- Whether a page was asked for. -/
def Event.isRequest (event : Event) : Bool :=
  match event.call with
  | .openPage _ _ => true
  | .onPage _ _ => false

theorem isRequest_eq_false_of_changes {events : List Event} (unchanged : changes events = []) :
    ∀ event ∈ events, event.isRequest = false := by
  rintro ⟨time, call, answer⟩ member
  have none := List.filterMap_eq_nil_iff.mp unchanged _ member
  cases call with
  | openPage number options => cases answer <;> cases none
  | onPage number call => rfl

theorem close_not_mem_callsOn {events : List Event} {page : Nat}
    (unclosed : .closed page ∉ changes events) :
    .close ∉ History.callsOn events page := by
  intro member
  obtain ⟨⟨time, call, answer⟩, isEvent, isClose⟩ := List.mem_filterMap.mp member
  cases call with
  | openPage number options => cases isClose
  | onPage number call =>
      dsimp only at isClose
      split at isClose
      · rename_i same
        subst same
        cases isClose
        exact unclosed (List.mem_filterMap.mpr ⟨_, isEvent, rfl⟩)
      · cases isClose

/-- What becomes of the page for visits, with the changes that make it so. Once it was asked for,
it stays what it is. -/
inductive Becomes (known : Nat) : FollowUpPage → List PageChange → FollowUpPage → Prop where
  | same {followUps : FollowUpPage} : Becomes known followUps [] followUps
  | opened {page : Page} (fresh : known < page.number) :
      Becomes known .unopened [.opened page.number] (.opened page)
  | refused {number : Nat} (fresh : known < number) :
      Becomes known .unopened [.refused number] .unavailable

section Visits

variable {executor : Executor} {known : Nat} {before between after : FollowUpPage}
  {events : List Event}

theorem Becomes.trans {early late : List PageChange} (first : Becomes known before early between)
    (later : Becomes known between late after) : Becomes known before (late ++ early) after := by
  cases first with
  | same =>
      rw [List.append_nil]
      exact later
  | opened fresh =>
      cases later with
      | same => exact .opened fresh
  | refused fresh =>
      cases later with
      | same => exact .refused fresh

theorem Visited.changes {extractor : Extractor} {page : Page} {visit : Visit} {found : Option Item}
    (visited : Visited extractor page visit events found) : GigListings.changes events = [] := by
  cases visited <;> rfl

theorem VisitedAll.changes {extractor : Extractor} {page : Page} {visits : List Visit}
    {finds : List (Option Item)} (visited : VisitedAll extractor page visits events finds) :
    GigListings.changes events = [] := by
  induction visited with
  | nil => rfl
  | cons first _ induction => rw [changes_append, induction, first.changes, List.append_nil]

theorem Reached.becomes {options : BrowserOptions}
    (reached : Reached options known before events after) :
    Becomes known before (changes events) after := by
  cases reached with
  | opened fresh => exact .opened fresh
  | refused fresh => exact .refused fresh
  | again => exact .same
  | unavailable => exact .same

theorem Completed.becomes {completion : Completion}
    (completed : Completed executor known before completion events after) :
    Becomes known before (changes events) after := by
  cases completed with
  | unasked => exact .same
  | unvisited _ reached => exact reached.becomes
  | visited _ reached visited =>
      rw [changes_append, visited.changes]
      exact reached.becomes

theorem CompletedAll.becomes {completions : List Completion}
    (completed : CompletedAll executor known before completions events after) :
    Becomes known before (changes events) after := by
  induction completed with
  | nil => exact .same
  | cons first _ induction =>
      rw [changes_append]
      exact first.becomes.trans induction

theorem CompletedAll.changes_of_tried {completions : List Completion}
    (completed : CompletedAll executor known before completions events after)
    (tried : before ≠ .unopened) : changes events = [] := by
  have becomes := completed.becomes
  generalize changes events = few at becomes ⊢
  cases becomes with
  | same => rfl
  | opened => exact absurd rfl tried
  | refused => exact absurd rfl tried

/-- The page for visits is asked for before anything else is done, for an entry that asks for
visits. -/
theorem CompletedAll.request_first {completions : List Completion} {request : Event}
    (completed : CompletedAll executor known before completions events after)
    (isRequest : request.isRequest = true) (member : request ∈ events) :
    (∃ behind, events = behind ++ [request]) ∧
      ∃ completion ∈ completions, completion.extracted.visits ≠ [] := by
  have unasked {others : List Event} (unchanged : changes others = []) : request ∉ others := by
    intro inside
    cases (isRequest_eq_false_of_changes unchanged request inside).symm.trans isRequest
  induction completed with
  | nil => cases member
  | cons first later induction =>
      cases first with
      | unasked none =>
          rw [List.append_nil] at member ⊢
          obtain ⟨behind, completion, listed, asks⟩ := induction member
          exact ⟨behind, completion, List.mem_cons_of_mem _ listed, asks⟩
      | unvisited asks reached =>
          refine ⟨?_, _, List.mem_cons_self, asks⟩
          have laterUnasked := unasked (later.changes_of_tried (by simp))
          have early := (List.mem_append.mp member).resolve_left laterUnasked
          cases reached with
          | refused =>
              rw [← List.mem_singleton.mp early]
              exact ⟨_, rfl⟩
          | unavailable => cases early
      | visited asks reached visited =>
          refine ⟨?_, _, List.mem_cons_self, asks⟩
          have laterUnasked := unasked (later.changes_of_tried (by simp))
          have early := (List.mem_append.mp member).resolve_left laterUnasked
          have first := (List.mem_append.mp early).resolve_left (unasked visited.changes)
          cases reached with
          | opened =>
              rw [← List.mem_singleton.mp first, ← List.append_assoc]
              exact ⟨_, rfl⟩
          | again => cases first

end Visits

namespace Executor

variable {executor : Executor} {page : Page} {known : Nat}

/-- A page was asked for by an extraction that was carried out, as the first thing behind its own
reading of the listing, where it has found an item that asks for visits. -/
def IsDue (executor : Executor) (page : Page) (stage : Stage) (request : Event) : Prop :=
  ∃ action time html behind, stage.action = .extract action ∧
    stage.events = behind ++ [request, ⟨time, .onPage page.number .content, .ok html⟩] ∧
    executor.extractor.extractPage action html = .ok (stage.completions.map (·.extracted)) ∧
    ∃ completion ∈ stage.completions, completion.extracted.visits ≠ []

/-! Actions. -/

theorem Carried.becomes {before after : Progress} {stage : Stage}
    (carried : executor.Carried page known before stage after) :
    Becomes known before.followUpPage (changes stage.events) after.followUpPage := by
  cases carried with
  | met _ unmet =>
      rw [changes_cons_of_unchanged rfl, changes_of_unmet unmet]
      exact .same
  | recovered _ _ unmet captures =>
      rw [changes_cons_of_unchanged rfl, changes_captures_unmet captures unmet]
      exact .same
  | extracted _ _ completed =>
      rw [changes_append]
      exact Becomes.trans .same completed.becomes
  | _ => exact .same

theorem Carried.isDue {before after : Progress} {stage : Stage} {request : Event}
    (carried : executor.Carried page known before stage after)
    (isRequest : request.isRequest = true) (member : request ∈ stage.events) :
    executor.IsDue page stage request := by
  have none (unchanged : changes stage.events = []) : executor.IsDue page stage request := by
    cases (isRequest_eq_false_of_changes unchanged request member).symm.trans isRequest
  cases carried with
  | met _ unmet =>
      apply none
      rw [changes_cons_of_unchanged rfl, changes_of_unmet unmet]
  | recovered _ _ unmet captures =>
      apply none
      rw [changes_cons_of_unchanged rfl, changes_captures_unmet captures unmet]
  | extracted _ read completed =>
      rcases List.mem_append.mp member with visiting | reading
      · obtain ⟨⟨behind, rfl⟩, asked⟩ := completed.request_first isRequest visiting
        exact ⟨_, _, _, behind, rfl, List.append_assoc _ _ _, read, asked⟩
      · rw [List.mem_singleton.mp reading] at isRequest
        cases isRequest
  | _ => exact none rfl

theorem Fails.changes {before : Progress} {action : Action} {events : List Event}
    {cause : StepFault} (fails : executor.Fails page before action events cause) :
    GigListings.changes events = [] := by
  cases fails with
  | notNavigated => rfl
  | malformed => rfl
  | notLoaded captures => exact changes_captures captures _
  | notClicked _ captures => exact changes_captures captures _
  | notScrolled captures => exact changes_captures captures _
  | notIdle _ captures => exact changes_captures captures _
  | unread _ captures => exact changes_captures captures _
  | lookFailed _ unmet captures =>
      rw [changes_captures captures, changes_cons_of_unchanged rfl, changes_of_unmet unmet]
  | stillVisible _ _ unmet _ captures => exact changes_captures_unmet captures unmet
  | notRecovered _ _ unmet captures capturesBefore =>
      rw [changes_captures captures, changes_cons_of_unchanged rfl,
        changes_captures_unmet capturesBefore unmet]
  | didNotAppear _ _ unmet captures capturesBefore =>
      rw [changes_captures captures, changes_cons_of_unchanged rfl,
        changes_captures_unmet capturesBefore unmet]

theorem Follows.becomes {index : Nat} {before after : Progress} {stages : List Stage}
    (follows : executor.Follows page known index before stages after) :
    Becomes known before.followUpPage (changes (log stages)) after.followUpPage := by
  induction follows with
  | nil => exact .same
  | cons first _ induction =>
      rw [log_cons, changes_append]
      exact first.becomes.trans induction

theorem Follows.isDue {index : Nat} {before after : Progress} {stages : List Stage}
    {request : Event} (follows : executor.Follows page known index before stages after)
    (isRequest : request.isRequest = true) (member : request ∈ log stages) :
    ∃ stage ∈ stages, executor.IsDue page stage request := by
  induction follows with
  | nil => cases member
  | cons first _ induction =>
      rw [log_cons] at member
      rcases List.mem_append.mp member with later | here
      · obtain ⟨stage, listed, due⟩ := induction later
        exact ⟨stage, List.mem_cons_of_mem _ listed, due⟩
      · exact ⟨_, List.mem_cons_self, first.isDue isRequest here⟩

theorem Closes.isRequest_eq_false {followUps left : FollowUpPage} {events : List Event}
    (closes : Closes followUps events left) : ∀ event ∈ events, event.isRequest = false := by
  cases closes with
  | unopened => exact List.forall_mem_nil _
  | opened => exact List.forall_mem_singleton.mpr rfl
  | unavailable => exact List.forall_mem_nil _

variable {stages : List Stage} {result : Except ActionFault Progress} {events : List Event}

/-- Whatever page a run asks for, one of its extractions has found an item that asks for visits. -/
theorem Concludes.isDue (concludes : executor.Concludes page stages result events)
    {request : Event} (isRequest : request.isRequest = true) (member : request ∈ events) :
    ∃ stage ∈ stages, executor.IsDue page stage request := by
  have elsewhere {others : List Event} (none : ∀ event ∈ others, event.isRequest = false) :
      request ∉ others := by
    intro inside
    cases (none request inside).symm.trans isRequest
  cases concludes with
  | completed follows _ _ closes =>
      have before := (List.mem_append.mp member).resolve_left (elsewhere closes.isRequest_eq_false)
      exact follows.isDue isRequest before
  | aborted follows _ _ fails closes =>
      have unclosed := (List.mem_append.mp member).resolve_left
        (elsewhere closes.isRequest_eq_false)
      have before := (List.mem_append.mp unclosed).resolve_left
        (elsewhere (isRequest_eq_false_of_changes fails.changes))
      exact follows.isDue isRequest before

/-- How a run on a page leaves the page for visits: it was not asked for, or refused, or opened
and then closed with the last call. -/
inductive ClosesUp (page : Page) : List Event → Prop where
  | unopened {events : List Event} (unchanged : changes events = []) : ClosesUp page events
  | refused {events : List Event} {number : Nat} (fresh : page.number < number)
      (only : changes events = [.refused number]) : ClosesUp page events
  | closed {events : List Event} {number time : Nat} {answer : Except PageFault Unit}
      (fresh : page.number < number) (only : changes events = [.opened number]) :
      ClosesUp page (⟨time, .onPage number .close, answer⟩ :: events)

theorem ClosesUp.of_becomes {followUps left : FollowUpPage} {before closing : List Event}
    (becomes : Becomes page.number .unopened (changes before) followUps)
    (closes : Closes followUps closing left) : ClosesUp page (closing ++ before) := by
  -- The page begins as not asked for, which leaves one case for each way it can have ended.
  generalize only : changes before = few at becomes
  cases becomes with
  | same =>
      cases closes
      exact .unopened only
  | refused fresh =>
      cases closes
      exact .refused fresh only
  | opened fresh =>
      cases closes
      exact .closed fresh only

/-- The page for visits is closed when the actions are done, whatever came of them. -/
theorem Concludes.closesUp (concludes : executor.Concludes page stages result events) :
    ClosesUp page events := by
  cases concludes with
  | completed follows _ _ closes => exact .of_becomes follows.becomes closes
  | @aborted between _ _ _ _ during _ follows _ _ fails closes =>
      have becomes : Becomes page.number .unopened (changes (during ++ log stages))
          between.followUpPage := by
        rw [changes_append, fails.changes]
        exact follows.becomes
      exact .of_becomes becomes closes

end Executor

end GigListings
