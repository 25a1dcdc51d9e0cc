import GigListings.Proofs.Workflow.Aside
import GigListings.Proofs.Workflow.InOrder

namespace GigListings

/-! Follow-ups do not disturb the listing. Whether their page opens and what it shows bears on
nothing but the fields that they declare. -/

open Run

def Action.followUps : Action → List FollowUp
  | .extract action => action.followUps
  | _ => []

/-- What one action has come to in two runs: as many items in the same order, which differ at most
where a follow-up of this action declares a field. -/
structure Stage.Alike (stage other : Stage) : Prop where
  action : stage.action = other.action
  items : List.Forall₂ (Item.AgreeOutside stage.action.followUps) stage.items other.items

theorem Stage.length_flatMap_items {stages others : List Stage}
    (alike : List.Forall₂ Alike stages others) :
    (stages.flatMap (·.items)).length = (others.flatMap (·.items)).length := by
  induction alike with
  | nil => rfl
  | cons first _ induction =>
      rw [List.flatMap_cons, List.flatMap_cons, List.length_append, List.length_append,
        first.items.length_eq, induction]

/-- How far two runs have come on the listing. -/
structure ProgressAlike (page : Page) (a b : Progress) : Prop where
  navigated : a.navigated = b.navigated
  first_apart : StaysAside.IsApart page a.followUpPage
  second_apart : StaysAside.IsApart page b.followUpPage

/-- What an action with such follow-ups adds to the progress of two runs. -/
structure AdvanceAlike (page : Page) (followUps : List FollowUp) (a b x y : Progress) : Prop where
  progress : ProgressAlike page x y
  items : ∃ items others, x.items = a.items ++ items ∧ y.items = b.items ++ others ∧
    List.Forall₂ (Item.AgreeOutside followUps) items others

/-- Outcomes of an action in two runs: the same failure, or advances alike. -/
def StepsAlike (page : Page) (followUps : List FollowUp) (a b : Progress) :
    Except StepFault Progress → Except StepFault Progress → Prop
  | .ok x, .ok y => AdvanceAlike page followUps a b x y
  | .error cause, .error otherCause => cause = otherCause
  | _, _ => False

namespace SameListing

variable {page : Page} {first second : World} {behaviour : Behaviour} {nap : Nat → Nat}
  {executor : Executor} {a b : Progress} {followUps : List FollowUp}

theorem navigate (same : SameListing page first second behaviour nap) (action : NavigateAction) :
    Together first second (Abreast page executor.capture.folder) (executor.navigate action page)
      (executor.navigate action page) (Alike page executor.capture.folder) := by
  refine Alike.bind (same.call _) fun answer => ?_
  cases answer with
  | ok _ => exact Alike.pure _
  | error fault => exact same.fail executor _ _ _

theorem click (same : SameListing page first second behaviour nap) (action : ClickAction) :
    Together first second (Abreast page executor.capture.folder) (executor.click action page)
      (executor.click action page) (Alike page executor.capture.folder) := by
  refine Alike.bind (same.call _) fun answer => ?_
  cases answer with
  | ok _ => exact Alike.bind (pause _) fun _ => Alike.pure _
  | error fault =>
      dsimp only
      split
      · exact Alike.pure _
      · exact same.fail executor _ _ _

theorem scroll (same : SameListing page first second behaviour nap) (action : ScrollAction) :
    Together first second (Abreast page executor.capture.folder) (executor.scroll action page)
      (executor.scroll action page) (Alike page executor.capture.folder) := by
  refine Alike.bind (same.call _) fun answer => ?_
  cases answer with
  | ok _ => exact Alike.bind (pause _) fun _ => Alike.pure _
  | error fault => exact same.fail executor _ _ _

theorem keeping {step : Run (Except StepFault Unit)}
    (together : Together first second (Abreast page executor.capture.folder) step step
      (Alike page executor.capture.folder))
    {x y : Progress} (advance : AdvanceAlike page followUps a b x y) :
    Together first second (Abreast page executor.capture.folder) (Executor.keeping x step)
      (Executor.keeping y step) fun x y s t =>
        StepsAlike page followUps a b x y ∧ Abreast page executor.capture.folder s t := by
  refine Alike.bind together fun answer => ?_
  cases answer with
  | ok _ => exact Together.pure fun _ _ abreast => ⟨advance, abreast⟩
  | error cause => exact Together.pure fun _ _ abreast => ⟨rfl, abreast⟩

theorem failAlike (same : SameListing page first second behaviour nap) (kind : Action.Kind)
    (selector : Option String) (cause : StepFault) :
    Together first second (Abreast page executor.capture.folder)
      (executor.fail kind selector page cause) (executor.fail kind selector page cause)
      fun x y s t =>
        StepsAlike page followUps a b x y ∧ Abreast page executor.capture.folder s t :=
  Together.bind (Together.discard (same.take executor.capture _ _ _)) fun _ _ =>
    Together.pure fun _ _ abreast => ⟨rfl, abreast⟩

theorem agree_of_common {declared : List FollowUp} {items others : List Item}
    {found : List Extracted}
    (first : List.Forall₂ (fun item extracted =>
      Item.AgreeOutside declared item extracted.item) items found)
    (second : List.Forall₂ (fun item extracted =>
      Item.AgreeOutside declared item extracted.item) others found) :
    List.Forall₂ (Item.AgreeOutside declared) items others := by
  induction first generalizing others with
  | nil =>
      cases second
      exact .nil
  | cons kept _ induction =>
      cases second with
      | cons otherKept otherRest => exact .cons (kept.trans otherKept.symm) (induction otherRest)

theorem completed {found : List Extracted} (progress : ProgressAlike page a b) {x y : Progress}
    (first : StaysAside.Completes page followUps found a x)
    (second : StaysAside.Completes page followUps found b y) :
    AdvanceAlike page followUps a b x y where
  progress := ⟨by rw [first.navigated, second.navigated, progress.navigated], first.apart,
    second.apart⟩
  items := by
    obtain ⟨items, isFirst, agree⟩ := first.items
    obtain ⟨others, isSecond, otherAgree⟩ := second.items
    exact ⟨items, others, isFirst, isSecond, agree_of_common agree otherAgree⟩

theorem completeAll {found : List Extracted}
    (only : ∀ extracted ∈ found, extracted.VisitsOnly followUps)
    (progress : ProgressAlike page a b) (folder : String) :
    Together first second (Abreast page folder) (executor.completeAll a found)
      (executor.completeAll b found) fun x y s t =>
        AdvanceAlike page followUps a b x y ∧ Abreast page folder s t :=
  (StaysAside.together (StaysAside.completeAll executor found only a progress.first_apart)
    (StaysAside.completeAll executor found only b progress.second_apart)).mono
      fun _ _ _ _ ⟨firstDone, secondDone, abreast⟩ =>
        ⟨completed progress firstDone secondDone, abreast⟩

theorem extract (same : SameListing page first second behaviour nap) (action : ExtractAction)
    (progress : ProgressAlike page a b) :
    Together first second (Abreast page executor.capture.folder) (executor.extract action page a)
      (executor.extract action page b) fun x y s t =>
        StepsAlike page action.followUps a b x y ∧ Abreast page executor.capture.folder s t := by
  unfold Executor.extract
  rw [progress.navigated]
  split
  · exact Together.pure fun _ _ abreast => ⟨rfl, abreast⟩
  · refine Alike.bind (same.call .content) fun answer => ?_
    cases answer with
    | error fault => exact same.failAlike _ _ _
    | ok html =>
        cases read : executor.extractor.extractPage action html with
        | error fault =>
            simp only [read]
            exact Together.pure fun _ _ abreast => ⟨rfl, abreast⟩
        | ok found =>
            simp only [read]
            have only := Extractor.extractPage_visitsOnly read
            exact Together.bind (completeAll only progress _) fun _ _ =>
              Together.pure fun _ _ completed => completed

theorem perform (same : SameListing page first second behaviour nap) (action : Action)
    (progress : ProgressAlike page a b) :
    Together first second (Abreast page executor.capture.folder) (executor.perform action page a)
      (executor.perform action page b) fun x y s t =>
        StepsAlike page action.followUps a b x y ∧ Abreast page executor.capture.folder s t := by
  have unchanged : AdvanceAlike page [] a b a b :=
    ⟨progress, [], [], (List.append_nil _).symm, (List.append_nil _).symm, .nil⟩
  cases action with
  | navigate action =>
      exact keeping (same.navigate action)
        ⟨⟨rfl, progress.first_apart, progress.second_apart⟩, unchanged.items⟩
  | wait action => exact keeping (same.wait executor action) unchanged
  | click action => exact keeping (same.click action) unchanged
  | scroll action => exact keeping (same.scroll action) unchanged
  | extract action => exact same.extract action progress

end SameListing

/-! Two runs told by the events that each of them adds. -/

/-- Two runs side by side, which add such events, the latest first, and come to such results. -/
def Alongside (first second : World) (page : Page) (folder : String) (step : Run α)
    (other : Run β) (after : α → β → List Event → List Event → Prop) : Prop :=
  ∀ s t, Abreast page folder s t → ∃ events otherEvents,
    (step.outcome first s).2.history = events ++ s.history ∧
    (other.outcome second t).2.history = otherEvents ++ t.history ∧
    Abreast page folder (step.outcome first s).2 (other.outcome second t).2 ∧
    after (step.outcome first s).1 (other.outcome second t).1 events otherEvents

namespace Alongside

variable {first second : World} {page : Page} {folder : String}

theorem pure {a : α} {b : β} {after : α → β → List Event → List Event → Prop}
    (holds : after a b [] []) :
    Alongside first second page folder (Pure.pure a) (Pure.pure b) after :=
  fun _ _ abreast => ⟨[], [], rfl, rfl, abreast, holds⟩

theorem bind {step : Run α} {other : Run β} {next : α → Run γ} {otherNext : β → Run δ}
    {between : α → β → List Event → List Event → Prop}
    {after : γ → δ → List Event → List Event → Prop}
    (start : Alongside first second page folder step other between)
    (rest : ∀ a b early otherEarly, between a b early otherEarly →
      Alongside first second page folder (next a) (otherNext b)
        fun c d late otherLate => after c d (late ++ early) (otherLate ++ otherEarly)) :
    Alongside first second page folder (step >>= next) (other >>= otherNext) after := by
  intro s t abreast
  obtain ⟨early, otherEarly, history, otherHistory, between, holds⟩ := start s t abreast
  obtain ⟨late, otherLate, laterHistory, otherLaterHistory, atLast, result⟩ :=
    rest _ _ early otherEarly holds _ _ between
  refine ⟨late ++ early, otherLate ++ otherEarly, ?_, ?_, atLast, result⟩
  · rw [outcome_bind, laterHistory, history, List.append_assoc]
  · rw [outcome_bind, otherLaterHistory, otherHistory, List.append_assoc]

/-- What two runs come to together, and what each of them comes to alone. -/
theorem of_yields {step : Run α} {other : Run β} {both : α → β → Prop}
    {result : α → List Event → Prop} {otherResult : β → List Event → Prop}
    (together : Together first second (Abreast page folder) step other
      fun a b s t => both a b ∧ Abreast page folder s t)
    (yields : Yields page.number first step result)
    (otherYields : Yields page.number second other otherResult) :
    Alongside first second page folder step other fun a b events otherEvents =>
      both a b ∧ result a events ∧ otherResult b otherEvents := by
  intro s t abreast
  obtain ⟨holds, still⟩ := together s t abreast
  obtain ⟨events, history, -, alone⟩ := yields s abreast.first_opened
  obtain ⟨otherEvents, otherHistory, -, otherAlone⟩ := otherYields t abreast.second_opened
  exact ⟨events, otherEvents, history, otherHistory, still, holds, alone, otherAlone⟩

end Alongside

/-- Ends of a workflow in two runs, before the page for visits is closed. -/
def EndsAlike (executor : Executor) (page : Page) (index : Nat) (actions : List Action)
    (a b : Progress) (x y : Progress × Option ActionFault) (events otherEvents : List Event) :
    Prop :=
  ∃ stages otherStages, List.Forall₂ Stage.Alike stages otherStages ∧
    executor.Ends page page.number index a actions stages x events ∧
    executor.Ends page page.number index b actions otherStages y otherEvents ∧
    x.2 = y.2 ∧ StaysAside.IsApart page x.1.followUpPage ∧ StaysAside.IsApart page y.1.followUpPage

namespace SameListing

variable {page : Page} {first second : World} {behaviour : Behaviour} {nap : Nat → Nat}
  {executor : Executor} {a b : Progress}

theorem performAll (same : SameListing page first second behaviour nap) (index : Nat)
    (actions : List Action) (progress : ProgressAlike page a b) :
    Alongside first second page executor.capture.folder
      (executor.performAll page index a actions) (executor.performAll page index b actions)
      (EndsAlike executor page index actions a b) := by
  induction actions generalizing index a b with
  | nil =>
      exact Alongside.pure ⟨[], [], .nil, .completed .nil rfl, .completed .nil rfl, rfl,
        progress.first_apart, progress.second_apart⟩
  | cons action later induction =>
      have pending : ProgressAlike page (a.pending index) (b.pending index) :=
        ⟨progress.navigated, progress.first_apart, progress.second_apart⟩
      have performing : Alongside first second page executor.capture.folder
          (executor.perform action page (a.pending index) >>=
            executor.proceed page index action later a)
          (executor.perform action page (b.pending index) >>=
            executor.proceed page index action later b)
          (EndsAlike executor page index (action :: later) a b) := by
        refine Alongside.bind (Alongside.of_yields (same.perform action pending)
          (Yields.perform executor action) (Yields.perform executor action)) ?_
        rintro x y early otherEarly ⟨steps, performed, otherPerformed⟩
        match x, y, steps, performed, otherPerformed with
        | .error cause, .error _, rfl, fails, otherFails =>
            exact Alongside.pure ⟨[], [], .nil, .of_fails fails, .of_fails otherFails, rfl,
              progress.first_apart, progress.second_apart⟩
        | .ok x, .ok y, advance, ⟨completions, carried⟩, ⟨otherCompletions, otherCarried⟩ =>
            intro s t abreast
            obtain ⟨late, otherLate, history, otherHistory, atLast, stages, otherStages, alike,
              ends, otherEnds, fault⟩ := induction (index + 1) advance.progress s t abreast
            obtain ⟨items, others, isFirst, isSecond, agree⟩ := advance.items
            -- The items that were added are those of the stages.
            obtain rfl := List.append_cancel_left (carried.items.symm.trans isFirst)
            obtain rfl := List.append_cancel_left (otherCarried.items.symm.trans isSecond)
            exact ⟨late, otherLate, history, otherHistory, atLast,
              ⟨action, early, completions⟩ :: stages,
              ⟨action, otherEarly, otherCompletions⟩ :: otherStages,
              .cons ⟨rfl, agree⟩ alike, .cons carried ends, .cons otherCarried otherEnds, fault⟩
      rw [Executor.performAll_cons, Executor.performAll_cons]
      split
      · refine Alongside.bind (Alongside.of_yields (SameListing.rest executor)
          (Yields.rest executor) (Yields.rest executor)) ?_
        rintro _ _ _ _ ⟨-, rfl, rfl⟩
        simpa only [List.append_nil] using performing
      · exact performing

theorem finish {x y : Progress × Option ActionFault}
    (firstApart : StaysAside.IsApart page x.1.followUpPage)
    (secondApart : StaysAside.IsApart page y.1.followUpPage) (fault : x.2 = y.2)
    (folder : String) :
    Together first second (Abreast page folder) (Executor.finish x.1 x.2)
      (Executor.finish y.1 y.2) fun _ _ s t => True ∧ Abreast page folder s t := by
  refine Together.bind (StaysAside.together (StaysAside.closeFollowUps firstApart)
    (StaysAside.closeFollowUps secondApart)) fun _ _ => ?_
  rintro s t ⟨-, -, abreast⟩
  rw [← fault]
  cases x.2 with
  | none => exact ⟨trivial, abreast⟩
  | some fault => exact ⟨trivial, abreast⟩

end SameListing

/-- Outcomes of a whole workflow in two runs: the same failure, or as many items. -/
def RunsAlike : Except ActionFault Progress → Except ActionFault Progress → Prop
  | .ok done, .ok otherDone => done.items.length = otherDone.items.length
  | .error fault, .error otherFault => fault = otherFault
  | _, _ => False

namespace EndsAlike

variable {executor : Executor} {page : Page} {x y : Progress × Option ActionFault}
  {events otherEvents : List Event}

theorem runsAlike
    (alike : EndsAlike executor page 0 executor.config.workflow .start .start x y events
      otherEvents) (left otherLeft : FollowUpPage) :
    RunsAlike (Executor.outcomeOf x.1 left x.2) (Executor.outcomeOf y.1 otherLeft y.2) := by
  obtain ⟨stages, otherStages, alike, ends, otherEnds, fault, -, -⟩ := alike
  cases ends with
  | @completed done follows _ =>
      cases otherEnds with
      | @completed otherDone otherFollows _ =>
          have items : done.items = stages.flatMap (·.items) := follows.items
          have otherItems : otherDone.items = otherStages.flatMap (·.items) := otherFollows.items
          change done.items.length = otherDone.items.length
          rw [items, otherItems, Stage.length_flatMap_items alike]
      | aborted => cases fault
  | aborted =>
      cases otherEnds with
      | completed => cases fault
      | aborted => exact Option.some.inj fault

end EndsAlike

end GigListings
