import GigListings.Engine
import GigListings.Proofs.Gig.Updated
import GigListings.Proofs.Workflow.Makes
import GigListings.Proofs.Workflow.PagesOpened
import GigListings.Proofs.Workflow.Undisturbed

namespace GigListings

open Run

/-! The pages of a scrape. It opens one of its own and another one for visits at most, and closes
each of them with the last call on it; how closing goes does not show in what it gives. -/

namespace Executor.ClosesUp

variable {page : Page} {events : List Event}

theorem requested_le_one (closes : ClosesUp page events) :
    (requestedPages events).length ≤ 1 := by
  cases closes with
  | unopened unchanged =>
      rw [requestedPages, unchanged]
      exact Nat.zero_le 1
  | refused _ only =>
      rw [requestedPages, only]
      exact Nat.le_refl 1
  | closed _ only =>
      rw [requestedPages, ← List.singleton_append, changes_append, only]
      exact Nat.le_refl 1

theorem fresh (closes : ClosesUp page events) :
    ∀ number ∈ openedPages events, page.number < number := by
  cases closes with
  | unopened unchanged =>
      rw [openedPages, unchanged]
      exact List.forall_mem_nil _
  | refused _ only =>
      rw [openedPages, only]
      exact List.forall_mem_nil _
  | closed fresh only =>
      rw [openedPages, ← List.singleton_append, changes_append, only]
      exact List.forall_mem_singleton.mpr fresh

theorem listing_unclosed (closes : ClosesUp page events) :
    .closed page.number ∉ changes events := by
  cases closes with
  | unopened unchanged =>
      rw [unchanged]
      exact List.not_mem_nil
  | refused _ only =>
      rw [only]
      simp
  | closed fresh only =>
      rw [← List.singleton_append, changes_append, only]
      simp [changes, Event.change?, Nat.ne_of_lt fresh]

theorem closed_last (closes : ClosesUp page events) :
    ∀ number ∈ openedPages events, ∃ earlier,
      History.callsOn events number = .close :: earlier ∧ .close ∉ earlier := by
  cases closes with
  | unopened unchanged =>
      rw [openedPages, unchanged]
      exact List.forall_mem_nil _
  | refused _ only =>
      rw [openedPages, only]
      exact List.forall_mem_nil _
  | @closed earlier number time answer _ only =>
      rw [openedPages, ← List.singleton_append, changes_append, only]
      refine List.forall_mem_singleton.mpr ⟨History.callsOn earlier number, ?_, ?_⟩
      · rw [callsOn_append]
        simp [History.callsOn]
      · apply close_not_mem_callsOn
        rw [only]
        simp

end Executor.ClosesUp

theorem openedPages_length_le (events : List Event) :
    (openedPages events).length ≤ (requestedPages events).length := by
  unfold openedPages requestedPages
  induction changes events with
  | nil => exact Nat.le_refl 0
  | cons change changes induction =>
      cases change with
      | opened page => exact Nat.succ_le_succ induction
      | refused page => exact Nat.le_succ_of_le induction
      | closed page => exact induction

/-- Calls on a page of its own, which is opened before and closed after them. -/
def around (options : BrowserOptions) (listing : Nat) (during : List Event) (opening closing : Nat)
    (answer : Except PageFault Unit) : List Event :=
  [⟨closing, .onPage listing .close, answer⟩] ++ during ++
    [⟨opening, .openPage listing options, .ok ()⟩]

/-- How the pages of a run live. -/
structure Lifecycle (executor : Executor) (events : List Event) : Prop where
  atMostTwo : (openedPages events).length ≤ 2
  distinct : (openedPages events).Nodup
  closed : ∀ page ∈ openedPages events, ∃ earlier,
    History.callsOn events page = .close :: earlier ∧ .close ∉ earlier
  /-- The workflow is carried out when the page of the run is there. It asks for one page at most,
  once an item that asks for visits was extracted. -/
  requests :
    (∃ time listing fault,
      events = [⟨time, .openPage listing executor.config.browser, .error fault⟩]) ∨
    ∃ listing during opening closing answer stages result,
      events = around executor.config.browser listing during opening closing answer ∧
      executor.Concludes ⟨listing⟩ stages result during ∧
      (requestedPages during).length ≤ 1 ∧
      ∀ request ∈ during, request.isRequest = true →
        ∃ stage ∈ stages, executor.IsDue ⟨listing⟩ stage request

namespace Lifecycle

variable {executor : Executor}

theorem of_refused (executor : Executor) (time listing : Nat) (fault : PageFault) :
    Lifecycle executor [⟨time, .openPage listing executor.config.browser, .error fault⟩] where
  atMostTwo := Nat.zero_le 2
  distinct := List.nodup_nil
  closed := List.forall_mem_nil _
  requests := .inl ⟨time, listing, fault, rfl⟩

variable (options : BrowserOptions) (opening closing : Nat) (answer : Except PageFault Unit)

theorem openedPages_around (listing : Nat) (during : List Event) :
    openedPages (around options listing during opening closing answer) =
      openedPages during ++ [listing] := by
  rw [openedPages, around, changes_append, changes_append, List.filterMap_append,
    List.filterMap_append]
  rfl

theorem callsOn_around (listing : Nat) (during : List Event) :
    History.callsOn (around options listing during opening closing answer) listing =
      .close :: History.callsOn during listing := by
  rw [around, callsOn_append, callsOn_append]
  simp [History.callsOn]

theorem callsOn_around_of_ne {listing page : Nat} (other : listing ≠ page)
    (during : List Event) :
    History.callsOn (around options listing during opening closing answer) page =
      History.callsOn during page := by
  rw [around, callsOn_append, callsOn_append]
  simp [History.callsOn, other]

theorem of_concludes {page : Page} {stages : List Stage} {result : Except ActionFault Progress}
    {during : List Event} (concludes : executor.Concludes page stages result during) :
    Lifecycle executor
      (around executor.config.browser page.number during opening closing answer) where
  atMostTwo := by
    rw [openedPages_around, List.length_append]
    exact Nat.succ_le_succ
      (Nat.le_trans (openedPages_length_le during) concludes.closesUp.requested_le_one)
  distinct := by
    have one : (openedPages during).length ≤ 1 :=
      Nat.le_trans (openedPages_length_le during) concludes.closesUp.requested_le_one
    rw [openedPages_around]
    refine List.nodup_append.mpr ⟨?_, List.nodup_singleton _, ?_⟩
    · match openedPages during, one with
      | [], _ => exact List.nodup_nil
      | [number], _ => exact List.nodup_singleton number
    · intro number opened listing isListing
      rw [List.mem_singleton.mp isListing]
      exact Nat.ne_of_gt (concludes.closesUp.fresh number opened)
  closed := by
    intro number opened
    rw [openedPages_around] at opened
    rcases List.mem_append.mp opened with visiting | isListing
    · rw [callsOn_around_of_ne _ _ _ _ (Nat.ne_of_lt (concludes.closesUp.fresh number visiting))]
      exact concludes.closesUp.closed_last number visiting
    · rw [List.mem_singleton.mp isListing]
      exact ⟨_, callsOn_around _ _ _ _ _ _,
        close_not_mem_callsOn concludes.closesUp.listing_unclosed⟩
  requests := .inr ⟨page.number, during, opening, closing, answer, stages, result, rfl, concludes,
    concludes.closesUp.requested_le_one, fun _ member isRequest => concludes.isDue isRequest member⟩

end Lifecycle

namespace Engine

variable (engine : Engine)

def conclude (dates : DateContext) (page : Page) (outcome : Except ActionFault Progress) :
    Run (Except ScrapeFault (List Gig)) := do
  discard (page.call .close)
  match outcome with
  | .error fault => return .error (.action fault)
  | .ok progress =>
      return (engine.settle dates (← Run.now) progress.items).mapError ScrapeFault.batch

def scrape (dates : DateContext) : Except PageFault Page → Run (Except ScrapeFault (List Gig))
  | .error fault => return .error (.noPage fault)
  | .ok page => (engine.executor dates).run page >>= engine.conclude dates page

theorem run_eq :
    engine.run = Run.now >>= fun now =>
      Page.openNext engine.config.browser >>= engine.scrape (engine.dates now) := rfl

end Engine

section Pages

variable {world : World} (engine : Engine) (dates : DateContext)

theorem Yields.conclude (known : Nat) (page : Page) (outcome : Except ActionFault Progress) :
    Yields known world (engine.conclude dates page outcome) fun _ events =>
      ∃ time answer, events = [⟨time, .onPage page.number .close, answer⟩] := by
  have closing : Yields known world (Functor.discard (page.call .close)) fun _ events =>
      ∃ time answer, events = [⟨time, .onPage page.number .close, answer⟩] := by
    refine Yields.discard ((Yields.call _).mono ?_)
    rintro answer events ⟨time, rfl⟩
    exact ⟨time, answer, rfl⟩
  refine Yields.bind closing fun _ events closed => ?_
  cases outcome with
  | error fault => exact Yields.pure closed
  | ok done => exact Yields.after_silent Yields.now fun _ => Yields.pure closed

theorem Yields.scrape (number : Nat) :
    Yields number world (Page.openNumbered engine.config.browser number >>= engine.scrape dates)
      fun _ events => Lifecycle (engine.executor dates) events := by
  have opening : Yields number world (Page.openNumbered engine.config.browser number)
      fun answer events =>
        (answer = .ok ⟨number⟩ ∧
          ∃ time, events = [⟨time, .openPage number engine.config.browser, .ok ()⟩]) ∨
        ∃ fault time, answer = .error fault ∧
          events = [⟨time, .openPage number engine.config.browser, .error fault⟩] := by
    refine Yields.bind (Yields.call (.openPage number engine.config.browser)) ?_
    rintro answer events ⟨time, rfl⟩
    cases answer with
    | ok _ => exact Yields.pure (.inl ⟨rfl, time, rfl⟩)
    | error fault => exact Yields.pure (.inr ⟨fault, time, rfl, rfl⟩)
  refine Yields.bind opening ?_
  rintro answer _ (⟨rfl, time, rfl⟩ | ⟨fault, time, rfl, rfl⟩)
  · refine Yields.bind (Yields.concludes (engine.executor dates) ⟨number⟩ world) ?_
    rintro outcome during ⟨stages, concludes⟩
    refine (Yields.conclude engine dates number ⟨number⟩ outcome).mono ?_
    rintro result _ ⟨closing, closed, rfl⟩
    rw [List.append_assoc]
    exact Lifecycle.of_concludes time closing closed concludes
  · exact Yields.pure (Lifecycle.of_refused (engine.executor dates) _ _ _)

end Pages

/-! The moment of a scrape and how its pages are closed. -/

def Run.endMoment (step : Run α) (world : World) (session : Session) : Instant :=
  (Run.now.outcome world (step.outcome world session).2).1

theorem Run.endMoment_bind (step : Run α) (next : α → Run β) (world : World)
    (session : Session) :
    (step >>= next).endMoment world session =
      (next (step.outcome world session).1).endMoment world (step.outcome world session).2 := by
  rw [endMoment, outcome_bind]
  rfl

namespace Engine

variable (engine : Engine) (dates : DateContext)

theorem settle_updated (items : List Item) (now later : Instant) :
    engine.settle dates later items =
      (engine.settle dates now items).map (List.map (·.updated later)) := by
  have same := Normalizer.gigs_atMoment
    ⟨engine.config, engine.transforms, engine.formats, dates, now⟩ later items
  rw [Normalizer.atMoment] at same
  unfold settle
  dsimp only at same ⊢
  rw [same, ValidationRules.check_updated]
  · cases engine.config.validation.check _ with
    | error fault => rfl
    | ok _ => rfl
  · intro gig member
    rw [Normalizer.updatedAt_of_mem_gigs member]
    exact Instant.iso_ne_empty _

theorem outcome_conclude (page : Page) (done : Progress) (world : World) (session : Session) :
    ((engine.conclude dates page (.ok done)).outcome world session).1 =
      (engine.settle dates ((engine.conclude dates page (.ok done)).endMoment world session)
        done.items).mapError .batch := rfl

theorem conclude_updated (page : Page) (outcome : Except ActionFault Progress)
    (first second : World) (session other : Session) :
    ((engine.conclude dates page outcome).outcome second other).1 =
      ((engine.conclude dates page outcome).outcome first session).1.map
        (List.map (·.updated ((engine.conclude dates page outcome).endMoment second other))) := by
  cases outcome with
  | error fault => rfl
  | ok done =>
      rw [outcome_conclude, outcome_conclude, engine.settle_updated dates done.items
        ((engine.conclude dates page (.ok done)).endMoment first session)]
      cases engine.settle dates _ done.items with
      | error fault => rfl
      | ok gigs => rfl

theorem scrape_updated {first second : World} (agree : first.AgreeButForClosing second)
    (answer : Except PageFault Page) (session : Session) :
    ((engine.scrape dates answer).outcome second session).1 =
      ((engine.scrape dates answer).outcome first session).1.map
        (List.map (·.updated ((engine.scrape dates answer).endMoment second session))) := by
  cases answer with
  | error fault => rfl
  | ok page =>
      rw [scrape, Run.endMoment_bind, outcome_bind, outcome_bind,
        ← agree.run (engine.executor dates) page session]
      exact engine.conclude_updated dates page _ first second _ _

def ticketsEngine : Engine where
  config := ticketsExecutor.config
  transforms := .builtin
  formats := .builtin
  zone := none
  today := none
  captureFolder := none

/-- To fail to close a page takes a second. -/
def unclosedWorld : World where
  browser :=
    { answer := fun history time call =>
        match call with
        | .onPage _ .close => .error (.reported "already closed")
        | call => (listingWorld true).browser.answer history time call }
  clock :=
    { Clock.steady 0 with callTime := fun _ _ call => if call.closes then 1000000 else 0 }

theorem agreeButForClosing_unclosedWorld :
    (listingWorld true).AgreeButForClosing unclosedWorld where
  start := rfl
  sleepTime := rfl
  callTime := fun _ _ call staysOpen => by
    simp [unclosedWorld, listingWorld, Clock.steady, staysOpen]
  answer := fun _ _ call staysOpen => by
    cases call with
    | openPage number options => rfl
    | onPage number call => cases call <;> first | rfl | cases staysOpen

end Engine

end GigListings
