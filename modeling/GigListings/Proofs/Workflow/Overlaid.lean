import GigListings.Proofs.Workflow.InOrder

namespace GigListings

/-! What an extraction gives after its visits, and which pages it visits. -/

def Event.url? : Event → Option String
  | ⟨_, .onPage _ (.goto url _), _⟩ => some url
  | _ => none

/-- The pages that were loaded or tried, the first one first. -/
def loads (events : List Event) : List String := (events.filterMap Event.url?).reverse

theorem loads_append (late early : List Event) :
    loads (late ++ early) = loads early ++ loads late := by
  rw [loads, List.filterMap_append, List.reverse_append]
  rfl

theorem loads_of_capturesOnly {page : Page} {events : List Event}
    (captures : CapturesOnly page events) : loads events = [] := by
  rw [loads, captures.filterMap_eq_nil (fun _ _ => rfl) fun _ _ => rfl]
  rfl

section Visits

variable {executor : Executor} {extractor : Extractor} {known : Nat}

theorem Visited.loads {page : Page} {visit : Visit} {events : List Event} {found : Option Item}
    (visited : Visited extractor page visit events found) :
    GigListings.loads events = [visit.url] := by
  cases visited <;> rfl

theorem Visited.sorted {page : Page} {visit : Visit} {events : List Event} {found : Item}
    (visited : Visited extractor page visit events (some found)) : Dict.Sorted found := by
  cases visited with
  | read => exact extractor.sorted_itemInto _ _ List.Pairwise.nil
  | readEmpty => exact List.Pairwise.nil

theorem VisitedAll.loads {page : Page} {visits : List Visit} {events : List Event}
    {finds : List (Option Item)} (visited : VisitedAll extractor page visits events finds) :
    GigListings.loads events = visits.map (·.url) := by
  induction visited with
  | nil => rfl
  | cons first _ induction =>
      rw [loads_append, induction, first.loads]
      rfl

theorem VisitedAll.sorted {page : Page} {visits : List Visit} {events : List Event}
    {finds : List (Option Item)} (visited : VisitedAll extractor page visits events finds) :
    ∀ found, some found ∈ finds → Dict.Sorted found := by
  induction visited with
  | nil =>
      intro found member
      cases member
  | cons first _ induction =>
      intro found member
      rcases List.mem_cons.mp member with rfl | later
      · exact first.sorted
      · exact induction found later

/-! The page for visits is tried once, and stays what it has become. -/

theorem Completed.after_eq {before after : FollowUpPage} {completion : Completion}
    {events : List Event} (completed : Completed executor known before completion events after)
    (tried : before ≠ .unopened) : after = before := by
  cases completed with
  | unasked => rfl
  | unvisited _ reached =>
      cases reached with
      | refused => exact absurd rfl tried
      | unavailable => rfl
  | visited _ reached _ =>
      cases reached with
      | opened => exact absurd rfl tried
      | again => rfl

theorem CompletedAll.after_eq {before after : FollowUpPage} {completions : List Completion}
    {events : List Event}
    (completed : CompletedAll executor known before completions events after)
    (tried : before ≠ .unopened) : after = before := by
  induction completed with
  | nil => rfl
  | cons first _ induction =>
      have same := first.after_eq tried
      rw [induction (by rwa [same]), same]

/-- The pages that entries ask for, unless there is no page for visits. -/
def asked (completions : List Completion) : FollowUpPage → List String
  | .unavailable => []
  | _ => completions.flatMap fun completion => completion.extracted.visits.map (·.url)

theorem asked_cons (completion : Completion) (completions : List Completion)
    (followUps : FollowUpPage) :
    asked (completion :: completions) followUps =
      asked [completion] followUps ++ asked completions followUps := by
  cases followUps <;> simp [asked]

theorem asked_of_unasked {extracted : Extracted} (none : extracted.visits = [])
    (finds : List (Option Item)) (followUps : FollowUpPage) :
    asked [⟨extracted, finds⟩] followUps = [] := by
  cases followUps <;> simp [asked, none]

theorem Reached.loads {options : BrowserOptions} {before after : FollowUpPage}
    {events : List Event} (reached : Reached options known before events after) :
    GigListings.loads events = [] := by
  cases reached <;> rfl

theorem Completed.loads {before after : FollowUpPage} {completion : Completion}
    {events : List Event} (completed : Completed executor known before completion events after) :
    GigListings.loads events = asked [completion] after := by
  cases completed with
  | unasked none => exact (asked_of_unasked none [] _).symm
  | unvisited _ reached => exact reached.loads
  | visited _ reached visited =>
      rw [loads_append, reached.loads, visited.loads]
      simp [asked]

theorem CompletedAll.loads {before after : FollowUpPage} {completions : List Completion}
    {events : List Event}
    (completed : CompletedAll executor known before completions events after) :
    GigListings.loads events = asked completions after := by
  induction completed with
  | @nil followUps => cases followUps <;> rfl
  | @cons _ between after completion completions _ _ first later induction =>
      rw [loads_append, induction, first.loads, asked_cons completion completions]
      by_cases tried : between = .unopened
      · -- Nothing but an entry that asks for no page leaves the page for visits unopened.
        subst tried
        cases first with
        | unasked none => rw [asked_of_unasked none, asked_of_unasked none]
      · rw [later.after_eq tried]

theorem Completed.get?_item {before after : FollowUpPage} {completion : Completion}
    {events : List Event} (completed : Completed executor known before completion events after)
    (key : String) :
    Dict.get? completion.item key =
      (completion.finds.reverse.findSome? fun found => found.bind (Dict.get? · key)).or
        (Dict.get? completion.extracted.item key) := by
  apply Item.get?_overlaid
  cases completed with
  | unasked =>
      intro found member
      cases member
  | unvisited =>
      intro found member
      cases member
  | visited _ _ visited => exact visited.sorted

theorem CompletedAll.get?_item {before after : FollowUpPage} {completions : List Completion}
    {events : List Event}
    (completed : CompletedAll executor known before completions events after) :
    ∀ completion ∈ completions, ∀ key, Dict.get? completion.item key =
      (completion.finds.reverse.findSome? fun found => found.bind (Dict.get? · key)).or
        (Dict.get? completion.extracted.item key) := by
  induction completed with
  | nil =>
      intro completion member
      cases member
  | cons first _ induction =>
      intro completion member
      rcases List.mem_cons.mp member with rfl | later
      · exact first.get?_item
      · exact induction completion later

end Visits

theorem Executor.Fails.loads {executor : Executor} {page : Page} {before : Progress}
    {action : ExtractAction} {events : List Event} {cause : StepFault}
    (fails : executor.Fails page before (.extract action) events cause) :
    GigListings.loads events = [] := by
  cases fails with
  | notNavigated => rfl
  | unread _ captures =>
      rw [loads_append, loads_of_capturesOnly captures]
      rfl
  | malformed => rfl

/-- Two concerts, the second of which has no page any more. -/
def concertsWorld : World where
  browser :=
    { answer := fun _ _ call =>
        match call with
        | .openPage _ _ => .ok ()
        | .onPage 1 call =>
            stillPage "<li><a href='/1'>Concert</a></li><li><a href='/2'>Encore</a></li>" call
        | .onPage _ (.goto url load) =>
            if url = "/2" then .error (.reported "not found")
            else stillPage "<p>At the door</p>" (.goto url load)
        | .onPage _ call => stillPage "<p>At the door</p>" call }
  clock := .steady 0

end GigListings
