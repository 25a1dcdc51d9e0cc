import GigListings.Proofs.Extraction.Declared
import GigListings.Proofs.Run.Together
import GigListings.Workflow.Run

namespace GigListings

/-! Visits to the pages of single events, told by the calls that they make. One page is used for
all of them. What an item gains from a visit was read of this page between the visit's own load
and the next. -/

/-- The fields that visits have found, laid over an item one after another. -/
def Item.overlaid (item : Item) : List (Option Item) → Item
  | [] => item
  | some found :: later => Item.overlaid (Dict.merge item found) later
  | none :: later => Item.overlaid item later

/-- The last visit that has found a field decides on it. -/
theorem Item.get?_overlaid {finds : List (Option Item)}
    (sorted : ∀ found, some found ∈ finds → Dict.Sorted found) (item : Item) (key : String) :
    Dict.get? (item.overlaid finds) key =
      (finds.reverse.findSome? fun found => found.bind (Dict.get? · key)).or
        (Dict.get? item key) := by
  induction finds generalizing item with
  | nil => rfl
  | cons first later induction =>
      have sortedLater : ∀ found, some found ∈ later → Dict.Sorted found :=
        fun found member => sorted found (List.mem_cons_of_mem _ member)
      rw [List.reverse_cons, List.findSome?_append, List.findSome?_singleton, Option.or_assoc]
      cases first with
      | none =>
          rw [overlaid, induction sortedLater]
          rfl
      | some found =>
          have distinct := Dict.nodup_of_sorted (sorted found List.mem_cons_self)
          rw [overlaid, induction sortedLater, Dict.get?_merge item distinct]
          rfl

/-- How a visit goes: the calls that it makes, the latest first, and what it finds. What it has read
are the values of the follow-up's own fields on the document that was shown. -/
inductive Visited (extractor : Extractor) (page : Page) (visit : Visit) :
    List Event → Option Item → Prop where
  | notLoaded {time : Nat} {fault : PageFault} :
      Visited extractor page visit
        [⟨time, .onPage page.number (.goto visit.url true), .error fault⟩] none
  | notRead {loading reading : Nat} {fault : PageFault} :
      Visited extractor page visit
        [⟨reading, .onPage page.number .content, .error fault⟩,
          ⟨loading, .onPage page.number (.goto visit.url true), .ok ()⟩] none
  | read {loading reading : Nat} {html : String} {root : Html.Place}
      (isRoot : (Html.Document.parse html).root? = some root) :
      Visited extractor page visit
        [⟨reading, .onPage page.number .content, .ok html⟩,
          ⟨loading, .onPage page.number (.goto visit.url true), .ok ()⟩]
        (some (extractor.itemInto visit.followUp.fields root []))
  | readEmpty {loading reading : Nat} {html : String}
      (noRoot : (Html.Document.parse html).root? = none) :
      Visited extractor page visit
        [⟨reading, .onPage page.number .content, .ok html⟩,
          ⟨loading, .onPage page.number (.goto visit.url true), .ok ()⟩]
        (some [])

inductive VisitedAll (extractor : Extractor) (page : Page) :
    List Visit → List Event → List (Option Item) → Prop where
  | nil : VisitedAll extractor page [] [] []
  | cons {visit : Visit} {visits : List Visit} {early late : List Event} {found : Option Item}
      {finds : List (Option Item)} (first : Visited extractor page visit early found)
      (later : VisitedAll extractor page visits late finds) :
      VisitedAll extractor page (visit :: visits) (late ++ early) (found :: finds)

/-- What was extracted from a container, and what each visit for it has found. -/
structure Completion where
  extracted : Extracted
  finds : List (Option Item)

def Completion.item (completion : Completion) : Item :=
  completion.extracted.item.overlaid completion.finds

/-- What becomes of the page for visits when it is asked for. It is opened once in a run, with a
number above `known`; after a refusal it is not asked for again. -/
inductive Reached (options : BrowserOptions) (known : Nat) :
    FollowUpPage → List Event → FollowUpPage → Prop where
  | opened {time : Nat} {page : Page} (fresh : known < page.number) :
      Reached options known .unopened [⟨time, .openPage page.number options, .ok ()⟩] (.opened page)
  | refused {time number : Nat} {fault : PageFault} (fresh : known < number) :
      Reached options known .unopened [⟨time, .openPage number options, .error fault⟩] .unavailable
  | again {page : Page} : Reached options known (.opened page) [] (.opened page)
  | unavailable : Reached options known .unavailable [] .unavailable

/-- How an item is completed, and what becomes of the page for visits. -/
inductive Completed (executor : Executor) (known : Nat) :
    FollowUpPage → Completion → List Event → FollowUpPage → Prop where
  | unasked {followUps : FollowUpPage} {extracted : Extracted} (none : extracted.visits = []) :
      Completed executor known followUps ⟨extracted, []⟩ [] followUps
  | unvisited {followUps : FollowUpPage} {extracted : Extracted} {events : List Event}
      (asked : extracted.visits ≠ [])
      (reached : Reached executor.config.browser known followUps events .unavailable) :
      Completed executor known followUps ⟨extracted, []⟩ events .unavailable
  | visited {followUps : FollowUpPage} {extracted : Extracted} {page : Page}
      {early late : List Event} {finds : List (Option Item)} (asked : extracted.visits ≠ [])
      (reached : Reached executor.config.browser known followUps early (.opened page))
      (visited : VisitedAll executor.extractor page extracted.visits late finds) :
      Completed executor known followUps ⟨extracted, finds⟩ (late ++ early) (.opened page)

inductive CompletedAll (executor : Executor) (known : Nat) :
    FollowUpPage → List Completion → List Event → FollowUpPage → Prop where
  | nil {followUps : FollowUpPage} : CompletedAll executor known followUps [] [] followUps
  | cons {before between after : FollowUpPage} {completion : Completion}
      {completions : List Completion} {early late : List Event}
      (first : Completed executor known before completion early between)
      (later : CompletedAll executor known between completions late after) :
      CompletedAll executor known before (completion :: completions) (late ++ early) after

/-! Every completion of a run goes so. -/

namespace Yields

variable {known : Nat} {world : World}

theorem rest (executor : Executor) : Silent known world executor.rest := by
  unfold Executor.rest
  split
  · split
    · exact Yields.pure rfl
    · exact sleep _
  · exact Yields.pure rfl

theorem visit (executor : Executor) (page : Page) (visit : Visit) :
    Yields known world (executor.visit page visit) fun found events =>
      Visited executor.extractor page visit events found := by
  refine Yields.bind (call _) ?_
  rintro loaded _ ⟨loading, rfl⟩
  cases loaded with
  | error fault => exact Yields.pure .notLoaded
  | ok _ =>
      refine Yields.bind (call _) ?_
      rintro answer _ ⟨reading, rfl⟩
      cases answer with
      | error fault => exact Yields.pure .notRead
      | ok html =>
          refine Yields.pure ?_
          unfold Extractor.extractDocument
          split
          · rename_i root isRoot
            exact .read isRoot
          · rename_i noRoot
            exact .readEmpty noRoot

theorem visitAll (executor : Executor) (page : Page) (item : Item) (visits : List Visit) :
    Yields known world (executor.visitAll page item visits) fun after events =>
      ∃ finds, VisitedAll executor.extractor page visits events finds ∧
        after = item.overlaid finds := by
  induction visits generalizing item with
  | nil => exact Yields.pure ⟨[], .nil, rfl⟩
  | cons next later induction =>
      refine after_silent (rest executor) fun _ => ?_
      refine Yields.bind (visit executor page next) fun found early first => ?_
      cases found with
      | none =>
          refine (induction item).mono ?_
          rintro after late ⟨finds, visited, same⟩
          exact ⟨none :: finds, .cons first visited, same⟩
      | some found =>
          refine (induction (Dict.merge item found)).mono ?_
          rintro after late ⟨finds, visited, same⟩
          exact ⟨some found :: finds, .cons first visited, same⟩

theorem followUpPage (executor : Executor) (followUps : FollowUpPage) :
    Yields known world (executor.followUpPage followUps) fun after events =>
      Reached executor.config.browser known followUps events after := by
  cases followUps with
  | opened page => exact Yields.pure .again
  | unavailable => exact Yields.pure .unavailable
  | unopened =>
      refine Yields.bind (openNext executor.config.browser) fun answer events opens => ?_
      cases answer with
      | ok page =>
          obtain ⟨fresh, time, rfl⟩ := opens
          exact Yields.pure (.opened fresh)
      | error fault =>
          obtain ⟨time, number, fresh, rfl⟩ := opens
          exact Yields.pure (.refused fresh)

theorem complete (executor : Executor) (extracted : Extracted) (followUps : FollowUpPage) :
    Yields known world (executor.complete extracted followUps) fun result events =>
      ∃ finds, Completed executor known followUps ⟨extracted, finds⟩ events result.2 ∧
        result.1 = extracted.item.overlaid finds := by
  unfold Executor.complete
  split
  · rename_i none
    exact Yields.pure ⟨[], .unasked (List.isEmpty_iff.mp none), rfl⟩
  · rename_i some
    have asked : extracted.visits ≠ [] := fun none => some (List.isEmpty_iff.mpr none)
    refine Yields.bind (followUpPage executor followUps) fun after early reached => ?_
    cases after with
    | unopened => cases reached
    | unavailable => exact Yields.pure ⟨[], .unvisited asked reached, rfl⟩
    | opened page =>
        refine Yields.bind (visitAll executor page extracted.item extracted.visits) ?_
        rintro item late ⟨finds, visited, rfl⟩
        exact Yields.pure ⟨finds, .visited asked reached visited, rfl⟩

theorem completeAll (executor : Executor) (progress : Progress) (found : List Extracted) :
    Yields known world (executor.completeAll progress found) fun after events =>
      ∃ (completions : List Completion) (followUps : FollowUpPage),
        found = completions.map (·.extracted) ∧
        CompletedAll executor known progress.followUpPage completions events followUps ∧
        after = { progress with
          items := progress.items ++ completions.map (·.item), followUpPage := followUps } := by
  induction found generalizing progress with
  | nil =>
      refine Yields.pure ⟨[], progress.followUpPage, rfl, .nil, ?_⟩
      rw [List.map_nil, List.append_nil]
  | cons extracted found induction =>
      refine Yields.bind (complete executor extracted progress.followUpPage) ?_
      rintro ⟨item, followUps⟩ early ⟨finds, first, rfl⟩
      refine (induction _).mono ?_
      rintro after late ⟨completions, atLast, rfl, later, rfl⟩
      refine ⟨⟨extracted, finds⟩ :: completions, atLast, rfl, .cons first later, ?_⟩
      rw [List.append_assoc]
      rfl

end Yields

end GigListings
