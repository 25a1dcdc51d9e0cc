import GigListings.Proofs.Extraction.Declared
import GigListings.Proofs.Workflow.Listing
import GigListings.Workflow.Run

namespace GigListings

/-! Visits to the pages of single events. They stay away from the listing, and give an item only
fields that a follow-up declares. -/

open Run

/-- What steps that leave a page and the disk alone may have done to a session. -/
structure Aside (page : Page) (before after : Session) : Prop where
  calls : after.history.callsOn page.number = before.history.callsOn page.number
  opened : before.opened ≤ after.opened
  disk : after.disk = before.disk

namespace Aside

variable {page : Page} {first second third : Session}

theorem refl (page : Page) (session : Session) : Aside page session session :=
  ⟨rfl, Nat.le_refl _, rfl⟩

theorem trans (earlier : Aside page first second) (later : Aside page second third) :
    Aside page first third where
  calls := later.calls.trans earlier.calls
  opened := Nat.le_trans earlier.opened later.opened
  disk := later.disk.trans earlier.disk

end Aside

theorem Abreast.aside {page : Page} {folder : String} {s t s' t' : Session}
    (abreast : Abreast page folder s t) (firstAside : Aside page s s')
    (secondAside : Aside page t t') : Abreast page folder s' t' where
  calls := by rw [firstAside.calls, secondAside.calls, abreast.calls]
  first_opened := Nat.le_trans abreast.first_opened firstAside.opened
  second_opened := Nat.le_trans abreast.second_opened secondAside.opened
  disks := by
    rw [firstAside.disk, secondAside.disk]
    exact abreast.disks

/-- A run that leaves the page alone, if it has been opened before, and gives such a result. -/
def StaysAside (page : Page) (world : World) (step : Run α) (result : α → Prop) : Prop :=
  ∀ session, page.number ≤ session.opened →
    result (step.outcome world session).1 ∧ Aside page session (step.outcome world session).2

namespace StaysAside

variable {page : Page} {world : World}

theorem pure {a : α} {result : α → Prop} (holds : result a) :
    StaysAside page world (Pure.pure a) result :=
  fun session _ => ⟨holds, Aside.refl page session⟩

theorem bind {step : Run α} {next : α → Run β} {between : α → Prop} {result : β → Prop}
    (start : StaysAside page world step between)
    (rest : ∀ a, between a → StaysAside page world (next a) result) :
    StaysAside page world (step >>= next) result := by
  intro session opened
  obtain ⟨holds, aside⟩ := start session opened
  obtain ⟨result, later⟩ := rest _ holds _ (Nat.le_trans opened aside.opened)
  exact ⟨result, aside.trans later⟩

theorem mono {step : Run α} {result weaker : α → Prop}
    (aside : StaysAside page world step result) (implies : ∀ a, result a → weaker a) :
    StaysAside page world step weaker :=
  fun session opened => ⟨implies _ (aside session opened).1, (aside session opened).2⟩

theorem together {first second : World} {folder : String} {step : Run α} {other : Run β}
    {result : α → Prop} {otherResult : β → Prop} (aside : StaysAside page first step result)
    (otherAside : StaysAside page second other otherResult) :
    Together first second (Abreast page folder) step other fun a b s t =>
      result a ∧ otherResult b ∧ Abreast page folder s t := by
  intro s t abreast
  obtain ⟨holds, firstAside⟩ := aside s abreast.first_opened
  obtain ⟨otherHolds, secondAside⟩ := otherAside t abreast.second_opened
  exact ⟨holds, otherHolds, abreast.aside firstAside secondAside⟩

theorem call {other : Page} (apart : other.number ≠ page.number) (call : PageCall) :
    StaysAside page world (other.call call) fun _ => True := by
  refine fun session _ => ⟨trivial, ?_, Nat.le_refl _, rfl⟩
  change History.callsOn (_ :: session.history) _ = _
  simp [History.callsOn, apart]

theorem sleep (micros : Nat) : StaysAside page world (Run.sleep micros) fun _ => True :=
  fun _ _ => ⟨trivial, rfl, Nat.le_refl _, rfl⟩

theorem rest (executor : Executor) : StaysAside page world executor.rest fun _ => True := by
  unfold Executor.rest
  split
  · split
    · exact pure trivial
    · exact sleep _
  · exact pure trivial

theorem openNumbered (options : BrowserOptions) (number : Nat) :
    StaysAside page world (Page.openNumbered options number) fun answer =>
      ∀ other, answer = .ok other → other.number = number := by
  have asked : StaysAside page world (Run.call (.openPage number options)) fun _ => True :=
    fun _ _ => ⟨trivial, rfl, Nat.le_refl _, rfl⟩
  refine bind asked fun answer _ => ?_
  cases answer with
  | ok _ =>
      refine pure fun other found => ?_
      cases found
      rfl
  | error fault =>
      refine pure fun other found => ?_
      cases found

theorem openNext (options : BrowserOptions) :
    StaysAside page world (Page.openNext options) fun answer =>
      ∀ other, answer = .ok other → other.number ≠ page.number := by
  intro session opened
  rw [Page.outcome_openNext]
  have later := Nat.le_succ_of_le opened
  obtain ⟨numbered, aside⟩ :=
    openNumbered options (session.opened + 1) { session with opened := session.opened + 1 } later
  refine ⟨fun other found => ?_, aside.calls,
    Nat.le_trans (Nat.le_succ _) aside.opened, aside.disk⟩
  rw [numbered other found]
  omega

/-! Visits. -/

theorem visit (executor : Executor) {other : Page} (apart : other.number ≠ page.number)
    (visit : Visit) :
    StaysAside page world (executor.visit other visit) fun found =>
      ∀ item, found = some item → ∀ key, ¬visit.followUp.Declares key →
        Dict.get? item key = none := by
  refine bind (call apart _) fun answer _ => ?_
  cases answer with
  | error fault => exact pure fun item found => by cases found
  | ok _ =>
      refine bind (call apart .content) fun answer _ => ?_
      cases answer with
      | error fault => exact pure fun item found => by cases found
      | ok html =>
          refine pure fun item found key undeclared => ?_
          cases found
          exact executor.extractor.get?_extractDocument
            (FollowUp.get?_of_not_declares undeclared) html

theorem visitAll (executor : Executor) {other : Page} (apart : other.number ≠ page.number)
    {followUps : List FollowUp} (visits : List Visit)
    (only : ∀ visit ∈ visits, visit.followUp ∈ followUps) (item : Item) :
    StaysAside page world (executor.visitAll other item visits) fun completed =>
      Item.AgreeOutside followUps completed item := by
  induction visits generalizing item with
  | nil => exact pure (.refl followUps item)
  | cons next later induction =>
      have others := fun visit member => only visit (List.mem_cons_of_mem _ member)
      refine bind (rest executor) fun _ _ => ?_
      refine bind (visit executor apart next) fun found declared => ?_
      cases found with
      | none => exact induction others item
      | some found =>
          have merged : Item.AgreeOutside followUps (Dict.merge item found) item := by
            intro key undeclared
            have absent := declared found rfl key (undeclared _ (only next List.mem_cons_self))
            exact Dict.get?_merge_of_none item absent
          exact mono (induction others _) fun _ kept => kept.trans merged

def IsApart (page : Page) (followUps : FollowUpPage) : Prop :=
  ∀ other, followUps = .opened other → other.number ≠ page.number

theorem isApart_unopened (page : Page) : IsApart page .unopened := by
  rintro other ⟨⟩

theorem followUpPage (executor : Executor) {followUps : FollowUpPage}
    (apart : IsApart page followUps) :
    StaysAside page world (executor.followUpPage followUps) (IsApart page) := by
  cases followUps with
  | unopened =>
      refine bind (openNext executor.config.browser) fun answer opened => ?_
      cases answer with
      | ok other =>
          refine pure fun another same => ?_
          cases same
          exact opened other rfl
      | error fault =>
          refine pure fun another same => ?_
          cases same
  | opened other => exact pure apart
  | unavailable => exact pure apart

theorem complete (executor : Executor) {followUps : FollowUpPage} (apart : IsApart page followUps)
    {declared : List FollowUp} {extracted : Extracted} (only : extracted.VisitsOnly declared) :
    StaysAside page world (executor.complete extracted followUps) fun completed =>
      Item.AgreeOutside declared completed.1 extracted.item ∧ IsApart page completed.2 := by
  unfold Executor.complete
  split
  · exact pure ⟨.refl declared _, apart⟩
  · refine bind (followUpPage executor apart) fun followUps apart => ?_
    cases followUps with
    | opened other =>
        refine bind (visitAll executor (apart other rfl) extracted.visits only _)
          fun item kept => ?_
        exact pure ⟨kept, apart⟩
    | unopened => exact pure ⟨.refl declared _, apart⟩
    | unavailable => exact pure ⟨.refl declared _, apart⟩

/-- What completing a list of items adds to the progress. -/
structure Completes (page : Page) (declared : List FollowUp) (extracted : List Extracted)
    (before after : Progress) : Prop where
  navigated : after.navigated = before.navigated
  apart : IsApart page after.followUpPage
  items : ∃ completed, after.items = before.items ++ completed ∧
    List.Forall₂ (fun item found => Item.AgreeOutside declared item found.item) completed extracted

theorem completeAll (executor : Executor) {declared : List FollowUp} (extracted : List Extracted)
    (only : ∀ found ∈ extracted, found.VisitsOnly declared) (progress : Progress)
    (apart : IsApart page progress.followUpPage) :
    StaysAside page world (executor.completeAll progress extracted)
      (Completes page declared extracted progress) := by
  induction extracted generalizing progress with
  | nil => exact pure ⟨rfl, apart, [], (List.append_nil _).symm, .nil⟩
  | cons found later induction =>
      have others := fun found member => only found (List.mem_cons_of_mem _ member)
      refine bind (complete executor apart (only found List.mem_cons_self)) ?_
      rintro ⟨item, followUps⟩ ⟨kept, apart⟩
      refine mono (induction others { progress with
        items := progress.items ++ [item], followUpPage := followUps } apart)
          fun after completes => ?_
      obtain ⟨completed, items, agree⟩ := completes.items
      refine ⟨completes.navigated, completes.apart, item :: completed, ?_, .cons kept agree⟩
      rw [items, List.append_assoc]
      rfl

theorem closeFollowUps {followUps : FollowUpPage} (apart : IsApart page followUps) :
    StaysAside page world (Executor.closeFollowUps followUps) fun _ => True := by
  cases followUps with
  | opened other =>
      have closing : StaysAside page world (discard (other.call .close)) fun _ => True :=
        bind (call (apart other rfl) .close) fun _ _ => pure trivial
      exact bind closing fun _ _ => pure trivial
  | unopened => exact pure trivial
  | unavailable => exact pure trivial

end StaysAside

end GigListings
