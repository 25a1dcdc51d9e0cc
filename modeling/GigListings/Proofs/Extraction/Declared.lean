import GigListings.Extraction.Page
import GigListings.Proofs.Dict
import GigListings.Proofs.Except

namespace GigListings

/-! What an extraction may add to an item, and which pages it asks to visit: only fields and
follow-ups that its action declares. -/

def FollowUp.Declares (followUp : FollowUp) (key : String) : Prop :=
  Dict.contains followUp.fields key = true

def ExtractAction.followUps (action : ExtractAction) : List FollowUp :=
  (action.fields.filterMap fun entry => entry.2.followUp) ++ action.followUp.toList

def Action.extraction? : Action → Option ExtractAction
  | .extract action => some action
  | _ => none

def extractions (workflow : List Action) : List ExtractAction :=
  workflow.filterMap Action.extraction?

theorem extractions_cons (action : Action) (rest : List Action) :
    extractions (action :: rest) = action.extraction?.toList ++ extractions rest := by
  cases action <;> rfl

theorem FollowUp.get?_of_not_declares {followUp : FollowUp} {key : String}
    (undeclared : ¬followUp.Declares key) : Dict.get? followUp.fields key = none := by
  rw [Declares, Dict.contains] at undeclared
  exact Option.not_isSome_iff_eq_none.mp undeclared

/-- Items that hold the same under every name that none of the follow-ups declares. -/
def Item.AgreeOutside (followUps : List FollowUp) (a b : Item) : Prop :=
  ∀ key, (∀ followUp ∈ followUps, ¬followUp.Declares key) → Dict.get? a key = Dict.get? b key

namespace Item.AgreeOutside

variable {followUps : List FollowUp} {a b c : Item}

theorem refl (followUps : List FollowUp) (a : Item) : AgreeOutside followUps a a :=
  fun _ _ => rfl

theorem symm (agree : AgreeOutside followUps a b) : AgreeOutside followUps b a :=
  fun key undeclared => (agree key undeclared).symm

theorem trans (first : AgreeOutside followUps a b) (second : AgreeOutside followUps b c) :
    AgreeOutside followUps a c :=
  fun key undeclared => (first key undeclared).trans (second key undeclared)

end Item.AgreeOutside

namespace Extractor

variable (extractor : Extractor)

theorem get?_extractField {fields : FieldRules} {key : String}
    (absent : Dict.get? fields key = none) (container : Html.Place) (item : Item) (name : String) :
    Dict.get? (extractor.extractField fields container item name) key = Dict.get? item key := by
  rw [extractField]
  split
  · rename_i value found
    have different : key ≠ name := by
      rintro rfl
      rw [absent] at found
      cases found
    exact Dict.get?_insert_of_ne different value
  · rfl

theorem get?_itemInto {fields : FieldRules} {key : String} (absent : Dict.get? fields key = none)
    (container : Html.Place) (item : Item) :
    Dict.get? (extractor.itemInto fields container item) key = Dict.get? item key := by
  unfold itemInto
  induction fields.order generalizing item with
  | nil => rfl
  | cons name names induction =>
      rw [List.foldl_cons, induction, extractor.get?_extractField absent]

theorem sorted_extractField (fields : FieldRules) (container : Html.Place) {item : Item}
    (sorted : Dict.Sorted item) (name : String) :
    Dict.Sorted (extractor.extractField fields container item name) := by
  rw [extractField]
  split
  · exact Dict.sorted_insert sorted name _
  · exact sorted

theorem sorted_itemInto (fields : FieldRules) (container : Html.Place) {item : Item}
    (sorted : Dict.Sorted item) : Dict.Sorted (extractor.itemInto fields container item) := by
  unfold itemInto
  induction fields.order generalizing item with
  | nil => exact sorted
  | cons name names induction =>
      exact induction (extractor.sorted_extractField fields container sorted name)

theorem get?_extractDocument {fields : FieldRules} {key : String}
    (absent : Dict.get? fields key = none) (page : String) :
    Dict.get? (extractor.extractDocument fields page) key = none := by
  rw [extractDocument]
  split
  · rw [extractor.get?_itemInto absent]
    rfl
  · rfl

end Extractor

def Extracted.VisitsOnly (followUps : List FollowUp) (extracted : Extracted) : Prop :=
  ∀ visit ∈ extracted.visits, visit.followUp ∈ followUps

theorem Item.followUp_of_visit? {item : Item} {followUp : FollowUp} {urlField : String}
    {visit : Visit} (asked : item.visit? followUp urlField = some visit) :
    visit.followUp = followUp := by
  obtain ⟨url, -, rfl⟩ := Option.map_eq_some_iff.mp asked
  rfl

theorem Extractor.extractInto_visitsOnly (extractor : Extractor) (fields : FieldRules)
    (container : Html.Place) (item : Item) :
    (extractor.extractInto fields container item).VisitsOnly
      (fields.filterMap fun entry => entry.2.followUp) := by
  intro visit member
  obtain ⟨entry, isField, asked⟩ := List.mem_filterMap.mp member
  obtain ⟨followUp, declared, asked⟩ := Option.bind_eq_some_iff.mp asked
  rw [Item.followUp_of_visit? asked]
  exact List.mem_filterMap.mpr ⟨entry, isField, declared⟩

theorem DateGroups.walk_all {isHeading isEvent : Html.Place → Bool} {group : Html.Place → DateGroup}
    {extract : DateGroup → Html.Place → Extracted} {holds : Extracted → Prop}
    (each : ∀ group place, holds (extract group place)) (current : Option DateGroup)
    (places : List Html.Place) :
    ∀ extracted ∈ walk isHeading isEvent group extract current places, holds extracted := by
  induction places generalizing current with
  | nil =>
      intro extracted member
      cases member
  | cons place rest induction =>
      intro extracted member
      rw [walk] at member
      split at member
      · exact induction _ extracted member
      · dsimp only at member
        split at member
        · split at member
          · rcases List.mem_cons.mp member with rfl | later
            · exact each _ _
            · exact induction _ extracted later
          · exact induction _ extracted member
        · exact induction _ extracted member

namespace Extractor

theorem containerItems_visitsOnly {extractor : Extractor} {action : ExtractAction}
    {container : Html.Place} {found : List Extracted}
    (read : extractor.containerItems action container = .ok found) :
    ∀ extracted ∈ found,
      extracted.VisitsOnly (action.fields.filterMap fun entry => entry.2.followUp) := by
  rw [containerItems] at read
  split at read
  · cases read
    intro extracted member
    rw [List.mem_singleton.mp member]
    exact extractor.extractInto_visitsOnly _ _ _
  · obtain ⟨heading, -, read⟩ := Except.bind_eq_ok.mp read
    obtain ⟨event, -, read⟩ := Except.bind_eq_ok.mp read
    cases read
    exact DateGroups.walk_all (fun _ _ => extractor.extractInto_visitsOnly _ _ _) _ _

theorem extractPage_visitsOnly {extractor : Extractor} {action : ExtractAction} {page : String}
    {found : List Extracted} (read : extractor.extractPage action page = .ok found) :
    ∀ extracted ∈ found, extracted.VisitsOnly action.followUps := by
  intro extracted member
  obtain ⟨container, -, read⟩ := Except.bind_eq_ok.mp read
  obtain ⟨groups, passed, read⟩ := Except.bind_eq_ok.mp read
  cases read
  obtain ⟨before, isBefore, rfl⟩ := List.mem_map.mp member
  obtain ⟨group, isGroup, inGroup⟩ := List.mem_flatten.mp isBefore
  obtain ⟨place, -, grouped⟩ := Except.exists_of_mem_mapM passed isGroup
  have only := containerItems_visitsOnly grouped before inGroup
  intro visit isVisit
  rcases List.mem_append.mp isVisit with ofField | ofAction
  · exact List.mem_append_left _ (only visit ofField)
  · obtain ⟨followUp, declared, asked⟩ :=
      Option.bind_eq_some_iff.mp (Option.mem_toList.mp ofAction)
    rw [Item.followUp_of_visit? asked]
    exact List.mem_append_right _ (Option.mem_toList.mpr declared)

end Extractor

end GigListings
