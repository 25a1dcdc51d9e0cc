import GigListings.Json.Schema
import GigListings.Proofs.Dict

namespace GigListings.Json

/-! What values without violations are like. -/

namespace Schema

theorem all_eq_nil {schemas : List Schema} {value : Json} :
    Schema.all schemas value = [] ↔ ∀ schema ∈ schemas, schema value = [] := by
  unfold Schema.all
  rw [List.flatMap_eq_nil_iff]

theorem defects_eq_nil {value : Json} {defect : Defect} {holds : Bool} :
    defects value defect holds = [] ↔ holds = true := by
  unfold defects
  cases holds with
  | false => simp
  | true => simp

theorem ofKind_eq_nil {kind : Kind} {value : Json} :
    ofKind kind value = [] ↔ value.hasKind kind = true :=
  defects_eq_nil

def Demands (schema : Schema) (kind : Kind) : Prop :=
  ∀ value, schema value = [] → value.hasKind kind = true

theorem demands_ofKind (kind : Kind) : Demands (ofKind kind) kind :=
  fun _ fits => ofKind_eq_nil.mp fits

theorem Demands.all {first : Schema} {kind : Kind} (demands : first.Demands kind)
    (others : List Schema) : Demands (Schema.all (first :: others)) kind :=
  fun value fits => demands value (all_eq_nil.mp fits first List.mem_cons_self)

theorem exists_obj_of_hasKind {value : Json} (object : value.hasKind .object = true) :
    ∃ members, value = .obj members := by
  cases value with
  | obj members => exact ⟨members, rfl⟩
  | _ => cases object

theorem required_eq_nil {names : List String} {members : Members} :
    required names (.obj members) = [] ↔ ∀ name ∈ names, Members.contains members name = true := by
  unfold required
  simp only [List.flatMap_eq_nil_iff, defects_eq_nil]

theorem closed_eq_nil {known : List (String × Schema)} {members : Members} :
    closed known (.obj members) = [] ↔
      ∀ name value, (name, value) ∈ members →
        ∃ schema, known.lookup name = some schema ∧ schema value = [] := by
  unfold closed
  rw [List.append_eq_nil_iff, List.flatMap_eq_nil_iff]
  constructor
  · rintro ⟨each, others⟩ name value member
    have noOthers :
        (members.map Prod.fst).filter (fun name => (known.lookup name).isNone) = [] := by
      split at others
      · assumption
      · cases others
    have declared := List.filter_eq_nil_iff.mp noOthers name
      (List.mem_map_of_mem (f := Prod.fst) member)
    cases found : known.lookup name with
    | none =>
        rw [found] at declared
        exact absurd rfl declared
    | some schema =>
        have fits := each (name, value) member
        simp only [found, List.map_eq_nil_iff] at fits
        exact ⟨schema, rfl, fits⟩
  · intro each
    refine ⟨?_, ?_⟩
    · rintro ⟨name, value⟩ member
      obtain ⟨schema, found, fits⟩ := each name value member
      simp only [found, fits, List.map_nil]
    · have noOthers :
          (members.map Prod.fst).filter (fun name => (known.lookup name).isNone) = [] := by
        rw [List.filter_eq_nil_iff]
        intro name named
        obtain ⟨⟨_, value⟩, member, rfl⟩ := List.mem_map.mp named
        obtain ⟨schema, found, -⟩ := each _ _ member
        rw [found]
        simp
      rw [noOthers]

theorem members_eq_nil {known : List (String × Schema)} {members : Members}
    (distinct : (known.map Prod.fst).Nodup) :
    Schema.members known (.obj members) = [] ↔
      ∀ name schema value, known.lookup name = some schema → members.get? name = some value →
        schema value = [] := by
  unfold Schema.members
  rw [List.flatMap_eq_nil_iff]
  constructor
  · intro each name schema value declared found
    have fits := each (name, schema) (Dict.mem_of_get? declared)
    simpa only [found, List.map_eq_nil_iff] using fits
  · rintro each ⟨name, schema⟩ member
    dsimp only
    cases found : members.get? name with
    | none => rfl
    | some value =>
        have fits := each name schema value (Dict.get?_of_mem distinct member) found
        simp only [fits, List.map_nil]

theorem exactlyOne_eq_nil {first second : Schema} {value : Json} :
    exactlyOne [first, second] value = [] ↔
      (first value = [] ∧ second value ≠ []) ∨ (first value ≠ [] ∧ second value = []) := by
  unfold exactlyOne
  rw [defects_eq_nil, decide_eq_true_eq]
  cases firstEquation : first value with
  | nil =>
      cases secondEquation : second value with
      | nil => simp [List.filter, firstEquation, secondEquation]
      | cons violation rest => simp [List.filter, firstEquation, secondEquation]
  | cons violation rest =>
      cases secondEquation : second value with
      | nil => simp [List.filter, firstEquation, secondEquation]
      | cons violation rest => simp [List.filter, firstEquation, secondEquation]

theorem everyItem_eq_nil {schema : Schema} {items : List Json} :
    Schema.everyItem schema (.arr items) = [] ↔ ∀ item ∈ items, schema item = [] := by
  unfold Schema.everyItem
  simp only [List.flatMap_eq_nil_iff, List.map_eq_nil_iff]
  constructor
  · intro each item member
    obtain ⟨index, bound, rfl⟩ := List.mem_iff_getElem.mp member
    exact each (items[index], index) (List.mk_mem_zipIdx_iff_getElem?.mpr (by simp))
  · rintro each ⟨item, index⟩ member
    exact each item (List.fst_mem_of_mem_zipIdx member)

theorem everyMember_eq_nil {schema : Schema} {members : Members} :
    everyMember schema (.obj members) = [] ↔ ∀ entry ∈ members, schema entry.2 = [] := by
  unfold everyMember
  simp only [List.flatMap_eq_nil_iff, List.map_eq_nil_iff]

end Schema

end GigListings.Json
