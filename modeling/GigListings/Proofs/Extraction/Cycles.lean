import GigListings.Proofs.Extraction.FieldOrder
import Mathlib.Data.Fintype.Order
import Mathlib.Logic.Relation

namespace GigListings.FieldRules

open Relation

/-! Fields that refer to each other in a circle. What the order makes of a reference depends on
whether the field that is named leads on to such a circle. -/

variable {fields : FieldRules} {name other : String}

def RefersTo (fields : FieldRules) (name other : String) : Prop :=
  other ≠ name ∧ ∃ field, Dict.get? fields name = some field ∧
    other ∈ field.references fun sibling => Dict.contains fields sibling

def IsOnCycle (fields : FieldRules) (name : String) : Prop :=
  TransGen fields.RefersTo name name

def LeadsToCycle (fields : FieldRules) (name : String) : Prop :=
  ∃ other, ReflTransGen fields.RefersTo name other ∧ fields.IsOnCycle other

def ShareCycle (fields : FieldRules) (name other : String) : Prop :=
  ReflTransGen fields.RefersTo name other ∧ ReflTransGen fields.RefersTo other name

theorem RefersTo.contains (refers : fields.RefersTo name other) :
    Dict.contains fields other = true := by
  obtain ⟨-, field, -, named⟩ := refers
  exact FieldRule.isSibling_of_mem_references named

theorem LeadsToCycle.of_refersTo (refers : fields.RefersTo name other)
    (leads : fields.LeadsToCycle other) : fields.LeadsToCycle name := by
  obtain ⟨last, reached, circle⟩ := leads
  exact ⟨last, .head refers reached, circle⟩

theorem ShareCycle.leadsToCycle (different : other ≠ name)
    (share : fields.ShareCycle name other) : fields.LeadsToCycle other := by
  obtain ⟨there, back⟩ := share
  rcases reflTransGen_iff_eq_or_transGen.mp back with same | steps
  · exact absurd same.symm different
  · exact ⟨other, .refl, steps.trans_left there⟩

/-! A field settles exactly if it leads to no cycle. -/

/-- A cycle settles at no field, as each would have to settle after the next. -/
theorem Settles.not_isOnCycle (settles : Settles fields name) : ¬fields.IsOnCycle name := by
  induction settles with
  | @after name field known first induction =>
      intro circle
      obtain ⟨next, refers, back⟩ := TransGen.head'_iff.mp circle
      have onCycle : fields.IsOnCycle next := TransGen.tail' back refers
      obtain ⟨different, rule, found, named⟩ := refers
      rw [known] at found
      cases found
      exact induction next named different onCycle

theorem Settles.of_refersTo (settles : Settles fields name) (refers : fields.RefersTo name other) :
    Settles fields other := by
  obtain ⟨different, rule, found, named⟩ := refers
  cases settles with
  | @after _ field known first =>
      rw [known] at found
      cases found
      exact first other named different

theorem Settles.not_leadsToCycle (settles : Settles fields name) : ¬fields.LeadsToCycle name := by
  rintro ⟨last, reached, circle⟩
  induction reached using ReflTransGen.head_induction_on with
  | refl => exact settles.not_isOnCycle circle
  | head refers _ induction => exact induction (settles.of_refersTo refers)

/-- The fields that lead to no cycle. There are finitely many, so that references among them
cannot go on for ever. -/
def FreeField (fields : FieldRules) : Type :=
  { name : String // name ∈ Dict.names fields ∧ ¬fields.LeadsToCycle name }

instance : Finite fields.FreeField :=
  Set.Finite.subset (List.finite_toSet (Dict.names fields)) fun _ member => member.1

theorem wellFounded_refersTo :
    WellFounded fun after before : fields.FreeField => fields.RefersTo before.1 after.1 := by
  have irreflexive : Std.Irrefl
      (TransGen fun after before : fields.FreeField => fields.RefersTo before.1 after.1) := by
    constructor
    intro entry circle
    apply entry.2.2
    refine ⟨entry.1, .refl, ?_⟩
    exact TransGen.lift Subtype.val (fun _ _ refers => refers) _ _ (transGen_swap.mp circle)
  apply Subrelation.wf (r := TransGen _) (fun refers => TransGen.single refers)
  exact Finite.wellFounded_of_trans_of_irrefl _

theorem settles_of_not_leadsToCycle (named : name ∈ Dict.names fields)
    (free : ¬fields.LeadsToCycle name) : Settles fields name := by
  apply wellFounded_refersTo.induction (C := fun entry => Settles fields entry.1)
    ⟨name, named, free⟩
  intro entry induction
  obtain ⟨field, known⟩ := Dict.exists_get?_of_mem_names entry.2.1
  apply Settles.after known
  intro next refers different
  have step : fields.RefersTo entry.1 next := ⟨different, field, known, refers⟩
  have listed := Dict.contains_iff_mem_names.mp step.contains
  exact induction ⟨next, listed, fun leads => entry.2.2 (leads.of_refersTo step)⟩ step

theorem settles_iff (named : name ∈ Dict.names fields) :
    Settles fields name ↔ ¬fields.LeadsToCycle name :=
  ⟨Settles.not_leadsToCycle, settles_of_not_leadsToCycle named⟩

/-! The order. -/

def Precedes (fields : FieldRules) (other name : String) : Prop :=
  ∃ earlier later, fields.order = earlier ++ name :: later ∧ other ∈ earlier

theorem precedes_iff_of_refersTo (sorted : fields.Sorted) (refers : fields.RefersTo name other) :
    fields.Precedes other name ↔ (fields.LeadsToCycle other → other < name) := by
  have contained := refers.contains
  obtain ⟨different, field, known, named⟩ := refers
  have listed := Dict.contains_iff_mem_names.mp contained
  have earlier_iff : ∀ earlier later, fields.order = earlier ++ name :: later →
      (other ∈ earlier ↔ (fields.LeadsToCycle other → other < name)) := by
    intro earlier later split
    rw [mem_earlier_iff sorted known named different split, settles_iff listed, imp_iff_not_or]
  constructor
  · rintro ⟨earlier, later, split, before⟩
    exact (earlier_iff earlier later split).mp before
  · intro ahead
    have placed : name ∈ fields.order :=
      fields.order_perm.mem_iff.mpr
        (List.mem_map_of_mem (f := Prod.fst) (Dict.mem_of_get? known))
    obtain ⟨earlier, later, split⟩ := List.append_of_mem placed
    exact ⟨earlier, later, split, (earlier_iff earlier later split).mpr ahead⟩

/-- A field comes after one that its parameters name, unless this one leads to a cycle and has
the greater name. The names alone decide if the two are on one cycle. -/
theorem precedes_iff (sorted : fields.Sorted) (refers : fields.RefersTo name other) :
    (¬fields.ShareCycle name other →
      (fields.Precedes other name ↔ (fields.LeadsToCycle other → other < name))) ∧
    (fields.ShareCycle name other → (fields.Precedes other name ↔ other < name)) := by
  have order := precedes_iff_of_refersTo sorted refers
  refine ⟨fun _ => order, fun share => order.trans ?_⟩
  exact imp_iff_right (share.leadsToCycle refers.1)

/-! Two fields that name each other, and two more that name one of them. -/

def datedBy (field : String) : FieldRule :=
  { FieldRule.plain with transformParams := some [("date", .str field)] }

def circledFields : FieldRules :=
  [("doors", datedBy "start"), ("end", datedBy "start"), ("start", datedBy "end"),
    ("until", datedBy "start")]

theorem sorted_circledFields : circledFields.Sorted := by
  unfold Dict.Sorted
  decide +kernel

theorem refersTo_circledFields (refers : circledFields.RefersTo name other) :
    other ∈ ["start", "end"] := by
  have only : ∀ entry ∈ circledFields,
      ∀ other ∈ entry.2.references fun sibling => Dict.contains circledFields sibling,
        other ∈ ["start", "end"] := by decide
  obtain ⟨-, field, known, named⟩ := refers
  exact only _ (Dict.mem_of_get? known) other named

theorem not_shareCycle_circledFields (different : other ≠ name)
    (unnamed : name ∉ ["start", "end"]) :
    ¬circledFields.ShareCycle name other := by
  rintro ⟨-, back⟩
  rcases ReflTransGen.cases_tail back with same | ⟨last, -, refers⟩
  · exact different same.symm
  · exact unnamed (refersTo_circledFields refers)

theorem leadsToCycle_circledFields : circledFields.LeadsToCycle "start" := by
  have there : circledFields.RefersTo "start" "end" :=
    ⟨by decide, datedBy "end", rfl, List.mem_singleton.mpr rfl⟩
  have back : circledFields.RefersTo "end" "start" :=
    ⟨by decide, datedBy "start", rfl, List.mem_singleton.mpr rfl⟩
  exact ⟨"start", .refl, .head there (.single back)⟩

/-- A field behind a circle that it is not part of. -/
theorem precedes_iff_until :
    circledFields.Sorted ∧ circledFields.RefersTo "until" "start" ∧
      ¬circledFields.ShareCycle "until" "start" ∧ circledFields.LeadsToCycle "start" ∧
      circledFields.Precedes "start" "until" := by
  have refers : circledFields.RefersTo "until" "start" :=
    ⟨by decide, datedBy "start", rfl, List.mem_singleton.mpr rfl⟩
  have apart := not_shareCycle_circledFields refers.1 (by decide)
  have order := (precedes_iff sorted_circledFields refers).1 apart
  exact ⟨sorted_circledFields, refers, apart, leadsToCycle_circledFields,
    order.mpr fun _ => by decide +kernel⟩

/-- A field that is extracted before the one that it names, though the two share no cycle. -/
theorem not_precedes_doors :
    circledFields.RefersTo "doors" "start" ∧ ¬circledFields.ShareCycle "doors" "start" ∧
      circledFields.order = ["doors", "end", "start", "until"] ∧
      ¬circledFields.Precedes "start" "doors" := by
  have refers : circledFields.RefersTo "doors" "start" :=
    ⟨by decide, datedBy "start", rfl, List.mem_singleton.mpr rfl⟩
  have order : circledFields.order = ["doors", "end", "start", "until"] := by decide +kernel
  refine ⟨refers, not_shareCycle_circledFields refers.1 (by decide), order, ?_⟩
  intro precedes
  have less := (precedes_iff_of_refersTo sorted_circledFields refers).mp precedes
    leadsToCycle_circledFields
  exact absurd less (by decide +kernel)

end GigListings.FieldRules
