import GigListings.Proofs.Gig.DateStart
import Mathlib.Data.List.TakeWhile

namespace GigListings

/-! A mapping seen as one text and as a list of texts. The one is the first of the others, unless
a blank text stands in front of visible ones. -/

theorem trimText_eq_empty_iff {text : String} :
    trimText text = "" ↔ isBlankText text = true := by
  obtain ⟨lead, tail, leadBlank, tailBlank, whole⟩ := Text.exists_trim text.toList
  rw [trimText, ← String.toList_inj, String.toList_ofList, isBlankText, List.all_eq_true]
  constructor
  · intro empty
    have nothing : Text.trim text.toList = [] := empty
    rw [nothing, List.append_nil] at whole
    intro c member
    rw [whole] at member
    rcases List.mem_append.mp member with inLead | inTail
    · exact leadBlank c inLead
    · exact tailBlank c inTail
  · intro blank
    rw [Text.trim, Text.trimStart, List.dropWhile_eq_nil_iff.mpr blank]
    rfl

namespace FieldValue

/-- The first text without the blanks around it, unless it is blank. -/
def firstVisible? (value : FieldValue) : Option String :=
  (value.first?.map trimText).filter (· ≠ "")

def visibleTexts (value : FieldValue) : List String :=
  (value.toList.map trimText).filter (· ≠ "")

/-- A value whose first text is blank only if all are. -/
def LeadsVisibly (value : FieldValue) : Prop :=
  ∀ first, value.first? = some first → isBlankText first = true → value.isEmpty = true

theorem first?_eq_head? (value : FieldValue) : value.first? = value.toList.head? := by
  cases value with
  | single text => rfl
  | many texts => rfl

theorem isEmpty_iff {value : FieldValue} :
    value.isEmpty = true ↔ ∀ text ∈ value.toList, isBlankText text = true := by
  cases value with
  | single text => simp [isEmpty, toList]
  | many texts => exact List.all_eq_true

theorem visibleTexts_eq_nil_iff {value : FieldValue} :
    value.visibleTexts = [] ↔ value.isEmpty = true := by
  rw [visibleTexts, List.filter_eq_nil_iff, List.forall_mem_map, isEmpty_iff]
  simp only [decide_eq_true_eq, ne_eq, not_not, trimText_eq_empty_iff]

theorem firstVisible?_eq_none_iff {value : FieldValue} :
    value.firstVisible? = none ↔ ∀ first, value.first? = some first → isBlankText first = true := by
  rw [firstVisible?, Option.filter_eq_none_iff]
  simp only [Option.map_eq_some_iff, forall_exists_index, and_imp, forall_apply_eq_imp_iff₂,
    decide_eq_true_eq, ne_eq, not_not, trimText_eq_empty_iff]

theorem head?_visibleTexts {value : FieldValue} {text : String}
    (found : value.firstVisible? = some text) : value.visibleTexts.head? = some text := by
  obtain ⟨first, visible⟩ := Option.filter_eq_some_iff.mp found
  obtain ⟨raw, isFirst, rfl⟩ := Option.map_eq_some_iff.mp first
  rw [first?_eq_head?] at isFirst
  obtain ⟨others, texts⟩ := List.head?_eq_some_iff.mp isFirst
  rw [visibleTexts, texts, List.map_cons, List.filter_cons, if_pos visible, List.head?_cons]

theorem none_iff_nil_iff {value : FieldValue} :
    (value.firstVisible? = none ↔ value.visibleTexts = []) ↔ value.LeadsVisibly := by
  rw [firstVisible?_eq_none_iff, visibleTexts_eq_nil_iff]
  constructor
  · intro together first isFirst blank
    apply together.mp
    intro other isOther
    obtain rfl := Option.some.inj (isFirst.symm.trans isOther)
    exact blank
  · intro leads
    constructor
    · intro blank
      cases isFirst : value.first? with
      | some first => exact leads first isFirst (blank first isFirst)
      | none =>
          rw [first?_eq_head?, List.head?_eq_none_iff] at isFirst
          rw [isEmpty_iff, isFirst]
          exact List.forall_mem_nil _
    · intro empty first isFirst
      rw [first?_eq_head?] at isFirst
      exact isEmpty_iff.mp empty first (List.mem_of_head? isFirst)

theorem firstVisible?_eq_head?_iff {value : FieldValue} :
    value.firstVisible? = value.visibleTexts.head? ↔ value.LeadsVisibly := by
  rw [← none_iff_nil_iff]
  cases found : value.firstVisible? with
  | some text =>
      have head := head?_visibleTexts found
      obtain ⟨others, texts⟩ := List.head?_eq_some_iff.mp head
      simp [texts]
  | none =>
      rw [eq_comm, List.head?_eq_none_iff]
      simp

end FieldValue

namespace Normalizer

variable (normalizer : Normalizer) (item : Item) (mapping : Option MappingValue)

theorem text?_eq :
    normalizer.text? item mapping =
      (mapping.bind (normalizer.resolve? item)).bind FieldValue.firstVisible? := by
  unfold text?
  cases mapping with
  | none => rfl
  | some mapping =>
      simp only [bind, Option.bind_some]
      cases normalizer.resolve? item mapping with
      | none => rfl
      | some value =>
          simp only [Option.bind_some, FieldValue.firstVisible?]
          cases value.first? with
          | none => rfl
          | some text =>
              rw [Option.map_some, Option.filter_some]
              by_cases blank : trimText text = ""
              · simp [blank]
              · simp [blank]

theorem texts_eq :
    normalizer.texts item mapping =
      ((mapping.bind (normalizer.resolve? item)).map FieldValue.visibleTexts).getD [] := by
  rw [texts]
  cases mapping.bind (normalizer.resolve? item) with
  | none => rfl
  | some value => rfl

/-- What a mapping stands for is led by a visible text, or blank altogether. -/
def LeadsVisibly : Prop :=
  ∀ value, mapping.bind (normalizer.resolve? item) = some value → value.LeadsVisibly

/-- The one text of a mapping is the first of its texts, and there is one if there are texts,
exactly if no blank text stands in front. It is never another one than the first. -/
theorem text?_eq_head?_texts_iff :
    (normalizer.text? item mapping = (normalizer.texts item mapping).head? ↔
      normalizer.LeadsVisibly item mapping) ∧
    ((normalizer.text? item mapping = none ↔ normalizer.texts item mapping = []) ↔
      normalizer.LeadsVisibly item mapping) ∧
    ∀ text, normalizer.text? item mapping = some text →
      (normalizer.texts item mapping).head? = some text := by
  unfold LeadsVisibly
  rw [text?_eq, texts_eq]
  cases mapping.bind (normalizer.resolve? item) with
  | none => simp
  | some value =>
      simp only [Option.bind_some, Option.map_some, Option.getD_some, Option.some.injEq,
        forall_eq']
      exact ⟨FieldValue.firstVisible?_eq_head?_iff, FieldValue.none_iff_nil_iff,
        fun text => FieldValue.head?_visibleTexts⟩

/-! Names of which the support's are left out. -/

def headliners : MappingValue :=
  .transformed ⟨"names", "regex", some [("pattern", .str "^Support: .*")]⟩

/-- The support's name, which comes first, leaves a blank text behind. -/
theorem text?_headliners :
    let item : Item := [("names", .many ["Support: Gurriers", "Idles"])]
    let normalizer := ofDates ⟨default, none⟩
    normalizer.text? item (some headliners) = none ∧
      normalizer.texts item (some headliners) = ["Idles"] := by
  decide +kernel

end Normalizer

end GigListings
