import GigListings.Proofs.Extraction.Declared
import GigListings.Proofs.Extraction.FieldOrder
import Mathlib.Data.List.Induction

namespace GigListings

/-! What the references in a field's parameters stand for when its transform is applied. If every
field comes after those that it looks up, they stand for what the item holds in the end. -/

/-- The siblings that a field looks up: those that a parameter names which may be a reference. -/
def FieldRule.lookups (field : FieldRule) (isSibling : String → Bool) : List String :=
  (field.transformParams.getD []).filterMap fun (key, value) =>
    if Params.isLiteral key then none else value.string?.filter isSibling

theorem FieldRule.mem_lookups {field : FieldRule} {isSibling : String → Bool} {key other : String}
    (member : (key, .str other) ∈ field.transformParams.getD [])
    (reference : Params.isLiteral key = false) (sibling : isSibling other = true) :
    other ∈ field.lookups isSibling := by
  refine List.mem_filterMap.mpr ⟨(key, .str other), member, ?_⟩
  simp [reference, Json.string?, sibling]

theorem FieldRule.references_of_lookups {field : FieldRule} {isSibling : String → Bool}
    {other : String} (looksUp : other ∈ field.lookups isSibling) :
    other ∈ field.references isSibling := by
  obtain ⟨⟨key, value⟩, member, found⟩ := List.mem_filterMap.mp looksUp
  dsimp only at found
  split at found
  · cases found
  · exact List.mem_filterMap.mpr ⟨(key, value), member, found⟩

namespace Args

theorem resolve_congr {field : FieldRule} {isSibling : String → Bool} {a b : Item}
    (same : ∀ other, other ∈ field.lookups isSibling ∨ isSibling other = false →
      Dict.get? a other = Dict.get? b other) :
    resolve field.transformParams a isSibling = resolve field.transformParams b isSibling := by
  refine List.map_congr_left ?_
  rintro ⟨key, value⟩ member
  have resolved : resolveValue a isSibling key value = resolveValue b isSibling key value := by
    cases value with
    | str other =>
        simp only [resolveValue]
        split
        · rfl
        · rename_i reference
          have found : Dict.get? a other = Dict.get? b other := by
            apply same
            cases sibling : isSibling other with
            | true => exact .inl (FieldRule.mem_lookups member (by simpa using reference) sibling)
            | false => exact .inr rfl
          rw [found]
    | _ => rfl
  exact congrArg (Prod.mk key) resolved

theorem mem_resolve_of_reference {params : Option Params} {isSibling : String → Bool}
    {key other : String} (member : (key, .str other) ∈ params.getD [])
    (reference : Params.isLiteral key = false) (sibling : isSibling other = true) (item : Item) :
    (key, ((Dict.get? item other).map FieldValue.toJson).getD .null) ∈
      resolve params item isSibling := by
  refine List.mem_map.mpr ⟨(key, .str other), member, ?_⟩
  simp only [resolveValue, reference, sibling, if_true]
  cases Dict.get? item other <;> rfl

theorem mem_resolve_of_literal {params : Option Params} {key : String} {value : Json}
    (member : (key, value) ∈ params.getD []) (literal : Params.isLiteral key = true) (item : Item)
    (isSibling : String → Bool) : (key, value) ∈ resolve params item isSibling := by
  refine List.mem_map.mpr ⟨(key, value), member, ?_⟩
  cases value <;> simp [resolveValue, literal]

end Args

/-- An order of all fields in which each comes after those that it looks up. -/
structure FieldRules.Serves (fields : FieldRules) (names : List String) : Prop where
  perm : names.Perm (Dict.names fields)
  before : ∀ {name field}, Dict.get? fields name = some field →
    ∀ {earlier later}, names = earlier ++ name :: later →
      ∀ other ∈ field.lookups fun sibling => Dict.contains fields sibling, other ∈ earlier

theorem FieldRules.Serves.not_mem_of_stranger {fields : FieldRules} {names : List String}
    (serves : fields.Serves names) {other : String}
    (stranger : Dict.contains fields other = false) : other ∉ names := by
  intro named
  obtain ⟨rule, found⟩ := Dict.exists_get?_of_mem_names (serves.perm.mem_iff.mp named)
  rw [Dict.contains, found] at stranger
  cases stranger

/-- No field looks up itself, or a field that depends on a cycle and comes later by its name. -/
def FieldRules.IsUntangled (fields : FieldRules) : Prop :=
  ∀ name field, (name, field) ∈ fields →
    ∀ other ∈ field.lookups fun sibling => Dict.contains fields sibling,
      other ≠ name ∧ (FieldRules.Settles fields other ∨ other < name)

/-- Fields are extracted behind those that they look up exactly if they are untangled. -/
theorem FieldRules.serves_order_iff {fields : FieldRules} (sorted : fields.Sorted) :
    fields.Serves fields.order ↔ fields.IsUntangled := by
  have distinct : fields.order.Nodup :=
    fields.order_perm.nodup_iff.mpr (Dict.nodup_of_sorted sorted)
  constructor
  · intro serves name field member other looksUp
    have known := Dict.get?_of_mem (Dict.nodup_of_sorted sorted) member
    have placed : name ∈ fields.order :=
      fields.order_perm.mem_iff.mpr (List.mem_map_of_mem (f := Prod.fst) member)
    obtain ⟨earlier, later, split⟩ := List.append_of_mem placed
    have before := serves.before known split other looksUp
    have different : other ≠ name := by
      rw [split] at distinct
      exact (List.nodup_append.mp distinct).2.2 other before name List.mem_cons_self
    exact ⟨different, (mem_earlier_iff sorted known (FieldRule.references_of_lookups looksUp)
      different split).mp before⟩
  · intro untangled
    refine ⟨fields.order_perm, ?_⟩
    intro name field known earlier later split other looksUp
    obtain ⟨different, precedes⟩ := untangled name field (Dict.mem_of_get? known) other looksUp
    exact (mem_earlier_iff sorted known (FieldRule.references_of_lookups looksUp) different
      split).mpr precedes

namespace Extractor

variable (extractor : Extractor) {fields : FieldRules} (container : Html.Place)

def itemAlong (fields : FieldRules) (start : Item) (names : List String) : Item :=
  names.foldl (extractor.extractField fields container) start

theorem itemAlong_append (start : Item) (earlier later : List String) :
    extractor.itemAlong container fields start (earlier ++ later) =
      extractor.itemAlong container fields (extractor.itemAlong container fields start earlier)
        later :=
  List.foldl_append

theorem get?_extractField_of_ne {key name : String} (different : key ≠ name) (item : Item) :
    Dict.get? (extractor.extractField fields container item name) key = Dict.get? item key := by
  rw [extractField]
  split
  · exact Dict.get?_insert_of_ne different _
  · rfl

theorem get?_extractField_self {name : String} {field : FieldRule}
    (known : Dict.get? fields name = some field) (item : Item) :
    Dict.get? (extractor.extractField fields container item name) name =
      (extractor.fieldValue? fields field container item).or (Dict.get? item name) := by
  rw [extractField, known, Option.bind_some]
  cases extractor.fieldValue? fields field container item with
  | none => rfl
  | some value =>
      dsimp only
      rw [Dict.get?_insert, if_pos rfl]
      rfl

theorem get?_itemAlong_of_not_mem {key : String} {names : List String} (unnamed : key ∉ names)
    (start : Item) :
    Dict.get? (extractor.itemAlong container fields start names) key = Dict.get? start key := by
  induction names generalizing start with
  | nil => rfl
  | cons name names induction =>
      have different : key ≠ name := fun same => unnamed (same ▸ List.mem_cons_self)
      have unnamedLater : key ∉ names := fun later => unnamed (List.mem_cons_of_mem _ later)
      exact (induction unnamedLater _).trans
        (extractor.get?_extractField_of_ne container different start)

theorem fieldValue?_congr {field : FieldRule} {a b : Item}
    (same : Args.resolve field.transformParams a (fun name => Dict.contains fields name) =
      Args.resolve field.transformParams b fun name => Dict.contains fields name) :
    extractor.fieldValue? fields field container a =
      extractor.fieldValue? fields field container b := by
  simp only [fieldValue?, same]

section Along

variable {names earlier later : List String} {name : String} {field : FieldRule}
  (sorted : fields.Sorted) (serves : fields.Serves names)
  (known : Dict.get? fields name = some field) (split : names = earlier ++ name :: later)
include sorted serves known split

theorem resolve_itemAlong (start : Item) :
    Args.resolve field.transformParams (extractor.itemAlong container fields start earlier)
        (fun name => Dict.contains fields name) =
      Args.resolve field.transformParams (extractor.itemAlong container fields start names)
        fun name => Dict.contains fields name := by
  have distinct : names.Nodup := serves.perm.nodup_iff.mpr (Dict.nodup_of_sorted sorted)
  refine Args.resolve_congr fun other either => ?_
  -- Nothing that the parameters may stand for is extracted at this turn or later.
  have notLater : other ∉ name :: later := by
    intro after
    rcases either with looksUp | stranger
    · have before := serves.before known split other looksUp
      rw [split] at distinct
      exact (List.nodup_append.mp distinct).2.2 other before other after rfl
    · apply serves.not_mem_of_stranger stranger
      rw [split]
      exact List.mem_append_right _ after
  rw [split, extractor.itemAlong_append container, get?_itemAlong_of_not_mem _ _ notLater]

theorem get?_itemAlong (start : Item) :
    Dict.get? (extractor.itemAlong container fields start names) name =
      (extractor.fieldValue? fields field container
        (extractor.itemAlong container fields start names)).or (Dict.get? start name) := by
  have resolved := extractor.resolve_itemAlong container sorted serves known split start
  have distinct : names.Nodup := serves.perm.nodup_iff.mpr (Dict.nodup_of_sorted sorted)
  rw [split] at distinct
  obtain ⟨-, distinctFrom, apart⟩ := List.nodup_append.mp distinct
  have notLater : name ∉ later := (List.nodup_cons.mp distinctFrom).1
  have notEarlier : name ∉ earlier := fun before =>
    apart name before name List.mem_cons_self rfl
  rw [← extractor.fieldValue?_congr container resolved]
  conv_lhs => rw [split, extractor.itemAlong_append container]
  have turn := extractor.get?_extractField_self container known
    (extractor.itemAlong container fields start earlier)
  rw [get?_itemAlong_of_not_mem extractor container notEarlier] at turn
  exact (extractor.get?_itemAlong_of_not_mem container notLater _).trans turn

end Along

/-! Any two orders that serve lead to the same item. -/

def AgreeAlong (fields : FieldRules) (names others : List String) (start : Item) (key : String) :
    Prop :=
  Dict.get? (extractor.itemAlong container fields start names) key =
    Dict.get? (extractor.itemAlong container fields start others) key

section Unique

variable (sorted : fields.Sorted) {names others : List String} (serves : fields.Serves names)
  (othersServe : fields.Serves others) (start : Item)
include serves othersServe

theorem mem_iff_of_serves (name : String) : name ∈ names ↔ name ∈ others :=
  serves.perm.mem_iff.trans othersServe.perm.mem_iff.symm

theorem agreeAlong_of_not_mem {key : String} (unnamed : key ∉ names) :
    extractor.AgreeAlong container fields names others start key := by
  have unnamedThere : key ∉ others :=
    fun there => unnamed ((mem_iff_of_serves serves othersServe key).mpr there)
  rw [AgreeAlong, get?_itemAlong_of_not_mem _ _ unnamed, get?_itemAlong_of_not_mem _ _ unnamedThere]

include sorted

theorem agreeAlong_of_earlier {earlier later : List String} {name : String}
    (split : names = earlier ++ name :: later)
    (agree : ∀ other ∈ earlier, extractor.AgreeAlong container fields names others start other) :
    extractor.AgreeAlong container fields names others start name := by
  have named : name ∈ names := by
    rw [split]
    exact List.mem_append_right _ List.mem_cons_self
  obtain ⟨field, known⟩ := Dict.exists_get?_of_mem_names (serves.perm.mem_iff.mp named)
  obtain ⟨before, after, there⟩ :=
    List.append_of_mem ((mem_iff_of_serves serves othersServe name).mp named)
  rw [AgreeAlong, extractor.get?_itemAlong container sorted serves known split,
    extractor.get?_itemAlong container sorted othersServe known there]
  congr 1
  apply extractor.fieldValue?_congr
  refine Args.resolve_congr fun other either => ?_
  rcases either with looksUp | stranger
  · exact agree other (serves.before known split other looksUp)
  · exact extractor.agreeAlong_of_not_mem container serves othersServe start
      (serves.not_mem_of_stranger stranger)

theorem get?_itemAlong_unique (key : String) :
    extractor.AgreeAlong container fields names others start key := by
  -- The values agree one after another along the first order.
  have agree : ∀ earlier later, names = earlier ++ later → ∀ name ∈ earlier,
      extractor.AgreeAlong container fields names others start name := by
    intro earlier
    induction earlier using List.reverseRecOn with
    | nil =>
        intro later split name member
        cases member
    | append_singleton earlier last induction =>
        intro later split name member
        rw [List.append_assoc] at split
        rcases List.mem_append.mp member with before | isLast
        · exact induction _ split name before
        · obtain rfl := List.mem_singleton.mp isLast
          exact extractor.agreeAlong_of_earlier container sorted serves othersServe start split
            (induction _ split)
  by_cases named : key ∈ names
  · exact agree names [] (List.append_nil names).symm key named
  · exact extractor.agreeAlong_of_not_mem container serves othersServe start named

end Unique

/-- What a field that is extracted after `earlier` is given: its parameters stand for the final
values of the siblings that it looks up, for null where one stays without a value, and literals
for themselves. -/
structure SeesFinal (fields : FieldRules) (start : Item) (earlier : List String) (name : String)
    (field : FieldRule) : Prop where
  args : Args.resolve field.transformParams
      (extractor.itemAlong container fields start earlier)
      (fun sibling => Dict.contains fields sibling) =
    Args.resolve field.transformParams (extractor.itemInto fields container start)
      fun sibling => Dict.contains fields sibling
  references : ∀ key other, (key, .str other) ∈ field.transformParams.getD [] →
    Params.isLiteral key = false → Dict.contains fields other = true →
    (key, ((Dict.get? (extractor.itemInto fields container start) other).map
        FieldValue.toJson).getD .null) ∈
      Args.resolve field.transformParams (extractor.itemAlong container fields start earlier)
        fun sibling => Dict.contains fields sibling
  literals : ∀ key value, (key, value) ∈ field.transformParams.getD [] →
    Params.isLiteral key = true →
    (key, value) ∈
      Args.resolve field.transformParams (extractor.itemAlong container fields start earlier)
        fun sibling => Dict.contains fields sibling
  value : Dict.get? (extractor.itemInto fields container start) name =
    (extractor.fieldValue? fields field container
      (extractor.itemInto fields container start)).or (Dict.get? start name)

theorem seesFinal (sorted : fields.Sorted) (serves : fields.Serves fields.order) (start : Item)
    {earlier later : List String} {name : String} {field : FieldRule}
    (known : Dict.get? fields name = some field) (split : fields.order = earlier ++ name :: later) :
    extractor.SeesFinal container fields start earlier name field := by
  have args := extractor.resolve_itemAlong container sorted serves known split start
  refine ⟨args, ?_, ?_, extractor.get?_itemAlong container sorted serves known split start⟩
  · intro key other member reference sibling
    rw [args]
    exact Args.mem_resolve_of_reference member reference sibling _
  · intro key value member literal
    exact Args.mem_resolve_of_literal member literal _ _

/-- Every field is extracted once. All of them come after those that they look up exactly if they
are untangled; each is then given what its parameters stand for in the end, and any other order
that puts the fields behind those that they look up leads to the same item. -/
theorem itemInto_seesFinal (sorted : fields.Sorted) (start : Item) :
    fields.order.Perm (Dict.names fields) ∧
      (fields.Serves fields.order ↔ fields.IsUntangled) ∧
      (fields.IsUntangled →
        (∀ name field, (name, field) ∈ fields →
          ∀ earlier later, fields.order = earlier ++ name :: later →
            extractor.SeesFinal container fields start earlier name field) ∧
        ∀ names, fields.Serves names → ∀ key,
          Dict.get? (extractor.itemAlong container fields start names) key =
            Dict.get? (extractor.itemInto fields container start) key) := by
  refine ⟨fields.order_perm, FieldRules.serves_order_iff sorted, fun untangled => ⟨?_, ?_⟩⟩
  · intro name field member earlier later split
    exact extractor.seesFinal container sorted
      ((FieldRules.serves_order_iff sorted).mpr untangled) start
      (Dict.get?_of_mem (Dict.nodup_of_sorted sorted) member) split
  · intro names serves key
    exact extractor.get?_itemAlong_unique container sorted serves
      ((FieldRules.serves_order_iff sorted).mpr untangled) start key

/-! A listing whose events carry their date and time as attributes. -/

def attributeEvent (date time : String) : Html.Place where
  element := ⟨0, ⟨.html, "li"⟩, [⟨.plain, "data-date", date⟩, ⟨.plain, "data-time", time⟩], []⟩
  before := []
  after := []
  around := []
  attached := true

def attributeField (attr transform : String) (params : Params) : FieldRule :=
  { FieldRule.plain with part := attr, transform := some transform, transformParams := some params }

def listingExtractor : Extractor where
  transforms := .builtin
  context := ⟨"https://venue.example", ⟨⟨2025, 8, 1, by decide⟩, none⟩, .builtin⟩

/-- The date looks up the time, which comes later by its name. -/
def timedFields : FieldRules :=
  [("date", attributeField "data-date" "parse-date"
      [("format", .str "compact"), ("time", .str "time")]),
    ("time", attributeField "data-time" "parse-time" [])]

/-- The date is given the time that the event ends with. -/
theorem itemInto_seesFinal_timedFields :
    timedFields.IsUntangled ∧ timedFields.order = ["time"] ++ "date" :: [] ∧
      listingExtractor.SeesFinal (attributeEvent "Wed.13.Aug.25" "Doors 19:30") timedFields []
        ["time"] "date" (attributeField "data-date" "parse-date"
          [("format", .str "compact"), ("time", .str "time")]) := by
  have sorted : timedFields.Sorted :=
    List.pairwise_pair.mpr (show "date" < "time" by decide +kernel)
  have settles : FieldRules.Settles timedFields "time" := by
    refine @FieldRules.Settles.after timedFields "time"
      (attributeField "data-time" "parse-time" []) rfl ?_
    intro other refers
    cases refers
  have untangled : timedFields.IsUntangled := by
    intro name field member other looksUp
    rcases List.mem_pair.mp member with isDate | isTime
    · cases isDate
      have looked : other ∈ ["time"] := looksUp
      rw [List.mem_singleton.mp looked]
      exact ⟨by decide, .inl settles⟩
    · cases isTime
      cases looksUp
  have order : timedFields.order = ["time"] ++ "date" :: [] := by decide +kernel
  obtain ⟨-, -, sees⟩ := @itemInto_seesFinal listingExtractor timedFields
    (attributeEvent "Wed.13.Aug.25" "Doors 19:30") sorted []
  exact ⟨untangled, order,
    (sees untangled).1 "date" _ List.mem_cons_self ["time"] [] order⟩

/-- Each of the two names the other, but only one of them as a reference. -/
def tangledFields : FieldRules :=
  [("iso", attributeField "data-time" "date-time" [("date", .str "start")]),
    ("start", attributeField "data-date" "parse-date" [("format", .str "iso")])]

/-- A field named like the literal of another one is extracted before it, and finds nothing. -/
theorem itemInto_tangledFields :
    let isSibling := fun name => Dict.contains tangledFields name
    let event := attributeEvent "2025-08-13" "19:30"
    let final := listingExtractor.itemInto tangledFields event []
    (tangledFields.map fun entry => entry.2.lookups isSibling) = [["start"], []] ∧
      tangledFields.order = ["iso", "start"] ∧
      Dict.get? final "start" = some (.single "2025-08-13T12:00:00.000Z") ∧
      Dict.get? final "iso" = none ∧
      listingExtractor.fieldValue? tangledFields
        (attributeField "data-time" "date-time" [("date", .str "start")]) event final =
          some (.single "2025-08-13T19:30:00.000Z") := by
  decide +kernel

end Extractor

end GigListings
