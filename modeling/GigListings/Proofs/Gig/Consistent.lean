import GigListings.Gig.Batch
import GigListings.Gig.Normalizer
import GigListings.Proofs.Text.Blank
import Mathlib.Data.List.Forall2
import Mathlib.Tactic.ByContra

namespace GigListings

open Text

/-! Gigs as they are made of items. What a gig says of itself is in accord with the rest of it, and
none of its texts is blank or has blanks around it. -/

/-- A text that trimming leaves as it is, and that is not empty. -/
def IsTidy (text : String) : Prop := trimText text = text ∧ text ≠ ""

theorem isTidy_trimText {text : String} (visible : trimText text ≠ "") :
    IsTidy (trimText text) := by
  refine ⟨?_, visible⟩
  rw [trimText, trimText, String.toList_ofList, trim_trim]

namespace Gig

def optionalTexts (gig : Gig) : List (Option String) :=
  [gig.sourceId, gig.eventUrl, gig.ticketsUrl, gig.ageRestriction, gig.description]

def listedTexts (gig : Gig) : List String := gig.artists ++ gig.images ++ gig.genre

structure IsConsistent (gig : Gig) : Prop where
  id : gig.id = idOf gig.venue.name gig.title gig.dateStart gig.venue.city
  hash : gig.hash = gig.contentHash
  optional : ∀ text, some text ∈ gig.optionalTexts → IsTidy text
  listed : ∀ text ∈ gig.listedTexts, IsTidy text

end Gig

namespace Normalizer

variable {normalizer : Normalizer} {item : Item}

theorem isTidy_of_text? {mapping : Option MappingValue} {text : String}
    (found : normalizer.text? item mapping = some text) : IsTidy text := by
  simp only [text?, Option.bind_eq_bind, Option.bind_eq_some_iff] at found
  obtain ⟨_, -, _, -, said, -, found⟩ := found
  split at found
  · cases found
  · rename_i visible
    cases found
    exact isTidy_trimText visible

theorem isTidy_of_mem_texts {mapping : Option MappingValue} {text : String}
    (member : text ∈ normalizer.texts item mapping) : IsTidy text := by
  unfold texts at member
  split at member
  · obtain ⟨trimmed, visible⟩ := List.mem_filter.mp member
    obtain ⟨said, -, rfl⟩ := List.mem_map.mp trimmed
    exact isTidy_trimText (of_decide_eq_true visible)
  · cases member

theorem isConsistent_of_gig? {gig : Gig} (made : normalizer.gig? item = some gig) :
    gig.IsConsistent := by
  obtain ⟨dateStart, -, rfl⟩ := Option.map_eq_some_iff.mp made
  refine ⟨rfl, rfl, fun text member => ?_, fun text member => ?_⟩
  · simp only [Gig.optionalTexts, hashed, draft, List.mem_cons, List.not_mem_nil, or_false]
      at member
    rcases member with found | found | found | found | found <;>
      exact isTidy_of_text? found.symm
  · simp only [Gig.listedTexts, hashed, draft, List.mem_append] at member
    rcases member with (found | found) | found <;> exact isTidy_of_mem_texts found

def isDated (normalizer : Normalizer) (item : Item) : Bool :=
  (normalizer.date? item (some normalizer.config.mapping.dateStart)).isSome

theorem isSome_gig? (normalizer : Normalizer) (item : Item) :
    (normalizer.gig? item).isSome = normalizer.isDated item := Option.isSome_map

theorem gigs_forall₂ (normalizer : Normalizer) (items : List Item) :
    List.Forall₂ (fun item gig => normalizer.gig? item = some gig)
      (items.filter normalizer.isDated) (normalizer.gigs items) := by
  induction items with
  | nil => exact .nil
  | cons item items induction =>
      unfold gigs at induction ⊢
      rw [List.filter_cons, List.filterMap_cons, ← isSome_gig?]
      cases made : normalizer.gig? item with
      | none => exact induction
      | some gig => exact .cons made induction

end Normalizer

/-! What a site's rules demand of a batch: enough gigs, each of which says something at every
required path. A batch that lacks something is refused for the first of its faults. -/

namespace Json

/-- Where the names of a path lead, one after another: to members of objects and to items of
arrays. -/
inductive Leads : Json → List (List Char) → Json → Prop
  | here (value : Json) : Leads value [] value
  | member {members : Members} {name : List Char} {value target : Json} {names : List (List Char)}
      (found : members.get? (String.ofList name) = some value) (later : Leads value names target) :
      Leads (.obj members) (name :: names) target
  | item {items : List Json} {name : List Char} {index : Nat} {value target : Json}
      {names : List (List Char)} (numbered : index? name = some index)
      (found : items[index]? = some value) (later : Leads value names target) :
      Leads (.arr items) (name :: names) target

theorem foldlM_step?_eq_some_iff {value target : Json} {names : List (List Char)} :
    names.foldlM step? value = some target ↔ Leads value names target := by
  induction names generalizing value with
  | nil =>
      constructor
      · intro same
        cases same
        exact .here _
      · intro leads
        cases leads
        rfl
  | cons name names induction =>
      rw [List.foldlM_cons, Option.bind_eq_bind, Option.bind_eq_some_iff]
      constructor
      · rintro ⟨next, step, later⟩
        cases value with
        | obj members => exact .member step (induction.mp later)
        | arr items =>
            obtain ⟨index, numbered, found⟩ := Option.bind_eq_some_iff.mp step
            exact .item numbered found (induction.mp later)
        | _ => cases step
      · intro leads
        cases leads with
        | member found later => exact ⟨_, found, induction.mpr later⟩
        | item numbered found later =>
            exact ⟨_, Option.bind_eq_some_iff.mpr ⟨_, numbered, found⟩, induction.mpr later⟩

end Json

/-- A path, with points between its names, leads to something in the gig's JSON that is neither
empty, zero, false nor null. -/
def Gig.Says (gig : Gig) (path : String) : Prop :=
  ∃ value, Json.Leads gig.toJson (splitOn (· == '.') path.toList) value ∧ value.isTruthy = true

theorem Gig.any_lookup?_eq_true_iff {gig : Gig} {path : String} :
    (gig.toJson.lookup? path).any Json.isTruthy = true ↔ gig.Says path := by
  rw [Option.any_eq_true, Says]
  exact exists_congr fun value => and_congr_left' Json.foldlM_step?_eq_some_iff

namespace ValidationRules

def Enough (rules : ValidationRules) (count : Nat) : Prop :=
  ∀ least, rules.minEventsExpected = some least → least.toNat ≤ count

def Met (rules : ValidationRules) (gig : Gig) : Prop := ∀ path ∈ rules.required, gig.Says path

/-- The first gig that lacks something, and the first required path at which it says nothing. -/
structure FirstLack (rules : ValidationRules) (gigs : List Gig) (gig : Gig) (path : String) :
    Prop where
  firstGig : ∃ before after, gigs = before ++ gig :: after ∧ ∀ earlier ∈ before, rules.Met earlier
  firstPath : ∃ first last, rules.required = first ++ path :: last ∧
    ∀ other ∈ first, gig.Says other
  lacks : ¬gig.Says path

variable {rules : ValidationRules} {gig : Gig} {gigs : List Gig}

theorem missingPath?_eq_none_iff : rules.missingPath? gig = none ↔ rules.Met gig := by
  rw [missingPath?, List.find?_eq_none]
  refine forall₂_congr fun path _ => ?_
  rw [← Gig.any_lookup?_eq_true_iff, Bool.not_eq_true', Bool.not_eq_false]

theorem missingPath?_eq_some {path : String} (missing : rules.missingPath? gig = some path) :
    ¬gig.Says path ∧ ∃ first last, rules.required = first ++ path :: last ∧
      ∀ other ∈ first, gig.Says other := by
  obtain ⟨lacks, first, last, required, earlier⟩ := List.find?_eq_some_iff_append.mp missing
  rw [Bool.not_eq_true'] at lacks
  refine ⟨?_, first, last, required, fun other member => ?_⟩
  · rw [← Gig.any_lookup?_eq_true_iff, lacks]
    exact Bool.false_ne_true
  · have found := earlier other member
    rw [Bool.not_not] at found
    exact Gig.any_lookup?_eq_true_iff.mp found

theorem checkGigs_of_met (met : ∀ gig ∈ gigs, rules.Met gig) : rules.checkGigs gigs = .ok () := by
  induction gigs with
  | nil => rfl
  | cons gig gigs induction =>
      obtain ⟨first, later⟩ := List.forall_mem_cons.mp met
      rw [checkGigs, missingPath?_eq_none_iff.mpr first]
      exact induction later

theorem exists_checkGigs_of_not_met (unmet : ¬∀ gig ∈ gigs, rules.Met gig) :
    ∃ gig path, rules.FirstLack gigs gig path ∧
      rules.checkGigs gigs = .error (.missing gig.id path) := by
  induction gigs with
  | nil => exact absurd (List.forall_mem_nil _) unmet
  | cons gig gigs induction =>
      rw [checkGigs]
      cases missing : rules.missingPath? gig with
      | some path =>
          obtain ⟨lacks, inOrder⟩ := missingPath?_eq_some missing
          exact ⟨gig, path, ⟨⟨[], gigs, rfl, List.forall_mem_nil _⟩, inOrder, lacks⟩, rfl⟩
      | none =>
          have met := missingPath?_eq_none_iff.mp missing
          obtain ⟨other, path, ⟨⟨before, after, split, earlier⟩, inOrder, lacks⟩, checked⟩ :=
            induction fun all => unmet (List.forall_mem_cons.mpr ⟨met, all⟩)
          refine ⟨other, path, ⟨⟨gig :: before, after, ?_, ?_⟩, inOrder, lacks⟩, checked⟩
          · rw [split, List.cons_append]
          · exact List.forall_mem_cons.mpr ⟨met, earlier⟩

theorem check_of_enough (enough : rules.Enough gigs.length) :
    rules.check gigs = rules.checkGigs gigs := by
  unfold check
  cases demanded : rules.minEventsExpected with
  | none => rfl
  | some least => exact if_neg (Nat.not_lt.mpr (enough least demanded))

theorem exists_check_of_not_enough (few : ¬rules.Enough gigs.length) :
    ∃ least, rules.minEventsExpected = some least ∧ gigs.length < least.toNat ∧
      rules.check gigs = .error (.tooFew least.toNat gigs.length) := by
  cases demanded : rules.minEventsExpected with
  | none =>
      refine absurd (fun least some => ?_) few
      rw [demanded] at some
      cases some
  | some least =>
      have short : gigs.length < least.toNat := by
        by_contra large
        refine few fun other same => ?_
        rw [demanded] at same
        cases same
        exact Nat.not_lt.mp large
      refine ⟨least, rfl, short, ?_⟩
      rw [check, demanded]
      exact if_pos short

theorem check_eq_ok_iff :
    rules.check gigs = .ok () ↔ rules.Enough gigs.length ∧ ∀ gig ∈ gigs, rules.Met gig := by
  constructor
  · intro passed
    by_cases enough : rules.Enough gigs.length
    · refine ⟨enough, ?_⟩
      by_contra unmet
      obtain ⟨gig, path, -, checked⟩ := exists_checkGigs_of_not_met unmet
      rw [check_of_enough enough, checked] at passed
      cases passed
    · obtain ⟨least, -, -, checked⟩ := exists_check_of_not_enough enough
      rw [checked] at passed
      cases passed
  · rintro ⟨enough, met⟩
    rw [check_of_enough enough, checkGigs_of_met met]

def withMost (rules : ValidationRules) (most : Option UInt64) : ValidationRules :=
  { rules with maxEventsExpected := most }

theorem checkGigs_withMost (rules : ValidationRules) (most : Option UInt64) (gigs : List Gig) :
    (rules.withMost most).checkGigs gigs = rules.checkGigs gigs := by
  induction gigs with
  | nil => rfl
  | cons gig gigs induction =>
      rw [checkGigs, checkGigs, induction]
      rfl

theorem check_withMost (rules : ValidationRules) (most : Option UInt64) (gigs : List Gig) :
    (rules.withMost most).check gigs = rules.check gigs := by
  rw [check, check, checkGigs_withMost]
  rfl

end ValidationRules

end GigListings
