import GigListings.Gig.Batch
import GigListings.Gig.Normalizer
import GigListings.Proofs.Json.Records

namespace GigListings

open Json

/-! Gigs that are made at another time differ in the time of their update only, and pass the same
checks. -/

theorem Instant.iso_ne_empty (instant : Instant) : instant.iso ≠ "" := by
  intro empty
  have chars : instant.isoChars = [] := String.ofList_injective empty
  exact List.append_ne_nil_of_right_ne_nil _ (List.cons_ne_nil 'Z' []) chars

def Gig.updated (gig : Gig) (moment : Instant) : Gig := { gig with updatedAt := moment.iso }

namespace Json

theorem any_isTruthy_foldlM (members : Members) (key : String) {text other : String}
    (filled : text ≠ "") (otherFilled : other ≠ "") (names : List (List Char)) :
    (names.foldlM step? (.obj (members ++ [(key, .str text)]))).any isTruthy =
      (names.foldlM step? (.obj (members ++ [(key, .str other)]))).any isTruthy := by
  cases names with
  | nil => rfl
  | cons name names =>
      have step (said : Json) : step? (.obj (members ++ [(key, said)])) name =
          (members.get? (String.ofList name)).or
            (Members.get? [(key, said)] (String.ofList name)) :=
        List.lookup_append
      rw [List.foldlM_cons, List.foldlM_cons, step, step]
      cases members.get? (String.ofList name) with
      | some value => rfl
      | none =>
          by_cases same : String.ofList name = key
          · have found (said : Json) : Members.get? [(key, said)] (String.ofList name) = said := by
              rw [same]
              exact List.lookup_cons_self
            rw [Option.none_or, Option.none_or, found, found]
            cases names with
            | nil => simp [isTruthy, filled, otherFilled]
            | cons name names => rfl
          · have absent (said : Json) : Members.get? [(key, said)] (String.ofList name) = none := by
              rw [Members.get?, List.lookup_cons, beq_eq_false_iff_ne.mpr same]
              rfl
            rw [absent, absent]

end Json

theorem Gig.toJson_eq (gig : Gig) :
    gig.toJson = .obj
      (written (gig.contentMembers ++ [("hash", some (.str gig.hash))]) ++
        [("updatedAt", .str gig.updatedAt)]) := by
  rw [toJson, record_eq_obj, written_append, written_append, List.append_assoc]
  rfl

namespace ValidationRules

variable (rules : ValidationRules)

theorem missingPath?_updated {gig : Gig} (dated : gig.updatedAt ≠ "") (moment : Instant) :
    rules.missingPath? (gig.updated moment) = rules.missingPath? gig := by
  unfold missingPath?
  congr 1
  funext path
  rw [Gig.toJson_eq, Gig.toJson_eq gig]
  exact congrArg _ (any_isTruthy_foldlM _ "updatedAt" moment.iso_ne_empty dated _)

theorem checkGigs_updated {gigs : List Gig} (dated : ∀ gig ∈ gigs, gig.updatedAt ≠ "")
    (moment : Instant) :
    rules.checkGigs (gigs.map (·.updated moment)) = rules.checkGigs gigs := by
  induction gigs with
  | nil => rfl
  | cons gig gigs induction =>
      rw [List.map_cons, checkGigs, checkGigs,
        rules.missingPath?_updated (dated gig List.mem_cons_self),
        induction fun other member => dated other (List.mem_cons_of_mem _ member)]
      rfl

theorem check_updated {gigs : List Gig} (dated : ∀ gig ∈ gigs, gig.updatedAt ≠ "")
    (moment : Instant) : rules.check (gigs.map (·.updated moment)) = rules.check gigs := by
  rw [check, check, rules.checkGigs_updated dated, List.length_map]

end ValidationRules

namespace Normalizer

def atMoment (normalizer : Normalizer) (moment : Instant) : Normalizer :=
  { normalizer with now := moment }

theorem gig?_atMoment (normalizer : Normalizer) (moment : Instant) (item : Item) :
    (normalizer.atMoment moment).gig? item =
      (normalizer.gig? item).map (·.updated moment) := by
  unfold gig?
  rw [Option.map_map]
  rfl

theorem gigs_atMoment (normalizer : Normalizer) (moment : Instant) (items : List Item) :
    (normalizer.atMoment moment).gigs items =
      (normalizer.gigs items).map (·.updated moment) := by
  unfold gigs
  rw [List.map_filterMap]
  congr 1
  funext item
  exact normalizer.gig?_atMoment moment item

/-- A gig is the hashed draft of an item that has a start. -/
theorem exists_draft_of_mem_gigs {normalizer : Normalizer} {items : List Item} {gig : Gig}
    (member : gig ∈ normalizer.gigs items) :
    ∃ item ∈ items, ∃ dateStart,
      normalizer.date? item (some normalizer.config.mapping.dateStart) = some dateStart ∧
        gig = hashed (normalizer.draft item dateStart) := by
  obtain ⟨item, among, made⟩ := List.mem_filterMap.mp member
  obtain ⟨dateStart, dated, rfl⟩ := Option.map_eq_some_iff.mp made
  exact ⟨item, among, dateStart, dated, rfl⟩

theorem updatedAt_of_mem_gigs {normalizer : Normalizer} {items : List Item} {gig : Gig}
    (member : gig ∈ normalizer.gigs items) : gig.updatedAt = normalizer.now.iso := by
  obtain ⟨item, -, dateStart, -, rfl⟩ := exists_draft_of_mem_gigs member
  rfl

end Normalizer

end GigListings
