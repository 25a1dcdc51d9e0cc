import GigListings.Config.FieldOrder
import GigListings.Proofs.Dict

namespace GigListings

/-! Where fields stand in the order of their extraction. A field comes after one that its
parameters name, unless the names lead on to a cycle; then the names of the two decide. -/

theorem FieldRule.isSibling_of_mem_references {field : FieldRule} {isSibling : String → Bool}
    {other : String} (refers : other ∈ field.references isSibling) : isSibling other = true := by
  obtain ⟨⟨name, value⟩, -, found⟩ := List.mem_filterMap.mp refers
  exact (Option.filter_eq_some_iff.mp found).2

namespace FieldRules

/-- A field from which the names in parameters lead, field by field, to no cycle. That a field
names itself does not count. -/
inductive Settles (fields : FieldRules) : String → Prop where
  | after {name : String} {field : FieldRule} (known : Dict.get? fields name = some field)
      (first : ∀ other ∈ field.references fun sibling => Dict.contains fields sibling,
        other ≠ name → Settles fields other) :
      Settles fields name

theorem isReady_iff {fields : FieldRules} {placed : List String} {entry : String × FieldRule} :
    fields.isReady placed entry = true ↔
      ∀ other ∈ entry.2.references fun sibling => Dict.contains fields sibling,
        other ≠ entry.1 → other ∈ placed := by
  simp only [isReady, List.all_eq_true, Bool.or_eq_true, beq_iff_eq, List.contains_iff_mem]
  constructor
  · intro ready other refers different
    exact (ready other refers).resolve_left different
  · intro ready other refers
    by_cases same : other = entry.1
    · exact .inl same
    · exact .inr (ready other refers same)

theorem ready_append_waiting_perm (fields : FieldRules) (placed : List String)
    (remaining : FieldRules) :
    (Dict.names (fields.ready placed remaining) ++
      Dict.names (fields.waiting placed remaining)).Perm (Dict.names remaining) := by
  have split := (List.filter_append_perm (fields.isReady placed) remaining).map Prod.fst
  rwa [List.map_append] at split

theorem orderAfter_perm (fields : FieldRules) (placed : List String) (remaining : FieldRules) :
    (fields.orderAfter placed remaining).Perm (Dict.names remaining) := by
  fun_induction orderAfter fields placed remaining with
  | case1 => exact .refl _
  | case2 placed remaining _ names induction =>
      exact (induction.append_left _).trans (ready_append_waiting_perm fields placed remaining)

theorem order_perm (fields : FieldRules) : fields.order.Perm (Dict.names fields) :=
  fields.orderAfter_perm [] fields

/-- What is known between two rounds: the fields that are left keep their order, and those that
have been placed depend on no cycle. -/
structure Round (fields : FieldRules) (placed : List String) (remaining : FieldRules) :
    Prop where
  sorted : remaining.Sorted
  known : ∀ entry ∈ remaining, Dict.get? fields entry.1 = some entry.2
  covers : ∀ name, Dict.contains fields name = true → name ∈ placed ∨ name ∈ Dict.names remaining
  settled : ∀ name ∈ placed, Settles fields name

namespace Round

variable {fields : FieldRules} {placed : List String} {remaining : FieldRules}

theorem start (sorted : fields.Sorted) : Round fields [] fields where
  sorted := sorted
  known entry member := Dict.get?_of_mem (Dict.nodup_of_sorted sorted) member
  covers name contained := .inr (Dict.contains_iff_mem_names.mp contained)
  settled name placed := by cases placed

theorem settles_of_isReady (round : Round fields placed remaining) {entry : String × FieldRule}
    (member : entry ∈ remaining) (ready : fields.isReady placed entry = true) :
    Settles fields entry.1 :=
  .after (round.known entry member) fun other refers different =>
    round.settled other (isReady_iff.mp ready other refers different)

theorem next (round : Round fields placed remaining) :
    Round fields (placed ++ Dict.names (fields.ready placed remaining))
      (fields.waiting placed remaining) where
  sorted := round.sorted.sublist List.filter_sublist
  known entry member := round.known entry (List.mem_filter.mp member).1
  covers name contained := by
    rcases round.covers name contained with early | left
    · exact .inl (List.mem_append_left _ early)
    · obtain ⟨entry, member, rfl⟩ := List.mem_map.mp left
      cases ready : fields.isReady placed entry with
      | true =>
          refine .inl (List.mem_append_right _ (List.mem_map_of_mem (f := Prod.fst) ?_))
          exact List.mem_filter.mpr ⟨member, ready⟩
      | false =>
          refine .inr (List.mem_map_of_mem (f := Prod.fst) ?_)
          exact List.mem_filter.mpr ⟨member, by rw [ready]; rfl⟩
  settled name isPlaced := by
    rcases List.mem_append.mp isPlaced with early | now
    · exact round.settled name early
    · obtain ⟨entry, member, rfl⟩ := List.mem_map.mp now
      obtain ⟨left, ready⟩ := List.mem_filter.mp member
      exact round.settles_of_isReady left ready

/-- Where no field is ready, all that are left depend on a cycle. -/
theorem not_mem_of_settles (round : Round fields placed remaining)
    (stuck : fields.ready placed remaining = []) {name : String}
    (settles : Settles fields name) : name ∉ Dict.names remaining := by
  induction settles with
  | @after name field known first induction =>
      intro left
      obtain ⟨entry, member, rfl⟩ := List.mem_map.mp left
      have same := round.known entry member
      rw [known] at same
      obtain rfl := Option.some.inj same
      have ready : fields.isReady placed entry = true := by
        refine isReady_iff.mpr fun sibling refers different => ?_
        have contained := FieldRule.isSibling_of_mem_references refers
        exact (round.covers sibling contained).resolve_right
          (induction sibling refers different)
      have found : entry ∈ fields.ready placed remaining :=
        List.mem_filter.mpr ⟨member, ready⟩
      rw [stuck] at found
      cases found

end Round

theorem mem_before_iff_lt {names earlier later : List String} {name other : String}
    (ascending : names.Pairwise (· < ·)) (split : names = earlier ++ name :: later)
    (member : other ∈ names) : other ∈ earlier ↔ other < name := by
  subst split
  obtain ⟨-, ascendingFrom, across⟩ := List.pairwise_append.mp ascending
  constructor
  · intro before
    exact across other before name List.mem_cons_self
  · intro less
    rcases List.mem_append.mp member with before | notBefore
    · exact before
    · rcases List.mem_cons.mp notBefore with rfl | after
      · exact absurd less (String.lt_irrefl _)
      · exact absurd (String.lt_trans less ((List.pairwise_cons.mp ascendingFrom).1 other after))
          (String.lt_irrefl _)

theorem split_of_append_eq {first second earlier later : List String} {name : String}
    (split : first ++ second = earlier ++ name :: later) :
    (∃ between, first = earlier ++ name :: between) ∨
      ∃ between, earlier = first ++ between ∧ second = between ++ name :: later := by
  rcases List.append_eq_append_iff.mp split with
    ⟨between, isEarlier, isSecond⟩ | ⟨between, isFirst, isRest⟩
  · exact .inr ⟨between, isEarlier, isSecond⟩
  · cases between with
    | nil => exact .inr ⟨[], by simpa using isFirst.symm, isRest.symm⟩
    | cons first between =>
        obtain ⟨rfl, -⟩ := List.cons.inj isRest
        exact .inl ⟨between, isFirst⟩

theorem Round.mem_earlier_iff {fields : FieldRules} {placed : List String}
    {remaining : FieldRules} (round : Round fields placed remaining) {name other : String}
    {field : FieldRule} (known : Dict.get? fields name = some field)
    (refers : other ∈ field.references fun sibling => Dict.contains fields sibling)
    (different : other ≠ name) {earlier later : List String}
    (split : fields.orderAfter placed remaining = earlier ++ name :: later) :
    other ∈ placed ++ earlier ↔ Settles fields other ∨ other < name := by
  have contained := FieldRule.isSibling_of_mem_references refers
  fun_induction orderAfter fields placed remaining generalizing earlier with
  | case1 placed remaining stuck =>
      have ascending : (Dict.names remaining).Pairwise (· < ·) :=
        List.pairwise_map.mpr round.sorted
      constructor
      · intro before
        rcases List.mem_append.mp before with isPlaced | isEarlier
        · exact .inl (round.settled other isPlaced)
        · have left : other ∈ Dict.names remaining := by
            rw [split]
            exact List.mem_append_left _ isEarlier
          exact .inr ((mem_before_iff_lt ascending split left).mp isEarlier)
      · rintro (settles | less)
        · have notLeft := round.not_mem_of_settles stuck settles
          exact List.mem_append_left _ ((round.covers other contained).resolve_right notLeft)
        · rcases round.covers other contained with isPlaced | left
          · exact List.mem_append_left _ isPlaced
          · exact List.mem_append_right _ ((mem_before_iff_lt ascending split left).mpr less)
  | case2 placed remaining _ names induction =>
      rcases split_of_append_eq split with ⟨between, now⟩ | ⟨between, rfl, later⟩
      · have isNow : name ∈ names := by
          rw [now]
          exact List.mem_append_right _ List.mem_cons_self
        obtain ⟨entry, member, rfl⟩ := List.mem_map.mp isNow
        obtain ⟨left, ready⟩ := List.mem_filter.mp member
        have same := round.known entry left
        rw [known] at same
        cases same
        have isPlaced := isReady_iff.mp ready other refers different
        exact ⟨fun _ => .inl (round.settled other isPlaced),
          fun _ => List.mem_append_left _ isPlaced⟩
      · rw [← List.append_assoc]
        exact induction round.next later

/-- A field comes after another one that its parameters name exactly if this one depends on no
cycle or has the lesser name. -/
theorem mem_earlier_iff {fields : FieldRules} (sorted : fields.Sorted) {name other : String}
    {field : FieldRule} (known : Dict.get? fields name = some field)
    (refers : other ∈ field.references fun sibling => Dict.contains fields sibling)
    (different : other ≠ name) {earlier later : List String}
    (split : fields.order = earlier ++ name :: later) :
    other ∈ earlier ↔ Settles fields other ∨ other < name :=
  (Round.start sorted).mem_earlier_iff known refers different split

end FieldRules

end GigListings
