import GigListings.Proofs.Extraction.Cycles
import Mathlib.Computability.StateTransition
import Mathlib.Order.Lattice.Nat

namespace GigListings.FieldRules

open Relation

/-! The rounds in which fields are placed. There are finitely many of them, whatever the fields
refer to, and each field is placed in one of them. Where no references form a cycle, the rounds go
by the longest chain of references that leads away from a field. -/

variable {fields remaining : FieldRules} {placed : List String} {name other : String}
  {rounds : Nat}

def unplaced (fields : FieldRules) (placed : List String) : FieldRules :=
  fields.filter fun entry => !placed.contains entry.1

/-- What has been placed after one more round: all fields that are ready or, where none is, all
that are left. Once every field has been placed there is no further round. -/
def round? (fields : FieldRules) (placed : List String) : Option (List String) :=
  if placed.length < fields.length then
    let left := fields.unplaced placed
    let ready := fields.ready placed left
    some (placed ++ Dict.names (if ready = [] then left else ready))
  else none

theorem unplaced_nil : fields.unplaced [] = fields := by simp [unplaced]

theorem not_mem_of_mem_unplaced (named : name ∈ Dict.names (fields.unplaced placed)) :
    name ∉ placed := by
  obtain ⟨entry, member, rfl⟩ := List.mem_map.mp named
  simpa using (List.mem_filter.mp member).2

/-! The run of all rounds. -/

theorem Round.mem_names_ready_iff (round : Round fields placed remaining)
    {entry : String × FieldRule} (member : entry ∈ remaining) :
    entry.1 ∈ Dict.names (fields.ready placed remaining) ↔
      fields.isReady placed entry = true := by
  constructor
  · intro named
    obtain ⟨found, isFound, same⟩ := List.mem_map.mp named
    obtain ⟨left, ready⟩ := List.mem_filter.mp isFound
    have known := round.known found left
    rw [same, round.known entry member] at known
    have equal : found = entry := Prod.ext same (Option.some.inj known).symm
    rwa [← equal]
  · intro ready
    exact List.mem_map_of_mem (f := Prod.fst) (List.mem_filter.mpr ⟨member, ready⟩)

theorem Round.waiting_eq_unplaced (round : Round fields placed remaining)
    (left : remaining = fields.unplaced placed) :
    fields.waiting placed remaining =
      fields.unplaced (placed ++ Dict.names (fields.ready placed remaining)) := by
  have split : fields.waiting placed remaining =
      fields.filter fun entry => !fields.isReady placed entry && !placed.contains entry.1 := by
    rw [left]
    exact List.filter_filter
  rw [split]
  apply List.filter_congr
  intro entry member
  -- Fields of the rounds before count as placed on both sides, whether they are ready or not.
  by_cases early : entry.1 ∈ placed
  · simp [early]
  · have isLeft : entry ∈ remaining := by
      rw [left]
      exact List.mem_filter.mpr ⟨member, by simpa using early⟩
    have isNow := round.mem_names_ready_iff isLeft
    simp [early, isNow]

theorem round?_eq (left : remaining = fields.unplaced placed)
    (all : (placed ++ Dict.names remaining).Perm (Dict.names fields))
    (nonempty : remaining ≠ []) :
    fields.round? placed = some (placed ++ Dict.names
      (if fields.ready placed remaining = [] then remaining
        else fields.ready placed remaining)) := by
  have count := all.length_eq
  simp only [List.length_append, Dict.names, List.length_map] at count
  have positive := List.length_pos_iff.mpr nonempty
  rw [round?, if_pos (by omega), left]

theorem Round.reaches_orderAfter (round : Round fields placed remaining)
    (left : remaining = fields.unplaced placed)
    (all : (placed ++ Dict.names remaining).Perm (Dict.names fields)) :
    StateTransition.Reaches fields.round? placed
      (placed ++ fields.orderAfter placed remaining) := by
  fun_induction orderAfter fields placed remaining with
  | case1 placed remaining stuck =>
      by_cases done : remaining = []
      · rw [done, Dict.names, List.map_nil, List.append_nil]
        exact .refl
      · have step := round?_eq left all done
        rw [if_pos stuck] at step
        exact .single step
  | case2 placed remaining moves names induction =>
      have some : remaining ≠ [] := by
        rintro rfl
        exact moves rfl
      have step := round?_eq left all some
      rw [if_neg moves] at step
      have parts := ready_append_waiting_perm fields placed remaining
      rw [← List.append_assoc]
      refine .head step (induction round.next (round.waiting_eq_unplaced left) ?_)
      rw [List.append_assoc]
      exact (parts.append_left placed).trans all

theorem order_mem_eval_round? (sorted : fields.Sorted) :
    fields.order ∈ StateTransition.eval fields.round? [] := by
  have run := (Round.start sorted).reaches_orderAfter unplaced_nil.symm (.refl _)
  have count := fields.order_perm.length_eq
  rw [Dict.names, List.length_map] at count
  have ends : fields.round? fields.order = Option.none := if_neg (by omega)
  exact StateTransition.mem_eval.mpr ⟨run, ends⟩

/-! Chains of references. -/

def IsAcyclic (fields : FieldRules) : Prop := ∀ name, ¬fields.IsOnCycle name

/-- How many references the chains have that lead away from a field. -/
def chainLengths (fields : FieldRules) (name : String) : Set Nat :=
  {length | ∃ chain : List String,
    chain.length = length ∧ (name :: chain).IsChain fields.RefersTo}

noncomputable def longestChain (fields : FieldRules) (name : String) : Nat :=
  sSup (fields.chainLengths name)

theorem RefersTo.mem_names (refers : fields.RefersTo name other) :
    other ∈ Dict.names fields :=
  Dict.contains_iff_mem_names.mp refers.contains

theorem subset_names_of_isChain {chain : List String}
    (linked : (name :: chain).IsChain fields.RefersTo) : chain ⊆ Dict.names fields := by
  induction chain generalizing name with
  | nil => exact List.nil_subset _
  | cons next chain induction =>
      obtain ⟨refers, others⟩ := List.isChain_cons_cons.mp linked
      exact List.cons_subset.mpr ⟨refers.mem_names, induction others⟩

/-- Without cycles no chain comes back to a field, so that it cannot be longer than there are
fields. -/
theorem IsAcyclic.length_le (acyclic : fields.IsAcyclic) {chain : List String}
    (linked : (name :: chain).IsChain fields.RefersTo) : chain.length ≤ fields.length := by
  have onward : (name :: chain).Pairwise (TransGen fields.RefersTo) :=
    List.isChain_iff_pairwise.mp (linked.imp fun _ _ => TransGen.single)
  have distinct : (name :: chain).Nodup := by
    refine onward.imp fun {first second} steps same => ?_
    rw [same] at steps
    exact acyclic second steps
  have bound := (distinct.of_cons.subperm (subset_names_of_isChain linked)).length_le
  rwa [Dict.names, List.length_map] at bound

theorem IsAcyclic.isGreatest_longestChain (acyclic : fields.IsAcyclic) (name : String) :
    IsGreatest (fields.chainLengths name) (fields.longestChain name) := by
  have nonempty : (fields.chainLengths name).Nonempty := ⟨0, [], rfl, .singleton name⟩
  have bounded : BddAbove (fields.chainLengths name) := by
    refine ⟨fields.length, ?_⟩
    rintro _ ⟨chain, rfl, linked⟩
    exact acyclic.length_le linked
  exact ⟨Nat.sSup_mem nonempty bounded, fun _ isLength => le_csSup bounded isLength⟩

/-- The longest chain of a field is longer by one than that of the fields it refers to. -/
theorem IsAcyclic.longestChain_le_iff (acyclic : fields.IsAcyclic) :
    fields.longestChain name ≤ rounds ↔
      ∀ other, fields.RefersTo name other → fields.longestChain other < rounds := by
  constructor
  · intro short other refers
    obtain ⟨chain, count, linked⟩ := (acyclic.isGreatest_longestChain other).1
    have longer : chain.length + 1 ∈ fields.chainLengths name :=
      ⟨other :: chain, rfl, List.isChain_cons_cons.mpr ⟨refers, linked⟩⟩
    have bound := (acyclic.isGreatest_longestChain name).2 longer
    omega
  · intro others
    obtain ⟨chain, count, linked⟩ := (acyclic.isGreatest_longestChain name).1
    cases chain with
    | nil =>
        rw [← count]
        exact Nat.zero_le rounds
    | cons next chain =>
        obtain ⟨refers, behind⟩ := List.isChain_cons_cons.mp linked
        have bound := (acyclic.isGreatest_longestChain next).2 ⟨chain, rfl, behind⟩
        have less := others next refers
        rw [← count, List.length_cons]
        omega

/-! The rounds without cycles. -/

/-- By the longest chain, then by name. -/
def StandsBefore (fields : FieldRules) (first second : String) : Prop :=
  fields.longestChain first < fields.longestChain second ∨
    fields.longestChain first = fields.longestChain second ∧ first < second

/-- After that many rounds, a field has been placed exactly if all its chains are shorter. -/
def HasPlacedShorter (fields : FieldRules) (placed : List String) (rounds : Nat) : Prop :=
  ∀ name ∈ Dict.names fields, name ∈ placed ↔ fields.longestChain name < rounds

namespace Round

variable (round : Round fields placed remaining) (acyclic : fields.IsAcyclic)
  (reached : fields.HasPlacedShorter placed rounds)

include round

theorem names_subset : Dict.names remaining ⊆ Dict.names fields := by
  intro name named
  obtain ⟨entry, member, rfl⟩ := List.mem_map.mp named
  exact List.mem_map_of_mem (f := Prod.fst) (Dict.mem_of_get? (round.known entry member))

theorem eq_nil_of_stuck (stuck : fields.ready placed remaining = []) (acyclic : fields.IsAcyclic) :
    Dict.names remaining = [] := by
  refine List.eq_nil_iff_forall_not_mem.mpr fun name left => ?_
  have free : ¬fields.LeadsToCycle name := fun ⟨last, _, circle⟩ => acyclic last circle
  have settles := settles_of_not_leadsToCycle (round.names_subset left) free
  exact round.not_mem_of_settles stuck settles left

include acyclic reached

theorem isReady_iff_longestChain_le {entry : String × FieldRule} (member : entry ∈ remaining) :
    fields.isReady placed entry = true ↔ fields.longestChain entry.1 ≤ rounds := by
  have known := round.known entry member
  rw [isReady_iff, acyclic.longestChain_le_iff]
  constructor
  · intro ready other refers
    have listed := refers.mem_names
    obtain ⟨different, field, found, named⟩ := refers
    rw [known] at found
    cases found
    exact (reached other listed).mp (ready other named different)
  · intro others other named different
    have refers : fields.RefersTo entry.1 other := ⟨different, entry.2, known, named⟩
    exact (reached other refers.mem_names).mpr (others other refers)

theorem mem_ready_iff_longestChain_le (named : name ∈ Dict.names remaining) :
    name ∈ Dict.names (fields.ready placed remaining) ↔ fields.longestChain name ≤ rounds := by
  obtain ⟨entry, member, rfl⟩ := List.mem_map.mp named
  rw [round.mem_names_ready_iff member,
    round.isReady_iff_longestChain_le acyclic reached member]

theorem hasPlacedShorter_next :
    fields.HasPlacedShorter (placed ++ Dict.names (fields.ready placed remaining))
      (rounds + 1) := by
  intro name listed
  rw [List.mem_append, reached name listed, Nat.lt_succ_iff]
  constructor
  · rintro (shorter | now)
    · exact Nat.le_of_lt shorter
    · have left : name ∈ Dict.names remaining :=
        (List.filter_sublist.map Prod.fst).subset now
      exact (round.mem_ready_iff_longestChain_le acyclic reached left).mp now
  · intro short
    rcases Nat.lt_or_eq_of_le short with shorter | same
    · exact .inl shorter
    · have late : name ∉ placed := by
        rw [reached name listed]
        omega
      have left := (round.covers name (Dict.contains_iff_mem_names.mpr listed)).resolve_left late
      exact .inr ((round.mem_ready_iff_longestChain_le acyclic reached left).mpr short)

end Round

theorem Round.le_longestChain (round : Round fields placed remaining)
    (left : remaining = fields.unplaced placed)
    (reached : fields.HasPlacedShorter placed rounds) (named : name ∈ Dict.names remaining) :
    rounds ≤ fields.longestChain name := by
  have late := not_mem_of_mem_unplaced (left ▸ named)
  rw [reached name (round.names_subset named)] at late
  exact Nat.le_of_not_lt late

/-- Round by round the chains grow longer by one, and in a round the names ascend. -/
theorem Round.pairwise_orderAfter (round : Round fields placed remaining)
    (acyclic : fields.IsAcyclic) (left : remaining = fields.unplaced placed) {rounds : Nat}
    (reached : fields.HasPlacedShorter placed rounds) :
    (fields.orderAfter placed remaining).Pairwise fields.StandsBefore := by
  fun_induction orderAfter fields placed remaining generalizing rounds with
  | case1 placed remaining stuck =>
      -- Only a cycle stops the rounds before the last field, so that no field is left here.
      rw [round.eq_nil_of_stuck stuck acyclic]
      exact .nil
  | case2 placed remaining moves names induction =>
      have nextLeft := round.waiting_eq_unplaced left
      have nextReached := round.hasPlacedShorter_next acyclic reached
      have current : ∀ name ∈ names, fields.longestChain name = rounds := by
        intro name now
        have isLeft := (List.filter_sublist.map Prod.fst).subset now
        apply Nat.le_antisymm
        · exact (round.mem_ready_iff_longestChain_le acyclic reached isLeft).mp now
        · exact round.le_longestChain left reached isLeft
      have later : ∀ name ∈ fields.orderAfter (placed ++ names) (fields.waiting placed remaining),
          rounds < fields.longestChain name := by
        intro name behind
        have isLeft := (orderAfter_perm _ _ _).mem_iff.mp behind
        exact round.next.le_longestChain nextLeft nextReached isLeft
      apply List.pairwise_append.mpr
      refine ⟨?_, induction round.next nextLeft nextReached, ?_⟩
      · have ascending : names.Pairwise (· < ·) :=
          List.pairwise_map.mpr (round.sorted.sublist List.filter_sublist)
        apply ascending.imp_of_mem
        intro first second isFirst isSecond less
        exact .inr ⟨(current first isFirst).trans (current second isSecond).symm, less⟩
      · intro first now second behind
        have longer := later second behind
        rw [← current first now] at longer
        exact .inl longer

/-- Whatever the fields refer to, the rounds come to an end, and then each field has one place.
Where there is no cycle, the order is by the longest chain, then by name. -/
theorem order_mem_eval_perm_pairwise (sorted : fields.Sorted) :
    fields.order ∈ StateTransition.eval fields.round? [] ∧
      fields.order.Perm (Dict.names fields) ∧ fields.order.Nodup ∧
      (fields.IsAcyclic →
        (∀ name, IsGreatest (fields.chainLengths name) (fields.longestChain name)) ∧
          fields.order.Pairwise fields.StandsBefore) := by
  have once : (Dict.names fields).Nodup := Dict.nodup_of_sorted sorted
  refine ⟨order_mem_eval_round? sorted, fields.order_perm, fields.order_perm.nodup_iff.mpr once,
    fun acyclic => ⟨acyclic.isGreatest_longestChain, ?_⟩⟩
  have none : fields.HasPlacedShorter [] 0 := by simp [HasPlacedShorter]
  exact (Round.start sorted).pairwise_orderAfter acyclic unplaced_nil.symm none

/-! Fields that are placed in three rounds. -/

def chainedFields : FieldRules :=
  [("doors", datedBy "start"), ("end", datedBy "start"), ("start", datedBy "when"),
    ("when", FieldRule.plain)]

theorem isAcyclic_chainedFields : chainedFields.IsAcyclic := by
  have onward : ∀ entry ∈ chainedFields,
      ∀ other ∈ entry.2.references fun sibling => Dict.contains chainedFields sibling,
        entry.1 < other := by
    decide +kernel
  have step {first second : String} (refers : chainedFields.RefersTo first second) :
      first < second := by
    obtain ⟨-, field, known, named⟩ := refers
    exact onward _ (Dict.mem_of_get? known) second named
  intro name circle
  suffices ascends : ∀ last, TransGen chainedFields.RefersTo name last → name < last from
    String.lt_irrefl name (ascends name circle)
  intro last steps
  induction steps with
  | single refers => exact step refers
  | tail _ refers less => exact String.lt_trans less (step refers)

theorem order_chainedFields :
    chainedFields.Sorted ∧ chainedFields.IsAcyclic ∧
      chainedFields.order = ["when", "start", "doors", "end"] ∧
      chainedFields.order ∈ StateTransition.eval chainedFields.round? [] ∧
      chainedFields.order.Nodup ∧ chainedFields.order.Pairwise chainedFields.StandsBefore := by
  have sorted : chainedFields.Sorted := by
    unfold Dict.Sorted
    decide +kernel
  obtain ⟨ends, -, once, acyclicOrder⟩ := order_mem_eval_perm_pairwise sorted
  exact ⟨sorted, isAcyclic_chainedFields, by decide +kernel, ends, once,
    (acyclicOrder isAcyclic_chainedFields).2⟩

end GigListings.FieldRules
