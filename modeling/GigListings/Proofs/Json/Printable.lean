import GigListings.Json.Parser
import Mathlib.Algebra.Group.Int.Defs
import Mathlib.Data.List.Nodup

namespace GigListings

/-! The values that JSON text can say. -/

open Number

namespace Json

mutual

/-- A value that a text can say: its numbers are finite or have 64 bits, the members of its objects
have different names, and it nests at most so deep. -/
def Printable (depth : Nat) : Json → Prop
  | null => True
  | bool _ => True
  | int value => -2 ^ 63 ≤ value ∧ value < 2 ^ 64
  | real value => value.isFinite = true
  | str _ => True
  | arr items => 0 < depth ∧ PrintableItems (depth - 1) items
  | obj members =>
      0 < depth ∧ (members.map Prod.fst).Nodup ∧ PrintableMembers (depth - 1) members

def PrintableItems (depth : Nat) : List Json → Prop
  | [] => True
  | item :: items => item.Printable depth ∧ PrintableItems depth items

def PrintableMembers (depth : Nat) : Members → Prop
  | [] => True
  | (_, value) :: rest => value.Printable depth ∧ PrintableMembers depth rest

end

theorem printableItems_iff {depth : Nat} {items : List Json} :
    PrintableItems depth items ↔ ∀ item ∈ items, item.Printable depth := by
  induction items with
  | nil => simp [PrintableItems]
  | cons item items induction => simp [PrintableItems, induction]

theorem printableMembers_iff {depth : Nat} {members : Members} :
    PrintableMembers depth members ↔ ∀ entry ∈ members, entry.2.Printable depth := by
  induction members with
  | nil => simp [PrintableMembers]
  | cons entry rest induction => simp [PrintableMembers, induction]

theorem printable_arr {depth : Nat} {items : List Json} :
    (arr items).Printable (depth + 1) ↔ ∀ item ∈ items, item.Printable depth := by
  simp [Printable, printableItems_iff]

theorem printable_obj {depth : Nat} {members : Members} :
    (obj members).Printable (depth + 1) ↔
      (members.map Prod.fst).Nodup ∧ ∀ entry ∈ members, entry.2.Printable depth := by
  simp [Printable, printableMembers_iff]

end Json

namespace Members

theorem names_insert (key : String) (value : Json) (members : Members) :
    (members.insert key value).map Prod.fst =
      if key ∈ members.map Prod.fst then members.map Prod.fst
      else members.map Prod.fst ++ [key] := by
  induction members with
  | nil => rfl
  | cons entry rest induction =>
      obtain ⟨name, found⟩ := entry
      unfold insert
      by_cases same : name = key
      · subst same
        simp
      · rw [if_neg same, List.map_cons, induction]
        simp only [List.map_cons, List.mem_cons, Ne.symm same, false_or]
        split
        · rfl
        · rfl

theorem insert_of_new {key : String} {members : Members} (value : Json)
    (new : key ∉ members.map Prod.fst) : members.insert key value = members ++ [(key, value)] := by
  induction members with
  | nil => rfl
  | cons entry rest induction =>
      obtain ⟨name, found⟩ := entry
      simp only [List.map_cons, List.mem_cons, not_or] at new
      unfold insert
      rw [if_neg (Ne.symm new.1), induction new.2]
      rfl

theorem mem_insert {key : String} {value : Json} {members : Members} {entry : String × Json}
    (member : entry ∈ members.insert key value) : entry = (key, value) ∨ entry ∈ members := by
  induction members with
  | nil => exact .inl (List.mem_singleton.mp member)
  | cons first rest induction =>
      obtain ⟨name, found⟩ := first
      unfold insert at member
      split at member
      · rename_i same
        subst same
        rcases List.mem_cons.mp member with new | old
        · exact .inl new
        · exact .inr (List.mem_cons_of_mem _ old)
      · rcases List.mem_cons.mp member with same | later
        · exact .inr (List.mem_cons.mpr (.inl same))
        · rcases induction later with new | old
          · exact .inl new
          · exact .inr (List.mem_cons_of_mem _ old)

theorem nodup_insert {members : Members} (distinct : (members.map Prod.fst).Nodup) (key : String)
    (value : Json) : ((members.insert key value).map Prod.fst).Nodup := by
  rw [names_insert]
  split
  · exact distinct
  · rename_i new
    refine List.nodup_append.mpr ⟨distinct, List.nodup_singleton key, ?_⟩
    intro name member other single same
    rw [same, List.mem_singleton.mp single] at member
    exact new member

end Members

namespace Json

/-! What has been read can be said by a text. -/

theorem printable_of_numberOf {negative : Bool} {whole fraction : List Char}
    {exponent : Option Int} {value : Json}
    (read : numberOf negative whole fraction exponent = some value) (depth : Nat) :
    value.Printable depth := by
  have ofReal {x : Binary64} (read : finiteReal? x = some value) : value.Printable depth := by
    unfold finiteReal? at read
    split at read
    · rename_i finite
      cases read
      rw [Printable]
      exact finite
    · cases read
  unfold numberOf at read
  split at read
  · dsimp only at read
    split at read
    · split at read
      · rename_i bounds
        rw [Nat.pow_eq] at bounds
        cases read
        rw [Printable]
        omega
      · exact ofReal read
    · split at read
      · rename_i bound
        rw [UInt64.size] at bound
        cases read
        rw [Printable]
        omega
      · exact ofReal read
  · exact ofReal read

theorem printable_of_readUnsigned {negative : Bool} {text rest : List Char} {value : Json}
    (read : readUnsigned negative text = some (value, rest)) (depth : Nat) :
    value.Printable depth := by
  unfold readUnsigned at read
  simp only [Option.bind_eq_bind, Option.bind_eq_some_iff, Option.pure_def, Option.some.injEq,
    Prod.mk.injEq] at read
  obtain ⟨_, -, _, -, _, -, number, read, rfl, -⟩ := read
  exact printable_of_numberOf read depth

theorem printable_of_readNumber {text rest : List Char} {value : Json}
    (read : readNumber text = some (value, rest)) (depth : Nat) : value.Printable depth := by
  unfold readNumber at read
  split at read
  · exact printable_of_readUnsigned read depth
  · exact printable_of_readUnsigned read depth

/-- With so much fuel only printable values, items and members are read. -/
structure ReadsPrintable (fuel : Nat) : Prop where
  value : ∀ {depth text value rest}, readValue fuel depth text = some (value, rest) →
    value.Printable depth
  items : ∀ {depth before text items rest},
    readItems fuel depth before text = some (items, rest) →
      (∀ item ∈ before, item.Printable depth) → ∀ item ∈ items, item.Printable depth
  members : ∀ {depth before text members rest},
    readMembers fuel depth before text = some (members, rest) →
      (before.map Prod.fst).Nodup → (∀ entry ∈ before, entry.2.Printable depth) →
        (members.map Prod.fst).Nodup ∧ ∀ entry ∈ members, entry.2.Printable depth

namespace ReadsPrintable

variable {fuel depth : Nat} {text rest : List Char}

theorem value_succ (reads : ReadsPrintable fuel) {value : Json}
    (read : readValue (fuel + 1) depth text = some (value, rest)) : value.Printable depth := by
  unfold readValue at read
  split at read
  · cases read
    trivial
  · cases read
    trivial
  · cases read
    trivial
  · obtain ⟨found, -, equation⟩ := Option.map_eq_some_iff.mp read
    cases equation
    trivial
  · split at read
    · cases read
    · split at read
      · cases read
        exact printable_arr.mpr (List.forall_mem_nil _)
      · obtain ⟨found, items, equation⟩ := Option.map_eq_some_iff.mp read
        cases equation
        exact printable_arr.mpr (reads.items items (List.forall_mem_nil _))
  · split at read
    · cases read
    · split at read
      · cases read
        exact printable_obj.mpr ⟨List.nodup_nil, List.forall_mem_nil _⟩
      · obtain ⟨found, members, equation⟩ := Option.map_eq_some_iff.mp read
        cases equation
        exact printable_obj.mpr (reads.members members List.nodup_nil (List.forall_mem_nil _))
  · exact printable_of_readNumber read depth

theorem items_succ (reads : ReadsPrintable fuel) {before items : List Json}
    (read : readItems (fuel + 1) depth before text = some (items, rest))
    (printable : ∀ item ∈ before, item.Printable depth) :
    ∀ item ∈ items, item.Printable depth := by
  unfold readItems at read
  split at read
  · cases read
  · rename_i value tail found
    have all : ∀ item ∈ value :: before, item.Printable depth :=
      List.forall_mem_cons.mpr ⟨reads.value found, printable⟩
    split at read
    · exact reads.items read all
    · cases read
      exact fun item member => all item (List.mem_reverse.mp member)
    · cases read

theorem members_succ (reads : ReadsPrintable fuel) {before members : Members}
    (read : readMembers (fuel + 1) depth before text = some (members, rest))
    (distinct : (before.map Prod.fst).Nodup)
    (printable : ∀ entry ∈ before, entry.2.Printable depth) :
    (members.map Prod.fst).Nodup ∧ ∀ entry ∈ members, entry.2.Printable depth := by
  unfold readMembers at read
  split at read
  · split at read
    · cases read
    · rename_i key afterKey named
      split at read
      · split at read
        · cases read
        · rename_i value tail found
          dsimp only at read
          have distinctAfter := Members.nodup_insert distinct key value
          have all : ∀ entry ∈ before.insert key value, entry.2.Printable depth := by
            intro entry member
            rcases Members.mem_insert member with new | old
            · rw [new]
              exact reads.value found
            · exact printable entry old
          split at read
          · exact reads.members read distinctAfter all
          · cases read
            exact ⟨distinctAfter, all⟩
          · cases read
      · cases read
  · cases read

end ReadsPrintable

theorem readsPrintable (fuel : Nat) : ReadsPrintable fuel := by
  -- Values, items and members are read with the fuel of each other, so they go together.
  induction fuel with
  | zero =>
      refine ⟨?_, ?_, ?_⟩
      · intro depth text value rest read
        cases read
      · intro depth before text items rest read
        cases read
      · intro depth before text members rest read
        cases read
  | succ fuel induction =>
      exact ⟨induction.value_succ, induction.items_succ, induction.members_succ⟩

theorem printable_of_parse {text : String} {value : Json} (read : parse? text = some value) :
    value.Printable depthLimit := by
  unfold parse? at read
  dsimp only at read
  split at read
  · rename_i found rest equation
    split at read
    · cases read
      exact (readsPrintable _).value equation
    · cases read
  · cases read

end Json

end GigListings
