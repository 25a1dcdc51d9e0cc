import GigListings.Dict
import Mathlib.Tactic.ByContra

namespace GigListings.Dict

/-! Finding what was put into a map. -/

variable {α : Type}

theorem get?_cons (other : String) (found : α) (rest : Dict α) (key : String) :
    get? ((other, found) :: rest) key = if key = other then some found else get? rest key := by
  unfold get?
  rw [List.lookup_cons]
  by_cases same : key = other
  · rw [if_pos same, beq_iff_eq.mpr same]
  · rw [if_neg same, beq_eq_false_iff_ne.mpr same]

theorem mem_of_get? {dict : Dict α} {key : String} {value : α}
    (found : get? dict key = some value) :
    (key, value) ∈ dict := by
  induction dict with
  | nil => cases found
  | cons entry rest induction =>
      obtain ⟨other, first⟩ := entry
      rw [get?_cons] at found
      split at found
      · rename_i same
        cases found
        rw [same]
        exact List.mem_cons_self
      · exact List.mem_cons_of_mem _ (induction found)

theorem get?_of_mem {dict : Dict α} {key : String} {value : α}
    (distinct : (dict.map Prod.fst).Nodup) (member : (key, value) ∈ dict) :
    get? dict key = some value := by
  induction dict with
  | nil => cases member
  | cons entry rest induction =>
      obtain ⟨other, first⟩ := entry
      rw [List.map_cons, List.nodup_cons] at distinct
      rw [get?_cons]
      rcases List.mem_cons.mp member with same | later
      · cases same
        rw [if_pos rfl]
      · have named : key ∈ rest.map Prod.fst := List.mem_map_of_mem (f := Prod.fst) later
        rw [if_neg ?_, induction distinct.2 later]
        rintro rfl
        exact distinct.1 named

theorem exists_get?_of_mem_names {dict : Dict α} {key : String} (named : key ∈ dict.names) :
    ∃ value, get? dict key = some value := by
  cases found : get? dict key with
  | some value => exact ⟨value, rfl⟩
  | none =>
      obtain ⟨entry, member, rfl⟩ := List.mem_map.mp named
      have different := List.lookup_eq_none_iff.mp found entry member
      simp at different

theorem contains_iff_mem_names {dict : Dict α} {key : String} :
    contains dict key = true ↔ key ∈ dict.names := by
  constructor
  · intro contained
    obtain ⟨value, found⟩ := Option.isSome_iff_exists.mp contained
    exact List.mem_map_of_mem (f := Prod.fst) (mem_of_get? found)
  · intro named
    obtain ⟨value, found⟩ := exists_get?_of_mem_names named
    exact Option.isSome_iff_exists.mpr ⟨value, found⟩

theorem get?_map (write : α → β) (dict : Dict α) (key : String) :
    get? (dict.map fun (name, value) => (name, write value)) key = (get? dict key).map write := by
  induction dict with
  | nil => rfl
  | cons entry rest induction =>
      obtain ⟨name, value⟩ := entry
      rw [List.map_cons, get?_cons, get?_cons, induction]
      split
      · rfl
      · rfl

theorem get?_filter (dict : Dict α) {key : String} (kept : String → Bool)
    (isKept : kept key = true) :
    get? (dict.filter fun entry => kept entry.1) key = get? dict key := by
  induction dict with
  | nil => rfl
  | cons entry rest induction =>
      obtain ⟨name, value⟩ := entry
      rw [List.filter_cons, get?_cons]
      by_cases same : key = name
      · subst same
        rw [if_pos isKept, get?_cons, if_pos rfl, if_pos rfl]
      · rw [if_neg same]
        split
        · rw [get?_cons, if_neg same, induction]
        · exact induction

theorem get?_insert (dict : Dict α) (name key : String) (value : α) :
    get? (insert name value dict) key = if key = name then some value else get? dict key := by
  induction dict with
  | nil => exact get?_cons name value [] key
  | cons entry rest induction =>
      obtain ⟨other, found⟩ := entry
      unfold insert
      split
      · exact get?_cons name value _ key
      · split
        · rename_i same
          subst same
          rw [get?_cons, get?_cons]
          split
          · rfl
          · rfl
        · rename_i different
          rw [get?_cons, get?_cons, induction]
          by_cases isName : key = name
          · subst isName
            rw [if_neg different, if_pos rfl, if_pos rfl]
          · rw [if_neg isName, if_neg isName]

theorem get?_insert_of_ne {dict : Dict α} {name key : String} (different : key ≠ name) (value : α) :
    get? (insert name value dict) key = get? dict key := by
  rw [get?_insert, if_neg different]

theorem get?_merge (base : Dict α) {overlay : Dict α} (distinct : (overlay.map Prod.fst).Nodup)
    (key : String) : get? (merge base overlay) key = (get? overlay key).or (get? base key) := by
  unfold merge
  induction overlay generalizing base with
  | nil => rfl
  | cons entry rest induction =>
      obtain ⟨name, value⟩ := entry
      rw [List.map_cons, List.nodup_cons] at distinct
      rw [List.foldl_cons, induction _ distinct.2, get?_insert, get?_cons]
      by_cases same : key = name
      · subst same
        have absent : get? rest key = none := by
          cases found : get? rest key with
          | none => rfl
          | some value => exact absurd (List.mem_map_of_mem (mem_of_get? found)) distinct.1
        rw [if_pos rfl, if_pos rfl, absent]
        rfl
      · rw [if_neg same, if_neg same]

theorem get?_merge_of_none (base : Dict α) {overlay : Dict α} {key : String}
    (absent : get? overlay key = none) : get? (merge base overlay) key = get? base key := by
  unfold merge
  induction overlay generalizing base with
  | nil => rfl
  | cons entry rest induction =>
      obtain ⟨name, value⟩ := entry
      rw [get?_cons] at absent
      by_cases same : key = name
      · rw [if_pos same] at absent
        cases absent
      · rw [if_neg same] at absent
        rw [List.foldl_cons, induction _ absent, get?_insert_of_ne same]

theorem mem_insert {dict : Dict α} {name : String} {value : α} {entry : String × α}
    (member : entry ∈ insert name value dict) : entry = (name, value) ∨ entry ∈ dict := by
  induction dict with
  | nil => exact .inl (List.mem_singleton.mp member)
  | cons first rest induction =>
      obtain ⟨other, found⟩ := first
      unfold insert at member
      split at member
      · exact List.mem_cons.mp member
      · split at member
        · rcases List.mem_cons.mp member with new | old
          · exact .inl new
          · exact .inr (List.mem_cons_of_mem _ old)
        · rcases List.mem_cons.mp member with same | later
          · exact .inr (List.mem_cons.mpr (.inl same))
          · rcases induction later with new | old
            · exact .inl new
            · exact .inr (List.mem_cons_of_mem _ old)

theorem sorted_insert {dict : Dict α} (sorted : dict.Sorted) (name : String) (value : α) :
    (insert name value dict).Sorted := by
  induction dict with
  | nil => exact List.pairwise_singleton _ _
  | cons first rest induction =>
      obtain ⟨other, found⟩ := first
      obtain ⟨least, others⟩ := List.pairwise_cons.mp sorted
      unfold insert
      split
      · rename_i before
        refine List.pairwise_cons.mpr ⟨?_, sorted⟩
        intro entry member
        rcases List.mem_cons.mp member with rfl | later
        · exact before
        · exact String.lt_trans before (least entry later)
      · rename_i notBefore
        split
        · rename_i same
          subst same
          exact List.pairwise_cons.mpr ⟨least, others⟩
        · rename_i different
          refine List.pairwise_cons.mpr ⟨?_, induction others⟩
          intro entry member
          rcases mem_insert member with rfl | old
          · by_contra notAfter
            exact different (String.le_antisymm (String.not_lt.mp notAfter)
              (String.not_lt.mp notBefore))
          · exact least entry old

theorem insert_last {dict : Dict α} {name : String} (value : α)
    (last : ∀ entry ∈ dict, entry.1 < name) : insert name value dict = dict ++ [(name, value)] := by
  induction dict with
  | nil => rfl
  | cons first rest induction =>
      obtain ⟨other, found⟩ := first
      have before : other < name := last (other, found) List.mem_cons_self
      have notAfter : ¬ name < other := fun after =>
        String.lt_irrefl other (String.lt_trans before after)
      have different : name ≠ other := by
        rintro rfl
        exact String.lt_irrefl _ before
      unfold insert
      rw [if_neg notAfter, if_neg different,
        induction fun entry member => last entry (List.mem_cons_of_mem _ member)]
      rfl

/-! Making a map of entries is merging them into the empty one. -/

theorem ofList_eq_merge (entries : List (String × α)) : ofList entries = merge [] entries := rfl

theorem get?_ofList {entries : List (String × α)} (distinct : (entries.map Prod.fst).Nodup)
    (key : String) : get? (ofList entries) key = get? entries key := by
  rw [ofList_eq_merge, get?_merge [] distinct]
  exact Option.or_none

theorem merge_cons (base : Dict α) (name : String) (value : α) (rest : Dict α) :
    merge base ((name, value) :: rest) = merge (base.insert name value) rest := rfl

theorem sorted_merge {base : Dict α} (sorted : base.Sorted) (overlay : Dict α) :
    (merge base overlay).Sorted := by
  induction overlay generalizing base with
  | nil => exact sorted
  | cons entry rest induction => exact induction (sorted_insert sorted entry.1 entry.2)

theorem sorted_ofList (entries : List (String × α)) : (ofList entries).Sorted := by
  rw [ofList_eq_merge]
  exact sorted_merge List.Pairwise.nil entries

theorem mem_merge {base overlay : Dict α} {entry : String × α}
    (member : entry ∈ merge base overlay) : entry ∈ base ∨ entry ∈ overlay := by
  induction overlay generalizing base with
  | nil => exact .inl member
  | cons first rest induction =>
      obtain ⟨name, value⟩ := first
      rcases induction member with inserted | later
      · rcases mem_insert inserted with new | old
        · exact .inr (List.mem_cons.mpr (.inl new))
        · exact .inl old
      · exact .inr (List.mem_cons_of_mem _ later)

theorem mem_of_mem_ofList {entries : List (String × α)} {entry : String × α}
    (member : entry ∈ ofList entries) : entry ∈ entries := by
  rw [ofList_eq_merge] at member
  rcases mem_merge member with none | found
  · cases none
  · exact found

theorem merge_of_sorted {base overlay : Dict α} (sorted : Sorted (base ++ overlay)) :
    merge base overlay = base ++ overlay := by
  induction overlay generalizing base with
  | nil => exact (List.append_nil base).symm
  | cons entry rest induction =>
      obtain ⟨name, value⟩ := entry
      obtain ⟨-, -, across⟩ := List.pairwise_append.mp sorted
      have last : ∀ other ∈ base, other.1 < name := fun other member =>
        across other member (name, value) List.mem_cons_self
      rw [merge_cons, insert_last value last, induction]
      · simp
      · simpa using sorted

theorem ofList_of_sorted {dict : Dict α} (sorted : dict.Sorted) : ofList dict = dict := by
  rw [ofList_eq_merge]
  exact merge_of_sorted sorted

theorem nodup_of_sorted {dict : Dict α} (sorted : dict.Sorted) : (dict.map Prod.fst).Nodup := by
  rw [List.Nodup, List.pairwise_map]
  refine sorted.imp ?_
  intro first second before same
  rw [same] at before
  exact String.lt_irrefl _ before

theorem insert_ne_nil (name : String) (value : α) (dict : Dict α) :
    insert name value dict ≠ [] := by
  unfold insert
  split
  · simp
  · split
    · simp
    · split
      · simp
      · simp

theorem merge_ne_nil {base : Dict α} (filled : base ≠ []) (overlay : Dict α) :
    merge base overlay ≠ [] := by
  induction overlay generalizing base with
  | nil => exact filled
  | cons entry rest induction => exact induction (insert_ne_nil entry.1 entry.2 base)

theorem ofList_ne_nil {entries : List (String × α)} (nonempty : entries ≠ []) :
    ofList entries ≠ [] := by
  rw [ofList_eq_merge]
  cases entries with
  | nil => exact absurd rfl nonempty
  | cons entry rest => exact merge_ne_nil (insert_ne_nil entry.1 entry.2 []) rest

end GigListings.Dict
