import GigListings.Proofs.Text.Tables
import GigListings.Text.Basic
import Mathlib.Algebra.Ring.Nat

namespace GigListings.Text

/-! Texts in pieces. A character that does not separate the pieces occurs in them as often as in
the whole, and pieces that hold the separator equally often can be told from the whole. -/

theorem intercalate_cons (separator piece next : List Char) (pieces : List (List Char)) :
    intercalate separator (piece :: next :: pieces) =
      piece ++ separator ++ intercalate separator (next :: pieces) := by
  simp [intercalate, List.intersperse]

theorem count_intercalate {separator c : Char} (other : separator ≠ c)
    (pieces : List (List Char)) :
    (intercalate [separator] pieces).count c = (pieces.map (·.count c)).sum := by
  induction pieces with
  | nil => rfl
  | cons piece pieces induction =>
      cases pieces with
      | nil => simp [intercalate]
      | cons next pieces =>
          rw [intercalate_cons, List.count_append, List.count_append, induction,
            List.count_singleton, beq_eq_false_iff_ne.mpr other]
          rfl

theorem count_splitOn {separates : Char → Bool} {c : Char} (kept : separates c = false)
    (text : List Char) : ((splitOn separates text).map (·.count c)).sum = text.count c := by
  induction text with
  | nil => rfl
  | cons d text induction =>
      rw [splitOn]
      split
      · rename_i separated
        have other : d ≠ c := by
          rintro rfl
          exact absurd (separated.symm.trans kept) (by decide)
        rw [List.map_cons, List.sum_cons, induction, List.count_nil, Nat.zero_add,
          List.count_cons_of_ne other]
      · cases pieces : splitOn separates text with
        | nil =>
            rw [pieces] at induction
            simp only [List.map_nil, List.sum_nil] at induction
            simp [List.count_cons, ← induction]
        | cons piece pieces' =>
            rw [pieces, List.map_cons, List.sum_cons] at induction
            simp only [List.map_cons, List.sum_cons, List.count_cons, ← induction]
            omega

theorem splitOn_ne_nil (separates : Char → Bool) (text : List Char) :
    splitOn separates text ≠ [] := by
  cases text with
  | nil => exact List.cons_ne_nil _ _
  | cons c text =>
      rw [splitOn]
      split
      · exact List.cons_ne_nil _ _
      · split <;> exact List.cons_ne_nil _ _

theorem splitOn_of_unseparated {separates : Char → Bool} {text : List Char}
    (unseparated : ∀ c ∈ text, separates c = false) : splitOn separates text = [text] := by
  induction text with
  | nil => rfl
  | cons c text induction =>
      obtain ⟨first, rest⟩ := List.forall_mem_cons.mp unseparated
      rw [splitOn, first, induction rest]
      rfl

theorem splitOn_append_cons {separates : Char → Bool} {c : Char} (separator : separates c = true)
    (before after : List Char) :
    splitOn separates (before ++ c :: after) =
      splitOn separates before ++ splitOn separates after := by
  induction before with
  | nil =>
      rw [List.nil_append]
      exact if_pos separator
  | cons d before induction =>
      rw [List.cons_append, splitOn, splitOn, induction]
      split
      · rfl
      · cases pieces : splitOn separates before with
        | nil => exact absurd pieces (splitOn_ne_nil _ _)
        | cons piece pieces => rfl

theorem count_filter_pieces (c : Char) (pieces : List (List Char)) :
    ((pieces.filter (· ≠ [])).map (·.count c)).sum = (pieces.map (·.count c)).sum := by
  induction pieces with
  | nil => rfl
  | cons piece pieces induction =>
      by_cases empty : piece = []
      · simpa [empty] using induction
      · simpa [empty] using induction

theorem count_words {c : Char} (visible : isBlank c = false) (text : List Char) :
    ((words text).map (·.count c)).sum = text.count c := by
  rw [words, count_filter_pieces, count_splitOn visible]

theorem mem_of_mem_splitOn {separates : Char → Bool} {text piece : List Char} {c : Char}
    (listed : piece ∈ splitOn separates text) (member : c ∈ piece) :
    c ∈ text ∧ separates c = false := by
  induction text generalizing piece with
  | nil =>
      rw [List.mem_singleton.mp listed] at member
      cases member
  | cons d text induction =>
      rw [splitOn] at listed
      by_cases separated : separates d = true
      · rw [if_pos separated] at listed
        rcases List.mem_cons.mp listed with rfl | later
        · cases member
        · exact (induction later member).imp_left (List.mem_cons_of_mem d)
      · rw [if_neg separated] at listed
        cases pieces : splitOn separates text with
        | nil => exact absurd pieces (splitOn_ne_nil _ _)
        | cons first others =>
            rw [pieces] at listed induction
            rcases List.mem_cons.mp listed with rfl | later
            · rcases List.mem_cons.mp member with rfl | inside
              · exact ⟨List.mem_cons_self, Bool.eq_false_iff.mpr separated⟩
              · exact (induction List.mem_cons_self inside).imp_left (List.mem_cons_of_mem d)
            · exact (induction (List.mem_cons_of_mem first later) member).imp_left
                (List.mem_cons_of_mem d)

theorem splitOn_intercalate {separator : Char} {pieces : List (List Char)} (some : pieces ≠ [])
    (unseparated : ∀ piece ∈ pieces, separator ∉ piece) :
    splitOn (· == separator) (intercalate [separator] pieces) = pieces := by
  have alone {piece : List Char} (without : separator ∉ piece) :
      splitOn (· == separator) piece = [piece] :=
    splitOn_of_unseparated fun c member =>
      beq_eq_false_iff_ne.mpr fun same => without (same ▸ member)
  induction pieces with
  | nil => exact absurd rfl some
  | cons piece pieces induction =>
      obtain ⟨first, others⟩ := List.forall_mem_cons.mp unseparated
      cases pieces with
      | nil => simpa [intercalate] using alone first
      | cons next pieces =>
          rw [intercalate_cons, List.append_assoc, List.singleton_append,
            @splitOn_append_cons (· == separator) separator (beq_self_eq_true separator),
            alone first, induction (List.cons_ne_nil _ _) others, List.singleton_append]

theorem mem_intercalate {separator c : Char} {pieces : List (List Char)}
    (member : c ∈ intercalate [separator] pieces) :
    c = separator ∨ ∃ piece ∈ pieces, c ∈ piece := by
  by_cases same : c = separator
  · exact .inl same
  · have counted := List.count_pos_iff.mpr member
    rw [count_intercalate (Ne.symm same), List.sum_pos_iff_exists_pos_nat] at counted
    obtain ⟨count, listed, positive⟩ := counted
    obtain ⟨piece, source, rfl⟩ := List.mem_map.mp listed
    exact .inr ⟨piece, source, List.count_pos_iff.mp positive⟩

/-! Runs that are joined. -/

theorem mem_joinRuns {p : Char → Bool} {separator c : Char} {text : List Char}
    (other : separator ≠ c) : c ∈ joinRuns p separator text ↔ c ∈ text ∧ p c = true := by
  constructor
  · intro member
    rcases mem_intercalate member with same | ⟨piece, listed, inside⟩
    · exact absurd same.symm other
    · obtain ⟨source, kept⟩ := mem_of_mem_splitOn (List.mem_filter.mp listed).1 inside
      exact ⟨source, by simpa using kept⟩
  · rintro ⟨member, kept⟩
    rw [← List.count_pos_iff] at member ⊢
    rwa [joinRuns, count_intercalate other, count_filter_pieces, count_splitOn (by simp [kept])]

theorem joinRuns_cons {p : Char → Bool} {separator c : Char} {text rest : List Char}
    (joined : joinRuns p separator text = c :: rest) : p c = true := by
  rw [joinRuns] at joined
  cases pieces : (splitOn (fun c => !p c) text).filter (· ≠ []) with
  | nil =>
      rw [pieces] at joined
      cases joined
  | cons piece others =>
      have listed : piece ∈ (splitOn (fun c => !p c) text).filter (· ≠ []) := by
        rw [pieces]
        exact List.mem_cons_self
      obtain ⟨source, visible⟩ := List.mem_filter.mp listed
      obtain ⟨d, more, rfl⟩ := List.exists_cons_of_ne_nil (of_decide_eq_true visible)
      have first : d = c := by
        rw [pieces] at joined
        cases others with
        | nil => exact (List.cons.inj joined).1
        | cons next others =>
            rw [intercalate_cons] at joined
            exact (List.cons.inj joined).1
      rw [← first]
      simpa using (mem_of_mem_splitOn source List.mem_cons_self).2

/-! Bars are no letters: no case brings one forth or takes one away. -/

theorem count_lowerChar_bar (c : Char) : (lowerChar c).count '|' = [c].count '|' := by
  by_cases ascii : c.toNat < 128
  · have all : ∀ code < 128, (lowerChar (Char.ofNat code)).count '|' =
        [Char.ofNat code].count '|' := by decide
    have same := all c.toNat ascii
    rwa [Char.ofNat_toNat] at same
  · have other : c ≠ '|' := by
      rintro rfl
      exact ascii (by decide)
    rw [List.count_singleton, beq_eq_false_iff_ne.mpr other]
    refine List.count_eq_zero.mpr fun member => ?_
    have letter := isAsciiLower_of_mem_lowerChar ascii member (by decide)
    cases letter

theorem count_lowerAfter_bar (before text : List Char) :
    (lowerAfter before text).count '|' = text.count '|' := by
  induction text generalizing before with
  | nil => rfl
  | cons c text induction =>
      have image : (if c = 'Σ' then
          if nextIsCased before && !nextIsCased text then ['ς'] else ['σ']
        else lowerChar c).count '|' = [c].count '|' := by
        split
        · rename_i sigma
          rw [sigma]
          split <;> rfl
        · exact count_lowerChar_bar c
      rw [lowerAfter, List.count_append, induction, image, ← List.count_append,
        List.singleton_append]

/-! Joined pieces. -/

/-- A text is known up to a character if it is known how often it is to occur before. -/
theorem append_cons_inj {separator : Char} {before other rest others : List Char}
    (counts : before.count separator = other.count separator)
    (same : before ++ separator :: rest = other ++ separator :: others) :
    before = other ∧ rest = others := by
  induction before generalizing other with
  | nil =>
      cases other with
      | nil => exact ⟨rfl, (List.cons.inj same).2⟩
      | cons c other =>
          obtain ⟨rfl, -⟩ := List.cons.inj same
          simp at counts
  | cons c before induction =>
      cases other with
      | nil =>
          obtain ⟨rfl, -⟩ := List.cons.inj same
          simp at counts
      | cons d other =>
          obtain ⟨rfl, later⟩ := List.cons.inj same
          simp only [List.count_cons, Nat.add_right_cancel_iff] at counts
          obtain ⟨rfl, equal⟩ := induction counts later
          exact ⟨rfl, equal⟩

theorem intercalate_inj {separator : Char} {pieces others : List (List Char)}
    (counts : pieces.map (·.count separator) = others.map (·.count separator))
    (same : intercalate [separator] pieces = intercalate [separator] others) :
    pieces = others := by
  induction pieces generalizing others with
  | nil =>
      rw [List.map_nil] at counts
      exact (List.map_eq_nil_iff.mp counts.symm).symm
  | cons piece pieces induction =>
      cases others with
      | nil => cases counts
      | cons other others =>
          obtain ⟨count, counts⟩ := List.cons.inj counts
          match pieces, others with
          | [], [] => simpa [intercalate] using same
          | [], _ :: _ => cases counts
          | _ :: _, [] => cases counts
          | next :: pieces, following :: others =>
              rw [intercalate_cons, intercalate_cons, List.append_assoc, List.append_assoc] at same
              obtain ⟨first, later⟩ := append_cons_inj count same
              rw [first, induction counts later]

/-! Bytes. -/

theorem byteArray_toList (bytes : ByteArray) : bytes.toList = bytes.data.toList := by
  have from_place (place : Nat) (taken : List UInt8) :
      ByteArray.toList.loop bytes place taken =
        taken.reverse ++ bytes.data.toList.drop place := by
    induction place, taken using ByteArray.toList.loop.induct bytes with
    | case1 place taken within induction =>
        have next : bytes.data.toList.drop place =
            bytes.get! place :: bytes.data.toList.drop (place + 1) := by
          rw [List.drop_eq_getElem_cons within, Array.getElem_toList]
          exact congrArg (· :: _) (getElem!_pos bytes.data place within).symm
        rw [ByteArray.toList.loop, if_pos within, induction, next, List.reverse_cons,
          List.append_assoc, List.singleton_append]
    | case2 place taken past =>
        rw [ByteArray.toList.loop, if_neg past, List.drop_eq_nil_of_le (Nat.le_of_not_lt past),
          List.append_nil]
  exact from_place 0 []

end GigListings.Text
