import GigListings.Proofs.Text.Numeral

namespace GigListings.Text

/-! Readers that do not tell capital letters of ASCII from small ones: they read from a text in
small letters what they read from the text itself, in small letters. -/

/-- What holds alike of the capital and the small form of each letter takes no notice of case. -/
theorem apply_asciiLower {α : Type} (f : Char → α)
    (letters : ∀ code < 26, f (Char.ofNat (code + 97)) = f (Char.ofNat (code + 65))) (c : Char) :
    f (asciiLower c) = f c := by
  unfold asciiLower
  split
  · rename_i upper
    simp only [isAsciiUpper, Char.le_def, UInt32.le_iff_toNat_le, Bool.and_eq_true,
      decide_eq_true_eq] at upper
    have least : 65 ≤ c.toNat := upper.1
    have most : c.toNat ≤ 90 := upper.2
    have image := letters (c.toNat - 65) (by omega)
    rw [Nat.sub_add_cancel least, Char.ofNat_toNat] at image
    rw [← image]
    congr 2
    omega
  · rfl

theorem apply_eq_of_asciiLower_eq {p : Char → α} (caseless : ∀ c, p (asciiLower c) = p c)
    {c d : Char} (same : asciiLower c = asciiLower d) : p c = p d := by
  rw [← caseless, same, caseless]

theorem iff_asciiLower (P : Char → Prop) [DecidablePred P]
    (letters : ∀ code < 26, P (Char.ofNat (code + 97)) ↔ P (Char.ofNat (code + 65))) (c : Char) :
    P (asciiLower c) ↔ P c :=
  decide_eq_decide.mp
    (apply_asciiLower (fun c => decide (P c))
      (fun code small => decide_eq_decide.mpr (letters code small)) c)

theorem isBlank_asciiLower (c : Char) : isBlank (asciiLower c) = isBlank c :=
  apply_asciiLower isBlank (by decide) c

theorem isAsciiDigit_asciiLower (c : Char) : isAsciiDigit (asciiLower c) = isAsciiDigit c :=
  apply_asciiLower isAsciiDigit (by decide) c

theorem isDigit_asciiLower (c : Char) : isDigit (asciiLower c) = isDigit c :=
  apply_asciiLower isDigit (by decide) c

theorem isWord_asciiLower (c : Char) : isWord (asciiLower c) = isWord c :=
  apply_asciiLower isWord (by decide) c

theorem foldChar_asciiLower (c : Char) : foldChar (asciiLower c) = foldChar c :=
  apply_asciiLower foldChar (by decide) c

theorem asciiLower_asciiLower (c : Char) : asciiLower (asciiLower c) = asciiLower c :=
  apply_asciiLower asciiLower (by decide) c

def lowered (text : List Char) : List Char := text.map asciiLower

theorem lowered_cons (c : Char) (text : List Char) :
    lowered (c :: text) = asciiLower c :: lowered text := rfl

theorem lowered_append (text rest : List Char) :
    lowered (text ++ rest) = lowered text ++ lowered rest := List.map_append

/-! Scanning. -/

section Scan

variable {p : Char → Bool} (caseless : ∀ c, p (asciiLower c) = p c)
include caseless

theorem dropWhile_lowered (text : List Char) :
    (lowered text).dropWhile p = lowered (text.dropWhile p) := by
  have same : p ∘ asciiLower = p := funext caseless
  rw [lowered, List.dropWhile_map, same]
  rfl

theorem takeUpTo_lowered (most : Nat) (text : List Char) :
    takeUpTo p most (lowered text) =
      (lowered (takeUpTo p most text).1, lowered (takeUpTo p most text).2) := by
  induction most generalizing text with
  | zero => rfl
  | succ most induction =>
      cases text with
      | nil => rfl
      | cons c text =>
          simp only [lowered_cons, takeUpTo, caseless]
          split
          · rw [induction]
            rfl
          · rfl

theorem skipOne_lowered (text : List Char) :
    skipOne p (lowered text) = lowered (skipOne p text) := by
  cases text with
  | nil => rfl
  | cons c text =>
      simp only [lowered_cons, skipOne, caseless]
      split <;> rfl

end Scan

theorem skipBlanks_lowered (text : List Char) :
    skipBlanks (lowered text) = lowered (skipBlanks text) :=
  dropWhile_lowered isBlank_asciiLower text

theorem trim_lowered (text : List Char) : trim (lowered text) = lowered (trim text) := by
  have reversed (text : List Char) : (lowered text).reverse = lowered text.reverse :=
    List.map_reverse.symm
  simp only [trim, trimStart, trimEnd, dropWhile_lowered isBlank_asciiLower, reversed]

theorem afterBlanks?_lowered (text : List Char) :
    afterBlanks? (lowered text) = (afterBlanks? text).map lowered := by
  cases text with
  | nil => rfl
  | cons c text =>
      simp only [lowered_cons, afterBlanks?, isBlank_asciiLower, skipBlanks_lowered]
      split <;> rfl

theorem startsWithWord_lowered (text : List Char) :
    startsWithWord (lowered text) = startsWithWord text := by
  cases text with
  | nil => rfl
  | cons c text => exact isWord_asciiLower c

theorem afterFolded?_lowered (lead text : List Char) :
    afterFolded? foldChar lead (lowered text) = (afterFolded? foldChar lead text).map lowered := by
  induction lead generalizing text with
  | nil => rfl
  | cons c lead induction =>
      cases text with
      | nil => rfl
      | cons d text =>
          simp only [lowered_cons, afterFolded?, foldChar_asciiLower, induction]
          split <;> rfl

theorem number?_lowered (digits : List Char) : number? (lowered digits) = number? digits := by
  have all : (lowered digits).all isAsciiDigit = digits.all isAsciiDigit := by
    rw [lowered, List.all_map]
    exact congrArg (digits.all ·) (funext isAsciiDigit_asciiLower)
  have empty : lowered digits ≠ [] ↔ digits ≠ [] := not_congr List.map_eq_nil_iff
  simp only [number?, all, empty]
  split
  · rename_i numeral
    have same : lowered digits = digits := by
      rw [lowered]
      conv => rhs; rw [← List.map_id digits]
      exact List.map_congr_left fun c member =>
        of_isAsciiDigit (fun c => asciiLower c = c) (by decide)
          (List.all_eq_true.mp numeral.2 c member)
    rw [same]
  · rfl

end GigListings.Text
