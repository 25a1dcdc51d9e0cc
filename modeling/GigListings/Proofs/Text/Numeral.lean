import GigListings.Calendar.Date
import GigListings.Text.Scan
import Mathlib.Algebra.Group.Nat.Defs
import Mathlib.Data.List.Induction
import Mathlib.Tactic.ByContra

namespace GigListings

open Text

/-! Decimal numerals: what is written with digits is read back. -/

namespace Text

theorem isAsciiDigit_of_mem_toDigits {c : Char} {n : Nat} (member : c ∈ Nat.toDigits 10 n) :
    isAsciiDigit c = true :=
  Nat.isDigit_of_mem_toDigits (by decide) (by decide) member

def asciiDigits : List Char := ['0', '1', '2', '3', '4', '5', '6', '7', '8', '9']

theorem of_isAsciiDigit (P : Char → Prop) [DecidablePred P]
    (listed : asciiDigits.all (fun d => P d) = true) {c : Char}
    (digit : isAsciiDigit c = true) : P c := by
  have bounds : 48 ≤ c.toNat ∧ c.toNat ≤ 57 := by
    simpa [isAsciiDigit, Char.le_def, UInt32.le_iff_toNat_le] using digit
  have all : ∀ code ∈ List.range' 48 10, Char.ofNat code ∈ asciiDigits := by decide
  have member := all c.toNat (List.mem_range'_1.mpr (by omega))
  rw [Char.ofNat_toNat] at member
  simpa using List.all_eq_true.mp listed c member

theorem isBlank_of_isAsciiDigit {c : Char} (digit : isAsciiDigit c = true) : isBlank c = false :=
  of_isAsciiDigit (isBlank · = false) (by decide) digit

theorem isDigit_of_isAsciiDigit {c : Char} (digit : isAsciiDigit c = true) : isDigit c = true :=
  of_isAsciiDigit (isDigit · = true) (by decide) digit

theorem isWord_of_isAsciiDigit {c : Char} (digit : isAsciiDigit c = true) : isWord c = true :=
  of_isAsciiDigit (isWord · = true) (by decide) digit

def isNumeralStart (c : Char) : Bool := c == '+' || c == '-' || isAsciiDigit c

def numeralStarts : List Char := '+' :: '-' :: asciiDigits

theorem mem_numeralStarts {c : Char} (start : isNumeralStart c = true) : c ∈ numeralStarts := by
  simp only [isNumeralStart, Bool.or_eq_true, beq_iff_eq] at start
  rcases start with (rfl | rfl) | digit
  · decide
  · decide
  · exact of_isAsciiDigit (· ∈ numeralStarts) (by decide) digit

theorem of_isNumeralStart (P : Char → Prop) [DecidablePred P]
    (listed : numeralStarts.all (fun c => P c) = true) {c : Char}
    (start : isNumeralStart c = true) : P c := by
  simpa using List.all_eq_true.mp listed c (mem_numeralStarts start)

theorem isNumeralStart_of_isAsciiDigit {c : Char} (digit : isAsciiDigit c = true) :
    isNumeralStart c = true := by
  simp [isNumeralStart, digit]

theorem isNumeralStart_of_sign {sign : Char} (isSign : sign = '-' ∨ sign = '+') :
    isNumeralStart sign = true := by
  rcases isSign with rfl | rfl <;> rfl

theorem isBlank_of_isNumeralStart {c : Char} (start : isNumeralStart c = true) :
    isBlank c = false :=
  of_isNumeralStart (isBlank · = false) (by decide) start

theorem foldl_digits (digits : List Char) :
    digits.foldl (fun value c => value * 10 + (c.toNat - '0'.toNat)) 0 =
      Nat.ofDigitChars 10 digits 0 := by
  simp only [Nat.ofDigitChars_eq_foldl, Nat.mul_comm]

theorem number?_of_digits {digits : List Char} (nonempty : digits ≠ [])
    (allDigits : ∀ c ∈ digits, isAsciiDigit c = true) :
    number? digits = some (Nat.ofDigitChars 10 digits 0) := by
  unfold number?
  rw [if_pos ⟨nonempty, List.all_eq_true.mpr allDigits⟩, foldl_digits]

theorem ofDigitChars_lt {digits : List Char} (allDigits : ∀ c ∈ digits, isAsciiDigit c = true) :
    Nat.ofDigitChars 10 digits 0 < 10 ^ digits.length := by
  induction digits with
  | nil => simp
  | cons c digits induction =>
      have digit : c.toNat ≤ 57 := by
        have := allDigits c (by simp)
        simp only [isAsciiDigit, Char.le_def, UInt32.le_iff_toNat_le, Bool.and_eq_true,
          decide_eq_true_eq] at this
        exact this.2
      have others := induction fun d member => allDigits d (by simp [member])
      have zero : '0'.toNat = 48 := rfl
      rw [Nat.ofDigitChars_cons, Nat.ofDigitChars_eq_ofDigitChars_zero, List.length_cons,
        Nat.pow_succ, zero]
      have lead : 10 ^ digits.length * (10 * 0 + (c.toNat - 48)) ≤ 10 ^ digits.length * 9 :=
        Nat.mul_le_mul_left _ (by omega)
      omega

theorem toDigits_leading_zero {n : Nat} {digits : List Char}
    (equation : Nat.toDigits 10 n = '0' :: digits) : digits = [] := by
  cases digits with
  | nil => rfl
  | cons d digits =>
      have allDigits : ∀ c ∈ d :: digits, isAsciiDigit c = true := fun c member =>
        isAsciiDigit_of_mem_toDigits (n := n)
          (by rw [equation]; exact List.mem_cons_of_mem _ member)
      have value := Nat.ofDigitChars_ten_toDigits (n := n)
      rw [equation, Nat.ofDigitChars_cons] at value
      have small := ofDigitChars_lt allDigits
      rw [show 10 * 0 + ('0'.toNat - '0'.toNat) = 0 from rfl] at value
      rw [value] at small
      have length := (Nat.length_toDigits_le_iff (b := 10) (by decide) (by simp)).mpr small
      rw [equation, List.length_cons] at length
      omega

/-! Base 16. -/

theorem hexDigit?_digitChar (digit : Nat) (small : digit < 16) :
    hexDigit? (Nat.digitChar digit) = some digit := by
  have all : ∀ digit < 16, hexDigit? (Nat.digitChar digit) = some digit := by decide
  exact all digit small

/-- What is written in base 16 is read back, and it has no more digits than it needs. -/
theorem hexValue_toDigits (n : Nat) : hexValue (Nat.toDigits 16 n) = n := by
  induction n using Nat.strongRecOn with
  | ind n induction =>
      by_cases small : n < 16
      · rw [Nat.toDigits_of_lt_base small, hexValue, List.foldl_cons, List.foldl_nil,
          hexDigit?_digitChar n small]
        exact Nat.zero_add n
      · have digit : n % 16 < 16 := Nat.mod_lt n (by decide)
        rw [Nat.toDigits_of_base_le (by decide) (Nat.le_of_not_lt small), hexValue,
          List.foldl_append, ← hexValue, induction (n / 16) (by omega), List.foldl_cons,
          List.foldl_nil, hexDigit?_digitChar _ digit]
        exact Nat.div_add_mod' n 16

theorem exists_of_mem_toDigits_hex {n : Nat} {c : Char} (member : c ∈ Nat.toDigits 16 n) :
    ∃ digit < 16, c = Nat.digitChar digit := by
  induction n using Nat.strongRecOn with
  | ind n induction =>
      by_cases small : n < 16
      · rw [Nat.toDigits_of_lt_base small, List.mem_singleton] at member
        exact ⟨n, small, member⟩
      · rw [Nat.toDigits_of_base_le (by decide) (Nat.le_of_not_lt small), List.mem_append,
          List.mem_singleton] at member
        rcases member with before | last
        · exact induction (n / 16) (by omega) before
        · exact ⟨n % 16, Nat.mod_lt n (by decide), last⟩

theorem hexDigit?_lt {c : Char} {digit : Nat} (found : hexDigit? c = some digit) : digit < 16 := by
  unfold hexDigit? at found
  simp only [Char.le_def, UInt32.le_iff_toNat_le] at found
  have code (d : Char) : d.val.toNat = d.toNat := rfl
  have codes : '0'.toNat = 48 ∧ '9'.toNat = 57 ∧ 'a'.toNat = 97 ∧ 'f'.toNat = 102 ∧
      'A'.toNat = 65 ∧ 'F'.toNat = 70 := by decide
  simp only [code, codes] at found
  split at found
  · have := Option.some.inj found
    omega
  · split at found
    · have := Option.some.inj found
      omega
    · split at found
      · have := Option.some.inj found
        omega
      · cases found

theorem hexValue_lt (digits : List Char) : hexValue digits < 16 ^ digits.length := by
  induction digits using List.reverseRecOn with
  | nil => decide
  | append_singleton digits c induction =>
      rw [hexValue, List.foldl_append, ← hexValue, List.length_append, List.length_singleton,
        Nat.pow_succ, List.foldl_cons, List.foldl_nil]
      split
      · rename_i digit found
        have small := hexDigit?_lt found
        omega
      · omega

/-! Runs of characters. -/

theorem takeUpTo_append_rest (p : Char → Bool) {taken : List Char} (rest : List Char)
    (allTaken : ∀ c ∈ taken, p c = true) :
    takeUpTo p taken.length (taken ++ rest) = (taken, rest) := by
  induction taken with
  | nil => rfl
  | cons c taken induction =>
      have first : p c = true := allTaken c (by simp)
      have others := induction fun d member => allTaken d (by simp [member])
      simp only [List.length_cons, List.cons_append, takeUpTo, first, if_true, others]

theorem takeUpTo_append_stop (p : Char → Bool) {taken rest : List Char} {most : Nat}
    (allTaken : ∀ c ∈ taken, p c = true) (room : taken.length ≤ most)
    (stops : rest.head?.any p = false) :
    takeUpTo p most (taken ++ rest) = (taken, rest) := by
  induction taken generalizing most with
  | nil =>
      cases most with
      | zero => rfl
      | succ most =>
          cases rest with
          | nil => rfl
          | cons stop rest =>
              have stop : p stop = false := stops
              simp [takeUpTo, stop]
  | cons c taken induction =>
      cases most with
      | zero => exact absurd room (by simp)
      | succ most =>
          have first : p c = true := allTaken c (by simp)
          have others := induction (fun d member => allTaken d (by simp [member]))
            (Nat.le_of_succ_le_succ room)
          simp only [List.cons_append, takeUpTo, first, if_true, others]

theorem takeRun_append {p : Char → Bool} {taken rest : List Char}
    (allTaken : ∀ c ∈ taken, p c = true) (stops : ∀ c ∈ rest.head?, p c = false) :
    takeRun p (taken ++ rest) = (taken, rest) := by
  rw [takeRun, List.takeWhile_append_of_pos allTaken, List.dropWhile_append_of_pos allTaken]
  cases rest with
  | nil => simp
  | cons c rest =>
      have stop : ¬p c = true := by simp [stops c rfl]
      rw [List.takeWhile_cons_of_neg stop, List.dropWhile_cons_of_neg stop, List.append_nil]

theorem exists_digits_of_number? {digits : List Char} {n : Nat} (read : number? digits = some n) :
    digits ≠ [] ∧ ∀ c ∈ digits, isAsciiDigit c = true := by
  unfold number? at read
  split at read
  · rename_i numeral
    exact ⟨numeral.1, List.all_eq_true.mp numeral.2⟩
  · cases read

theorem exists_digits_of_readNumber {least most n : Nat} {text rest : List Char}
    (read : readNumber least most text = some (n, rest)) :
    ∃ digits, digits ≠ [] ∧ (∀ c ∈ digits, isAsciiDigit c = true) ∧ text = digits ++ rest := by
  simp only [readNumber] at read
  split at read
  · cases read
  · obtain ⟨value, number, same⟩ := Option.map_eq_some_iff.mp read
    cases same
    obtain ⟨nonempty, allDigits⟩ := exists_digits_of_number? number
    exact ⟨_, nonempty, allDigits, (takeUpTo_append isAsciiDigit most text).symm⟩

theorem length_takeUpTo_le (p : Char → Bool) (most : Nat) (text : List Char) :
    (takeUpTo p most text).1.length ≤ most := by
  induction most generalizing text with
  | zero => exact Nat.le_refl 0
  | succ most induction =>
      cases text with
      | nil => exact Nat.zero_le _
      | cons c rest =>
          rw [takeUpTo]
          split
          · exact Nat.succ_le_succ (induction rest)
          · exact Nat.zero_le _

theorem readNumber_lt {least most n : Nat} {text rest : List Char}
    (read : readNumber least most text = some (n, rest)) : n < 10 ^ most := by
  have length := length_takeUpTo_le isAsciiDigit most text
  simp only [readNumber] at read
  split at read
  · cases read
  · obtain ⟨value, number, same⟩ := Option.map_eq_some_iff.mp read
    cases same
    obtain ⟨nonempty, allDigits⟩ := exists_digits_of_number? number
    rw [number?_of_digits nonempty allDigits] at number
    cases number
    exact Nat.lt_of_lt_of_le (ofDigitChars_lt allDigits) (Nat.pow_le_pow_right (by decide) length)

theorem isAsciiLower_of_isDigit {c : Char} (digit : isDigit c = true) : isAsciiLower c = false := by
  by_contra lower
  have bounds : 97 ≤ c.toNat ∧ c.toNat ≤ 122 := by
    simpa [isAsciiLower, Char.le_def, UInt32.le_iff_toNat_le] using lower
  rw [isDigit, if_pos (by omega)] at digit
  have code : 48 ≤ c.toNat ∧ c.toNat ≤ 57 := by
    simpa [isAsciiDigit, Char.le_def, UInt32.le_iff_toNat_le] using digit
  omega

end Text

theorem isAsciiDigit_of_mem_padded {c : Char} {width n : Nat} (member : c ∈ padded width n) :
    isAsciiDigit c = true := by
  rcases List.mem_append.mp member with zero | digit
  · rw [List.eq_of_mem_replicate zero]
    rfl
  · exact isAsciiDigit_of_mem_toDigits digit

theorem padded_ne_nil (width n : Nat) : padded width n ≠ [] := by
  intro empty
  exact Nat.toDigits_ne_nil (List.append_eq_nil_iff.mp empty).2

theorem ofDigitChars_padded (width n : Nat) : Nat.ofDigitChars 10 (padded width n) 0 = n := by
  unfold padded
  rw [Nat.ofDigitChars_append, Nat.ofDigitChars_replicate_zero, Nat.mul_zero,
    Nat.ofDigitChars_ten_toDigits]

theorem number?_padded (width n : Nat) : number? (padded width n) = some n := by
  rw [number?_of_digits (padded_ne_nil width n) fun _ => isAsciiDigit_of_mem_padded,
    ofDigitChars_padded]

theorem length_padded {width n : Nat} (wide : 0 < width) (small : n < 10 ^ width) :
    (padded width n).length = width := by
  have digits := (Nat.length_toDigits_le_iff (b := 10) (by decide) wide).mpr small
  simp only [padded, List.length_append, List.length_replicate]
  omega

theorem readNumber_padded {width n : Nat} (wide : 0 < width) (small : n < 10 ^ width)
    (rest : List Char) : readNumber width width (padded width n ++ rest) = some (n, rest) := by
  have length := length_padded wide small
  have taken := takeUpTo_append_rest isAsciiDigit rest
    (fun c (member : c ∈ padded width n) => isAsciiDigit_of_mem_padded member)
  rw [length] at taken
  simp only [readNumber, taken, length, Nat.lt_irrefl, if_false, number?_padded, Option.map_some]

theorem readNumber_padded_stop {least most width n : Nat} {rest : List Char}
    (enough : least ≤ (padded width n).length) (room : (padded width n).length ≤ most)
    (stops : rest.head?.any isAsciiDigit = false) :
    readNumber least most (padded width n ++ rest) = some (n, rest) := by
  have taken : takeUpTo isAsciiDigit most (padded width n ++ rest) = (padded width n, rest) :=
    takeUpTo_append_stop isAsciiDigit (fun _ => isAsciiDigit_of_mem_padded) room stops
  simp only [readNumber, taken, if_neg (Nat.not_lt.mpr enough), number?_padded, Option.map_some]

end GigListings
