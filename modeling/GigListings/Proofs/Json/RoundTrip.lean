import GigListings.Proofs.Json.Numeral
import GigListings.Proofs.Json.Printable
import GigListings.Proofs.Json.Spread

namespace GigListings

/-! What is printed as JSON is read as the same value. -/

open Number Text

namespace Json

/-! Strings. -/

theorem readEscapedUnit_hexPair {n : Nat} (small : n < 32) (rest : List Char) :
    readEscapedUnit ('0' :: '0' :: (hexPair n ++ rest)) = some (Char.ofNat n, rest) := by
  have zero : hexDigit? '0' = some 0 := rfl
  have high := hexDigit?_digitChar (n / 16 % 16) (by omega)
  have low := hexDigit?_digitChar (n % 16) (by omega)
  have value : ((0 * 16 + 0) * 16 + n / 16 % 16) * 16 + n % 16 = n := by omega
  simp only [readEscapedUnit, readUnit, hexPair, List.cons_append, List.nil_append, zero, high, low,
    value]
  rw [if_pos (Or.inl (by omega))]

theorem readString_escapeChar (c : Char) (fuel : Nat) (read rest : List Char) :
    readString (fuel + 1) read (escapeChar c ++ rest) = readString fuel (c :: read) rest := by
  unfold escapeChar
  split
  · rename_i quote
    subst quote
    rfl
  · rename_i notQuote
    split
    · rename_i backslash
      subst backslash
      rfl
    · rename_i notBackslash
      split
      · rename_i backspace
        subst backspace
        rfl
      · split
        · rename_i feed
          subst feed
          rfl
        · split
          · rename_i line
            subst line
            rfl
          · split
            · rename_i carriage
              subst carriage
              rfl
            · split
              · rename_i tab
                subst tab
                rfl
              · split
                · rename_i control
                  have escaped := readEscapedUnit_hexPair control rest
                  rw [Char.ofNat_toNat] at escaped
                  simp only [readString, List.cons_append, readEscape, escaped]
                  simp
                · rename_i printable
                  simp only [List.cons_append, List.nil_append, readString, notQuote, notBackslash,
                    printable, if_false]

theorem readString_flatMap (text read rest : List Char) {fuel : Nat} (room : text.length < fuel) :
    readString fuel read (text.flatMap escapeChar ++ '"' :: rest) =
      some (String.ofList (read.reverse ++ text), rest) := by
  induction text generalizing fuel read with
  | nil =>
      cases fuel with
      | zero => omega
      | succ fuel => simp [readString]
  | cons c text induction =>
      cases fuel with
      | zero => omega
      | succ fuel =>
          rw [List.flatMap_cons, List.append_assoc, readString_escapeChar,
            induction (c :: read) (Nat.lt_of_succ_lt_succ room)]
          simp

theorem length_escapeChar_pos (c : Char) : 0 < (escapeChar c).length := by
  unfold escapeChar
  repeat' split
  all_goals simp

theorem length_le_flatMap_escapeChar (text : List Char) :
    text.length ≤ (text.flatMap escapeChar).length := by
  induction text with
  | nil => exact Nat.le_refl _
  | cons c text induction =>
      have positive := length_escapeChar_pos c
      rw [List.flatMap_cons, List.length_append, List.length_cons]
      omega

/-- The rest of a quoted text after its first quotation mark. -/
theorem readString_quote (text : String) (rest : List Char) :
    ∃ tail, quote text ++ rest = '"' :: tail ∧
      readString (tail.length + 1) [] tail = some (text, rest) := by
  refine ⟨text.toList.flatMap escapeChar ++ '"' :: rest, by simp [quote], ?_⟩
  have long := length_le_flatMap_escapeChar text.toList
  rw [readString_flatMap _ _ _ (by simp only [List.length_append, List.length_cons]; omega)]
  simp

/-! Values. -/

theorem skipSpace_cons {c : Char} (solid : isSpace c = false) (rest : List Char) :
    skipSpace (c :: rest) = c :: rest := by
  simp [skipSpace, solid]

theorem skipSpace_append {blanks : List Char} (blank : ∀ c ∈ blanks, isSpace c = true)
    (rest : List Char) : skipSpace (blanks ++ rest) = skipSpace rest :=
  List.dropWhile_append_of_pos blank

def startsNumber (c : Char) : Bool := c == '-' || isAsciiDigit c

theorem isSpace_of_startsNumber {c : Char} (starts : startsNumber c = true) :
    isSpace c = false := by
  simp only [startsNumber, Bool.or_eq_true, beq_iff_eq] at starts
  rcases starts with rfl | digit
  · rfl
  · by_contra space
    simp only [isSpace, Bool.not_eq_false, Bool.or_eq_true, beq_iff_eq] at space
    rcases space with ((rfl | rfl) | rfl) | rfl
    all_goals cases digit

theorem readValue_number {c : Char} (starts : startsNumber c = true) (fuel depth : Nat)
    (rest : List Char) : readValue (fuel + 1) depth (c :: rest) = readNumber (c :: rest) := by
  unfold readValue
  rw [skipSpace_cons (isSpace_of_startsNumber starts)]
  split
  all_goals first
    | rfl
    | (rename_i equation
       cases equation
       cases starts)

theorem IsWhole.exists_cons {whole : List Char} (isWhole : IsWhole whole) :
    ∃ c rest, whole = c :: rest ∧ startsNumber c = true := by
  cases whole with
  | nil => exact absurd rfl isWhole.nonempty
  | cons c rest =>
      refine ⟨c, rest, rfl, ?_⟩
      rw [startsNumber, isWhole.digits c (by simp), Bool.or_true]

theorem exists_intText_cons (value : Int) :
    ∃ c rest, intText value = c :: rest ∧ startsNumber c = true := by
  cases value with
  | ofNat n => exact (isWhole_toDigits n).exists_cons
  | negSucc n => exact ⟨'-', _, rfl, rfl⟩

theorem exists_realText_cons {x : Binary64} (finite : x.isFinite = true) :
    ∃ c rest, realText x = c :: rest ∧ startsNumber c = true := by
  obtain ⟨negative, whole, fraction, scale, text, isWhole, -, -⟩ := exists_realText finite
  rw [text]
  cases negative with
  | false =>
      obtain ⟨c, rest, rfl, starts⟩ := isWhole.exists_cons
      exact ⟨c, _, rfl, starts⟩
  | true => exact ⟨'-', _, rfl, rfl⟩

theorem readValue_blank {blanks : List Char} (blank : ∀ c ∈ blanks, isSpace c = true)
    (fuel depth : Nat) (rest : List Char) :
    readValue fuel depth (blanks ++ rest) = readValue fuel depth rest := by
  cases fuel with
  | zero => rw [readValue, readValue]
  | succ fuel => rw [readValue, readValue, skipSpace_append blank]

theorem readItems_blank {blanks : List Char} (blank : ∀ c ∈ blanks, isSpace c = true)
    (fuel depth : Nat) (read : List Json) (rest : List Char) :
    readItems fuel depth read (blanks ++ rest) = readItems fuel depth read rest := by
  cases fuel with
  | zero => rw [readItems, readItems]
  | succ fuel => rw [readItems, readItems, readValue_blank blank]

theorem readMembers_blank {blanks : List Char} (blank : ∀ c ∈ blanks, isSpace c = true)
    (fuel depth : Nat) (read : Members) (rest : List Char) :
    readMembers fuel depth read (blanks ++ rest) = readMembers fuel depth read rest := by
  cases fuel with
  | zero => rw [readMembers, readMembers]
  | succ fuel => rw [readMembers, readMembers, skipSpace_append blank]

section Written

variable (spread : Spread)

theorem exists_chars_cons (level : Nat) {depth : Nat} {value : Json}
    (printable : value.Printable depth) :
    ∃ c rest, spread.chars level value = c :: rest ∧ isSpace c = false ∧ c ≠ ']' := by
  have ofNumber {text : List Char}
      (number : ∃ c rest, text = c :: rest ∧ startsNumber c = true) :
      ∃ c rest, text = c :: rest ∧ isSpace c = false ∧ c ≠ ']' := by
    obtain ⟨c, rest, rfl, starts⟩ := number
    refine ⟨c, rest, rfl, isSpace_of_startsNumber starts, ?_⟩
    rintro rfl
    cases starts
  cases value with
  | null => exact ⟨_, _, rfl, rfl, by decide⟩
  | bool value =>
      cases value with
      | false => exact ⟨_, _, rfl, rfl, by decide⟩
      | true => exact ⟨_, _, rfl, rfl, by decide⟩
  | int value => exact ofNumber (exists_intText_cons value)
  | real value =>
      rw [Printable] at printable
      exact ofNumber (exists_realText_cons printable)
  | str text => exact ⟨_, _, rfl, rfl, by decide⟩
  | arr items =>
      cases items with
      | nil => exact ⟨_, _, rfl, rfl, by decide⟩
      | cons item items => exact ⟨_, _, rfl, rfl, by decide⟩
  | obj members =>
      cases members with
      | nil => exact ⟨_, _, rfl, rfl, by decide⟩
      | cons entry rest => exact ⟨_, _, rfl, rfl, by decide⟩

/-- Whether a value is read from what is written for it, if a number would end behind it. -/
def ReadsBack (value : Json) : Prop :=
  ∀ level fuel depth rest, value.Printable depth → EndsNumber rest →
    (spread.chars level value).length ≤ fuel →
    readValue fuel depth (spread.chars level value ++ rest) = some (value, rest)

end Written

theorem endsNumber_cons {c : Char} (closing : c = ',' ∨ c = ']' ∨ c = '\x7d') (rest : List Char) :
    EndsNumber (c :: rest) := by
  rintro d first
  cases first
  rcases closing with rfl | rfl | rfl
  · decide
  · decide
  · decide

theorem endsNumber_of_isSpace {c : Char} (space : isSpace c = true) (rest : List Char) :
    EndsNumber (c :: rest) := by
  rintro d first
  cases first
  simp only [isSpace, Bool.or_eq_true, beq_iff_eq] at space
  rcases space with ((rfl | rfl) | rfl) | rfl
  all_goals decide

theorem endsNumber_blank {blanks : List Char} (blank : ∀ c ∈ blanks, isSpace c = true) {c : Char}
    (closing : c = ',' ∨ c = ']' ∨ c = '\x7d') (rest : List Char) :
    EndsNumber (blanks ++ c :: rest) := by
  cases blanks with
  | nil => exact endsNumber_cons closing rest
  | cons space blanks => exact endsNumber_of_isSpace (blank space List.mem_cons_self) _

section Items

variable {item : Json} {fuel depth : Nat} {read : List Json} {text after rest : List Char}

theorem readItems_next (first : readValue fuel depth text = some (item, after))
    (comma : skipSpace after = ',' :: rest) :
    readItems (fuel + 1) depth read text = readItems fuel depth (item :: read) rest := by
  simp only [readItems, first, comma]

theorem readItems_last (first : readValue fuel depth text = some (item, after))
    (closing : skipSpace after = ']' :: rest) :
    readItems (fuel + 1) depth read text = some ((item :: read).reverse, rest) := by
  simp only [readItems, first, closing]

end Items

variable {spread : Spread}

/-- The items that are left are read behind those read before. -/
theorem readItems_itemChars (level : Nat) {item : Json} {items : List Json}
    (each : ∀ x ∈ item :: items, ReadsBack spread x) {fuel depth : Nat} (read : List Json)
    (rest : List Char) (printable : ∀ x ∈ item :: items, x.Printable depth)
    (room : (spread.chars (level + 1) item ++ spread.itemChars level items).length ≤ fuel) :
    readItems fuel depth read
        (spread.chars (level + 1) item ++ (spread.itemChars level items ++ rest)) =
      some (read.reverse ++ item :: items, rest) := by
  -- One unit of fuel goes with each item, and each item is written with one character at least.
  induction items generalizing item read fuel with
  | nil =>
      simp only [Spread.itemChars, List.length_append, List.length_singleton] at room
      cases fuel with
      | zero => omega
      | succ fuel =>
          have blank := spread.lineStart_blank level
          have first := each item List.mem_cons_self (level + 1) fuel depth
            (spread.lineStart level ++ ']' :: rest) (printable item List.mem_cons_self)
            (endsNumber_blank blank (by decide) rest) (by omega)
          have closing : skipSpace (spread.lineStart level ++ ']' :: rest) = ']' :: rest := by
            rw [skipSpace_append blank, skipSpace_cons rfl]
          rw [Spread.itemChars, List.append_assoc, List.singleton_append,
            readItems_last first closing]
          simp
  | cons next items induction =>
      simp only [Spread.itemChars, List.length_append, List.length_cons] at room
      cases fuel with
      | zero => omega
      | succ fuel =>
          have first := each item List.mem_cons_self (level + 1) fuel depth
            (',' :: (spread.lineStart (level + 1) ++ (spread.chars (level + 1) next ++
              (spread.itemChars level items ++ rest)))) (printable item List.mem_cons_self)
            (endsNumber_cons (by decide) _) (by omega)
          have others := induction (fun x member => each x (List.mem_cons_of_mem _ member))
            (item :: read) (fun x member => printable x (List.mem_cons_of_mem _ member))
            (show (spread.chars (level + 1) next ++ spread.itemChars level items).length ≤ fuel by
              rw [List.length_append]
              omega)
          rw [Spread.itemChars, List.cons_append, List.append_assoc, List.append_assoc,
            readItems_next first (skipSpace_cons rfl _),
            readItems_blank (spread.lineStart_blank _), others]
          simp

theorem not_mem_names_of_nodup {key : String} {value : Json} {read members : Members}
    (distinct : ((read ++ (key, value) :: members).map Prod.fst).Nodup) :
    key ∉ read.map Prod.fst := by
  rw [List.map_append, List.nodup_append] at distinct
  exact fun member => distinct.2.2 key member key (by simp) rfl

/-! A member with a new name is put behind those read before. -/

section Members

variable {key : String} {value : Json} {fuel depth : Nat} {read : Members}
  {text after rest : List Char}

theorem readMembers_next (new : key ∉ read.map Prod.fst)
    (first : readValue fuel depth text = some (value, after))
    (comma : skipSpace after = ',' :: rest) :
    readMembers (fuel + 1) depth read (quote key ++ ':' :: text) =
      readMembers fuel depth (read ++ [(key, value)]) rest := by
  obtain ⟨tail, quoted, named⟩ := readString_quote key (':' :: text)
  have start : skipSpace ('"' :: tail) = '"' :: tail := skipSpace_cons rfl tail
  have colon : skipSpace (':' :: text) = ':' :: text := skipSpace_cons rfl text
  simp only [quoted, readMembers, start, named, colon, first, comma,
    Members.insert_of_new value new]

theorem readMembers_last (new : key ∉ read.map Prod.fst)
    (first : readValue fuel depth text = some (value, after))
    (closing : skipSpace after = '\x7d' :: rest) :
    readMembers (fuel + 1) depth read (quote key ++ ':' :: text) =
      some (read ++ [(key, value)], rest) := by
  obtain ⟨tail, quoted, named⟩ := readString_quote key (':' :: text)
  have start : skipSpace ('"' :: tail) = '"' :: tail := skipSpace_cons rfl tail
  have colon : skipSpace (':' :: text) = ':' :: text := skipSpace_cons rfl text
  simp only [quoted, readMembers, start, named, colon, first, closing,
    Members.insert_of_new value new]

end Members

/-- The members that are left are read behind those read before. -/
theorem readMembers_memberChars (level : Nat) {key : String} {value : Json} {members : Members}
    (each : ∀ entry ∈ (key, value) :: members, ReadsBack spread entry.2) {fuel depth : Nat}
    (read : Members) (rest : List Char)
    (distinct : ((read ++ (key, value) :: members).map Prod.fst).Nodup)
    (printable : ∀ entry ∈ (key, value) :: members, entry.2.Printable depth)
    (room : (quote key ++ ':' :: (spread.gap ++ (spread.chars (level + 1) value ++
      spread.memberChars level members))).length ≤ fuel) :
    readMembers fuel depth read
        (quote key ++ ':' :: (spread.gap ++ (spread.chars (level + 1) value ++
          (spread.memberChars level members ++ rest)))) =
      some (read ++ (key, value) :: members, rest) := by
  have new := not_mem_names_of_nodup distinct
  have valueReadsBack : ReadsBack spread value := each (key, value) List.mem_cons_self
  have valuePrintable : value.Printable depth := printable (key, value) List.mem_cons_self
  induction members generalizing key value read fuel with
  | nil =>
      simp only [Spread.memberChars, List.length_append, List.length_cons, List.length_nil] at room
      cases fuel with
      | zero => omega
      | succ fuel =>
          have blank := spread.lineStart_blank level
          have first := valueReadsBack (level + 1) fuel depth
            (spread.lineStart level ++ '\x7d' :: rest) valuePrintable
            (endsNumber_blank blank (by decide) rest) (by omega)
          rw [← readValue_blank spread.gap_blank] at first
          have closing : skipSpace (spread.lineStart level ++ '\x7d' :: rest) = '\x7d' :: rest := by
            rw [skipSpace_append blank, skipSpace_cons rfl]
          rw [Spread.memberChars, List.append_assoc, List.singleton_append]
          exact readMembers_last new first closing
  | cons next members induction =>
      obtain ⟨nextKey, nextValue⟩ := next
      simp only [Spread.memberChars, List.length_append, List.length_cons] at room
      cases fuel with
      | zero => omega
      | succ fuel =>
          have first := valueReadsBack (level + 1) fuel depth
            (',' :: (spread.lineStart (level + 1) ++ (quote nextKey ++ ':' :: (spread.gap ++
              (spread.chars (level + 1) nextValue ++ (spread.memberChars level members ++ rest))))))
            valuePrintable (endsNumber_cons (by decide) _) (by omega)
          rw [← readValue_blank spread.gap_blank] at first
          have laterDistinct : (((read ++ [(key, value)]) ++ (nextKey, nextValue) :: members).map
              Prod.fst).Nodup := by
            simpa using distinct
          have others := induction (fun entry member => each entry (List.mem_cons_of_mem _ member))
            (read ++ [(key, value)]) laterDistinct
            (fun entry member => printable entry (List.mem_cons_of_mem _ member))
            (show (quote nextKey ++ ':' :: (spread.gap ++ (spread.chars (level + 1) nextValue ++
                spread.memberChars level members))).length ≤ fuel by
              simp only [List.length_append, List.length_cons]
              omega)
            (not_mem_names_of_nodup laterDistinct)
            (each (nextKey, nextValue) (by simp)) (printable (nextKey, nextValue) (by simp))
          simp only [Spread.memberChars, List.cons_append, List.append_assoc]
          rw [readMembers_next new first (skipSpace_cons rfl _),
            readMembers_blank (spread.lineStart_blank _), others]
          simp

/-- Every value is written with a character at least, so there is fuel to read it. -/
theorem readsBack_of_readValue {value : Json}
    (reads : ∀ level fuel depth rest, value.Printable depth → EndsNumber rest →
      readValue (fuel + 1) depth (spread.chars level value ++ rest) = some (value, rest)) :
    ReadsBack spread value := by
  intro level fuel depth rest printable ends room
  cases fuel with
  | zero =>
      obtain ⟨c, tail, text, -⟩ := exists_chars_cons spread level printable
      rw [text] at room
      cases room
  | succ fuel => exact reads level fuel depth rest printable ends

theorem readsBack_null : ReadsBack spread null := by
  refine readsBack_of_readValue fun level fuel depth rest _ _ => ?_
  simp only [Spread.chars, scalarText, List.cons_append, List.nil_append, readValue]
  rw [skipSpace_cons rfl]
  rfl

theorem readsBack_bool (value : Bool) : ReadsBack spread (bool value) := by
  refine readsBack_of_readValue fun level fuel depth rest _ _ => ?_
  cases value with
  | false =>
      simp only [Spread.chars, scalarText, List.cons_append, List.nil_append, readValue]
      rw [skipSpace_cons rfl]
      rfl
  | true =>
      simp only [Spread.chars, scalarText, List.cons_append, List.nil_append, readValue]
      rw [skipSpace_cons rfl]
      rfl

theorem readsBack_number {value : Json} {text : List Char}
    (written : ∀ level, spread.chars level value = text)
    (begins : ∀ depth, value.Printable depth → ∃ c rest, text = c :: rest ∧ startsNumber c = true)
    (reads : ∀ depth rest, value.Printable depth → EndsNumber rest →
      readNumber (text ++ rest) = some (value, rest)) :
    ReadsBack spread value := by
  refine readsBack_of_readValue fun level fuel depth rest printable ends => ?_
  have read := reads depth rest printable ends
  obtain ⟨c, digits, rfl, starts⟩ := begins depth printable
  rw [written, List.cons_append, readValue_number starts, ← List.cons_append, read]

theorem readsBack_int (value : Int) : ReadsBack spread (int value) := by
  refine readsBack_number (fun _ => rfl) (fun _ _ => exists_intText_cons value) ?_
  intro depth rest printable ends
  rw [Printable] at printable
  exact readNumber_intText printable.1 printable.2 ends

theorem readsBack_real (value : Binary64) : ReadsBack spread (real value) := by
  refine readsBack_number (fun _ => rfl) (fun depth printable => ?_) ?_
  · rw [Printable] at printable
    exact exists_realText_cons printable
  · intro depth rest printable ends
    rw [Printable] at printable
    exact readNumber_realText printable ends

theorem readsBack_str (text : String) : ReadsBack spread (str text) := by
  refine readsBack_of_readValue fun level fuel depth rest _ _ => ?_
  obtain ⟨tail, quoted, read⟩ := readString_quote text rest
  have written : spread.chars level (str text) = quote text := rfl
  rw [written, quoted]
  simp only [readValue]
  rw [skipSpace_cons rfl]
  simp only [read]
  rfl

theorem readsBack_arr {items : List Json} (each : ∀ item ∈ items, ReadsBack spread item) :
    ReadsBack spread (arr items) := by
  intro level fuel depth rest printable ends room
  cases depth with
  | zero => exact absurd printable.1 (by decide)
  | succ depth =>
      rw [printable_arr] at printable
      cases items with
      | nil =>
          cases fuel with
          | zero => cases room
          | succ fuel =>
              simp only [Spread.chars, List.cons_append, List.nil_append, readValue]
              rw [skipSpace_cons rfl]
              simp only
              rw [skipSpace_cons rfl]
              rfl
      | cons item items =>
          simp only [Spread.chars, List.length_cons, List.length_append] at room
          cases fuel with
          | zero => cases room
          | succ fuel =>
              have read := readItems_itemChars level each [] rest printable
                (show _ ≤ fuel by rw [List.length_append]; omega)
              obtain ⟨c, tail, text, solid, notEnd⟩ := exists_chars_cons spread (level + 1)
                (printable item List.mem_cons_self)
              rw [text, List.cons_append] at read
              simp only [Spread.chars, List.cons_append, List.append_assoc, readValue]
              rw [skipSpace_cons rfl, text]
              simp only [List.cons_append]
              rw [skipSpace_append (spread.lineStart_blank _), skipSpace_cons solid]
              split
              · rename_i equation
                cases equation
                exact absurd rfl notEnd
              · rw [read]
                rfl

theorem readsBack_obj {members : Members} (each : ∀ entry ∈ members, ReadsBack spread entry.2) :
    ReadsBack spread (obj members) := by
  intro level fuel depth rest printable ends room
  cases depth with
  | zero => exact absurd printable.1 (by decide)
  | succ depth =>
      rw [printable_obj] at printable
      obtain ⟨distinct, printable⟩ := printable
      cases members with
      | nil =>
          cases fuel with
          | zero => cases room
          | succ fuel =>
              simp only [Spread.chars, List.cons_append, List.nil_append, readValue]
              rw [skipSpace_cons rfl]
              simp only
              rw [skipSpace_cons rfl]
              rfl
      | cons entry members =>
          obtain ⟨key, value⟩ := entry
          simp only [Spread.chars, List.length_cons, List.length_append] at room
          cases fuel with
          | zero => cases room
          | succ fuel =>
              have read := readMembers_memberChars level each [] rest (by simpa using distinct)
                printable (show _ ≤ fuel by
                  simp only [List.length_append, List.length_cons]
                  omega)
              obtain ⟨tail, quoted, -⟩ := readString_quote key (':' :: (spread.gap ++
                (spread.chars (level + 1) value ++ (spread.memberChars level members ++ rest))))
              rw [quoted] at read
              simp only [Spread.chars, List.cons_append, List.append_assoc, readValue]
              rw [skipSpace_cons rfl, quoted]
              have quotation : skipSpace (spread.lineStart (level + 1) ++ '"' :: tail) =
                  '"' :: tail := by
                rw [skipSpace_append (spread.lineStart_blank _), skipSpace_cons rfl]
              simp only [quotation]
              split
              · rename_i equation
                cases equation
              · rw [read]
                rfl

variable (spread)

theorem readsBack (value : Json) : ReadsBack spread value := by
  cases value with
  | null => exact readsBack_null
  | bool value => exact readsBack_bool value
  | int value => exact readsBack_int value
  | real value => exact readsBack_real value
  | str text => exact readsBack_str text
  | arr items => exact readsBack_arr fun item _ => readsBack item
  | obj members => exact readsBack_obj fun entry _ => readsBack entry.2
termination_by sizeOf value
decreasing_by
  · have smaller := List.sizeOf_lt_of_mem ‹item ∈ items›
    simp only [arr.sizeOf_spec]
    omega
  · have smaller := List.sizeOf_lt_of_mem ‹entry ∈ members›
    have inner : sizeOf entry.2 < sizeOf entry := by
      obtain ⟨key, value⟩ := entry
      simp only [Prod.mk.sizeOf_spec]
      omega
    simp only [obj.sizeOf_spec]
    omega

theorem parse?_chars {value : Json} (printable : value.Printable depthLimit) :
    parse? (String.ofList (spread.chars 0 value)) = some value := by
  have noRest : EndsNumber [] := by
    intro c first
    cases first
  have read := readsBack spread value 0 ((spread.chars 0 value).length + 1) depthLimit [] printable
    noRest (Nat.le_succ _)
  rw [List.append_nil] at read
  simp only [parse?, String.toList_ofList, read]
  rfl

theorem parse?_compact {value : Json} (printable : value.Printable depthLimit) :
    parse? value.compact = some value := by
  rw [compact, ← Spread.chars_tight 0]
  exact parse?_chars .tight printable

theorem parse?_pretty {value : Json} (printable : value.Printable depthLimit) :
    parse? value.pretty = some value := by
  rw [pretty, ← Spread.chars_indented]
  exact parse?_chars .indented printable

end Json

end GigListings
