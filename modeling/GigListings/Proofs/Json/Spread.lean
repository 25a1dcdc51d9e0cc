import GigListings.Json.Parser

namespace GigListings.Json

/-! The written forms of a value differ in the blanks between its parts alone. -/

/-- The blanks in front of items, names and closings of a level, and behind colons. -/
structure Spread where
  lineStart : Nat → List Char
  gap : List Char
  lineStart_blank : ∀ level, ∀ c ∈ lineStart level, isSpace c = true
  gap_blank : ∀ c ∈ gap, isSpace c = true

namespace Spread

variable (spread : Spread)

mutual

def chars (level : Nat) : Json → List Char
  | arr [] => ['[', ']']
  | arr (item :: items) =>
      '[' :: (spread.lineStart (level + 1) ++ (chars (level + 1) item ++ itemChars level items))
  | obj [] => ['\x7b', '\x7d']
  | obj ((key, value) :: rest) =>
      '\x7b' :: (spread.lineStart (level + 1) ++ (quote key ++
        ':' :: (spread.gap ++ (chars (level + 1) value ++ memberChars level rest))))
  | scalar => scalarText scalar

def itemChars (level : Nat) : List Json → List Char
  | [] => spread.lineStart level ++ [']']
  | item :: items =>
      ',' :: (spread.lineStart (level + 1) ++ (chars (level + 1) item ++ itemChars level items))

def memberChars (level : Nat) : Members → List Char
  | [] => spread.lineStart level ++ ['\x7d']
  | (key, value) :: rest =>
      ',' :: (spread.lineStart (level + 1) ++ (quote key ++
        ':' :: (spread.gap ++ (chars (level + 1) value ++ memberChars level rest))))

end

def tight : Spread where
  lineStart _ := []
  gap := []
  lineStart_blank _ := List.forall_mem_nil _
  gap_blank := List.forall_mem_nil _

def indented : Spread where
  lineStart := lineBreak
  gap := [' ']
  lineStart_blank level c member := by
    rcases List.mem_cons.mp member with rfl | space
    · rfl
    · rw [List.eq_of_mem_replicate space]
      rfl
  gap_blank := List.forall_mem_singleton.mpr rfl

mutual

theorem chars_tight (level : Nat) : (value : Json) → tight.chars level value = compactChars value
  | .arr [] => rfl
  | .arr (item :: items) => by
      rw [chars, compactChars, chars_tight, itemChars_tight]
      rfl
  | .obj [] => rfl
  | .obj ((key, value) :: rest) => by
      rw [chars, compactChars, chars_tight, memberChars_tight]
      rfl
  | .null => rfl
  | .bool _ => rfl
  | .int _ => rfl
  | .real _ => rfl
  | .str _ => rfl

theorem itemChars_tight (level : Nat) :
    (items : List Json) → tight.itemChars level items = compactItems items
  | [] => rfl
  | item :: items => by
      rw [itemChars, compactItems, chars_tight, itemChars_tight]
      rfl

theorem memberChars_tight (level : Nat) :
    (members : Members) → tight.memberChars level members = compactMembers members
  | [] => rfl
  | (key, value) :: rest => by
      rw [memberChars, compactMembers, chars_tight, memberChars_tight]
      rfl

end

mutual

theorem chars_indented (level : Nat) :
    (value : Json) → indented.chars level value = prettyChars level value
  | .arr [] => rfl
  | .arr (item :: items) => by
      rw [chars, prettyChars, chars_indented, itemChars_indented, List.append_assoc]
      rfl
  | .obj [] => rfl
  | .obj ((key, value) :: rest) => by
      rw [chars, prettyChars, chars_indented, memberChars_indented, List.append_assoc]
      rfl
  | .null => rfl
  | .bool _ => rfl
  | .int _ => rfl
  | .real _ => rfl
  | .str _ => rfl

theorem itemChars_indented (level : Nat) :
    (items : List Json) → indented.itemChars level items = prettyItems level items
  | [] => rfl
  | item :: items => by
      rw [itemChars, prettyItems, chars_indented, itemChars_indented, List.append_assoc]
      rfl

theorem memberChars_indented (level : Nat) :
    (members : Members) → indented.memberChars level members = prettyMembers level members
  | [] => rfl
  | (key, value) :: rest => by
      rw [memberChars, prettyMembers, chars_indented, memberChars_indented, List.append_assoc]
      rfl

end

end Spread

end GigListings.Json
