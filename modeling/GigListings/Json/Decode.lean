import GigListings.Dict
import GigListings.Json.Printer
import GigListings.Text.Quoted

namespace GigListings.Json

open Number Text

/-! Reading values of known shape out of JSON. -/

inductive Fault where
  | missing (member : String)
  | wrongType (found : Json) (expected : String)
  | outOfRange (found : Int) (expected : String)
  | wrongLength (found : Nat) (expected : String)
  | unknownVariant (name : String) (known : List String)
  | noSingleKey
  | noVariant (type : String)

def marked (name : String) : String := "`" ++ name ++ "`"

/-- A value as messages name it. -/
def described : Json → String
  | null => "null"
  | bool value => "boolean " ++ marked (if value then "true" else "false")
  | int value => "integer " ++ marked (toString value)
  | real value => "floating point " ++ marked (String.ofList (realText value))
  | str text => "string " ++ quoted text
  | arr _ => "sequence"
  | obj _ => "map"

def oneOf : List String → String
  | [name] => marked name
  | [first, second] => marked first ++ " or " ++ marked second
  | names => "one of " ++ ", ".intercalate (names.map marked)

namespace Fault

def message : Fault → String
  | missing member => "missing field " ++ marked member
  | wrongType found expected => "invalid type: " ++ found.described ++ ", expected " ++ expected
  | outOfRange found expected =>
      "invalid value: integer " ++ marked (toString found) ++ ", expected " ++ expected
  | wrongLength found expected =>
      "invalid length " ++ toString found ++ ", expected " ++ expected
  | unknownVariant name known => "unknown variant " ++ marked name ++ ", expected " ++ oneOf known
  | noSingleKey => "invalid value: map, expected map with a single key"
  | noVariant type => "data did not match any variant of untagged enum " ++ type

end Fault

abbrev Reading (α : Type) := Except Fault α

abbrev Reader (α : Type) := Json → Reading α

namespace Reader

def text : Reader String
  | .str text => .ok text
  | value => .error (.wrongType value "a string")

def truth : Reader Bool
  | .bool value => .ok value
  | value => .error (.wrongType value "a boolean")

def number : Reader Binary64
  | .int value => .ok (Binary64.ofInt value)
  | .real value => .ok value
  | value => .error (.wrongType value "f64")

/-- A whole number below `bound`. -/
def natural (type : String) (bound : Nat) : Reader Nat
  | .int value =>
      if 0 ≤ value ∧ value < bound then .ok value.toNat else .error (.outOfRange value type)
  | value => .error (.wrongType value type)

def word32 : Reader UInt32 := fun value => (natural "u32" UInt32.size value).map UInt32.ofNat

def word64 : Reader UInt64 := fun value => (natural "u64" UInt64.size value).map UInt64.ofNat

def size : Reader UInt64 := fun value => (natural "usize" UInt64.size value).map UInt64.ofNat

def signed64 : Reader Int64
  | .int value =>
      if Int64.minValue.toInt ≤ value ∧ value ≤ Int64.maxValue.toInt then .ok (Int64.ofInt value)
      else .error (.outOfRange value "i64")
  | value => .error (.wrongType value "i64")

/-- Null stands for no value. -/
def option (reader : Reader α) : Reader (Option α)
  | .null => .ok none
  | value => (reader value).map some

def list (reader : Reader α) : Reader (List α)
  | .arr items => items.mapM reader
  | value => .error (.wrongType value "a sequence")

def dict (reader : Reader α) : Reader (Dict α)
  | .obj members => do
      return Dict.ofList (← members.mapM fun (name, value) => return (name, ← reader value))
  | value => .error (.wrongType value "a map")

def any : Reader Json := .ok

/-- The value that a name stands for, which may also be given as the only key of an object. -/
def variant (known : List (String × α)) : Reader α
  | .str name => named name
  | .obj [(name, .null)] => named name
  | .obj [(name, value)] => (named name).bind fun _ => .error (.wrongType value "unit")
  | .obj _ => .error .noSingleKey
  | value => .error (.wrongType value "string or map")
where
  named (name : String) : Reading α :=
    match known.lookup name with
    | some value => .ok value
    | none => .error (.unknownVariant name (known.map Prod.fst))

end Reader

/-! Records. The members may be given by name, or in an array by their place. The fault that
comes first in the text is the one reported; missing members come after all others. -/

inductive Members.Source where
  | named (members : Members)
  | placed (items : List Json)

structure RecordReader (α : Type) where
  /-- How many members are read. -/
  width : Nat
  /-- Reads from the members that start at a place. -/
  read : (shape : String) → (place : Nat) → Members.Source → Except (Nat × Fault) α

namespace RecordReader

def pure (value : α) : RecordReader α := ⟨0, fun _ _ _ => .ok value⟩

/-- Of two faults the earlier one counts. -/
def seq (f : RecordReader (α → β)) (x : RecordReader α) : RecordReader β where
  width := f.width + x.width
  read shape place source :=
    match f.read shape place source, x.read shape (place + f.width) source with
    | .ok f, .ok x => .ok (f x)
    | .error (i, fault), .error (j, other) => .error (if j < i then (j, other) else (i, fault))
    | .error fault, .ok _ => .error fault
    | .ok _, .error fault => .error fault

def placeOf? (name : String) (members : Members) : Option (Nat × Json) :=
  (members.zipIdx.find? fun ((key, _), _) => key = name).map fun ((_, value), i) => (i, value)

/-- A member that has a default or none. -/
def memberOr (name : String) (reader : Reader α) (absent : Option α) : RecordReader α where
  width := 1
  read shape place
    | .named members =>
        match placeOf? name members, absent with
        | some (i, value), _ => (reader value).mapError fun fault => (i, fault)
        | none, some value => .ok value
        | none, none => .error (members.length + place, .missing name)
    | .placed items =>
        match items[place]?, absent with
        | some value, _ => (reader value).mapError fun fault => (place, fault)
        | none, some value => .ok value
        | none, none => .error (place, .wrongLength place shape)

def member (name : String) (reader : Reader α) : RecordReader α := memberOr name reader none

/-- A member that takes a default when it is absent. -/
def withDefault (name : String) (reader : Reader α) (absent : α) : RecordReader α :=
  memberOr name reader (some absent)

def optional (name : String) (reader : Reader α) : RecordReader (Option α) :=
  withDefault name (Reader.option reader) none

/-- A member without a default that is nevertheless no fault to leave out by name. -/
def nullable (name : String) (reader : Reader α) : RecordReader (Option α) where
  width := 1
  read shape place source :=
    match source with
    | .named _ => (optional name reader).read shape place source
    | .placed _ => (member name (Reader.option reader)).read shape place source

def shape (type : String) (count : Nat) : String :=
  type ++ " with " ++ toString count ++ " element" ++ (if count = 1 then "" else "s")

def run (record : RecordReader α) (type : String) : Reader α
  | .obj members => (record.read (shape type record.width) 0 (.named members)).mapError Prod.snd
  | .arr items =>
      match record.read (shape type record.width) 0 (.placed items) with
      | .error (_, fault) => .error fault
      | .ok value =>
          if record.width < items.length then
            .error (.wrongLength items.length "fewer elements in array")
          else .ok value
  | value => .error (.wrongType value type)

instance : Functor RecordReader where
  map f x := seq (pure f) x

instance : Applicative RecordReader where
  pure := pure
  seq f x := seq f (x ())

end RecordReader

end GigListings.Json
