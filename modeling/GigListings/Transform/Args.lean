import GigListings.Item.FieldValue
import GigListings.Text.Scan

namespace GigListings

open Text

/-! Parameters of a transform. A text that names a field stands for that field's value. -/

abbrev Params := Dict Json

namespace Params

/-- Parameters that are never references. -/
def literalNames : List String :=
  ["format", "pattern", "replacement", "group", "fragmentPath", "isEndTime"]

def isLiteral (name : String) : Bool := literalNames.contains name

end Params

abbrev Args := Dict Json

namespace Args

/-- What a parameter stands for. A field without a value stands for null. -/
def resolveValue (item : Item) (isField : String → Bool) (name : String) (value : Json) : Json :=
  match value with
  | .str text =>
      if Params.isLiteral name then value
      else match Dict.get? item text with
        | some found => found.toJson
        | none => if isField text then .null else value
  | _ => value

def resolve (params : Option Params) (item : Item) (isField : String → Bool) : Args :=
  (params.getD []).map fun (name, value) => (name, resolveValue item isField name value)

/-- A text, or the first text of a list that begins with one. -/
def text? (args : Args) (name : String) : Option String :=
  match Dict.get? args name with
  | some (.str text) => some text
  | some (.arr (.str text :: _)) => some text
  | _ => none

/-- Whether a parameter is true, or the word in any case. -/
def flag (args : Args) (name : String) : Bool :=
  match Dict.get? args name with
  | some (.bool value) => value
  | some (.str text) => text.toList.map asciiLower == ['t', 'r', 'u', 'e']
  | _ => false

/-- A whole number of at most 64 bits, or the digits of one behind an optional plus. -/
def count? (args : Args) (name : String) : Option Nat :=
  match Dict.get? args name with
  | some (.int value) => if 0 ≤ value then some value.toNat else none
  | some (.str text) =>
      let digits := match text.toList with
        | '+' :: digits => digits
        | digits => digits
      (number? digits).filter (· < UInt64.size)
  | _ => none

end Args

end GigListings
