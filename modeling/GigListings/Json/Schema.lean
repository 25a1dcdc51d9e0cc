import GigListings.Json.Printer

namespace GigListings.Json

open Number

/-! Constraints on JSON values. A schema gives the violations of a value in a fixed order. -/

inductive Kind where
  | object
  | array
  | string
  | boolean
  | integer
  | number
deriving DecidableEq, Repr

def Kind.name : Kind → String
  | object => "object"
  | array => "array"
  | string => "string"
  | boolean => "boolean"
  | integer => "integer"
  | number => "number"

def hasKind : Json → Kind → Bool
  | obj _, .object => true
  | arr _, .array => true
  | str _, .string => true
  | bool _, .boolean => true
  | int _, .integer => true
  | int _, .number => true
  | real value, .integer => value.isIntegral
  | real _, .number => true
  | _, _ => false

inductive Step where
  | member (name : String)
  | item (index : Nat)
deriving DecidableEq

inductive Defect where
  | missing (name : String)
  | notOfKind (kinds : List Kind)
  | emptyText
  | noMatch (pattern : String)
  | below (minimum : Nat)
  | noItems
  | noMembers
  | notOneOf (options : List String)
  | noAlternative
  | unexpected (names : List String)

structure Violation where
  path : List Step
  value : Json
  defect : Defect

namespace Violation

def escapeStep (name : String) : List Char :=
  name.toList.flatMap fun c =>
    match c with
    | '/' => ['~', '1']
    | '~' => ['~', '0']
    | c => [c]

def stepText : Step → String
  | .member name => "/" ++ String.ofList (escapeStep name)
  | .item index => "/" ++ toString index

/-- The path as a pointer; the root's is a lone slash. -/
def pathText (path : List Step) : String :=
  let text := String.join (path.map stepText)
  if text = "" then "/" else text

def quotedName (name : String) : String := "'" ++ name ++ "'"

def defectText (value : Json) : Defect → String
  | .missing name => String.ofList (quote name) ++ " is a required property"
  | .notOfKind [kind] => value.compact ++ " is not of type \"" ++ kind.name ++ "\""
  | .notOfKind kinds =>
      value.compact ++ " is not of types " ++
        ", ".intercalate (kinds.map fun kind => "\"" ++ kind.name ++ "\"")
  | .emptyText => value.compact ++ " is shorter than 1 character"
  | .noMatch pattern => value.compact ++ " does not match \"" ++ pattern ++ "\""
  | .below minimum => value.compact ++ " is less than the minimum of " ++ toString minimum
  | .noItems => value.compact ++ " has less than 1 item"
  | .noMembers => value.compact ++ " has less than 1 property"
  | .notOneOf options => value.compact ++ " is not one of " ++ (strings options).compact
  | .noAlternative =>
      value.compact ++ " is not valid under any of the schemas listed in the 'oneOf' keyword"
  | .unexpected names =>
      "Additional properties are not allowed (" ++ ", ".intercalate (names.map quotedName) ++
        (if names.length = 1 then " was" else " were") ++ " unexpected)"

def message (violation : Violation) : String :=
  pathText violation.path ++ ": " ++ defectText violation.value violation.defect

def under (step : Step) (violation : Violation) : Violation :=
  { violation with path := step :: violation.path }

end Violation

abbrev Schema := Json → List Violation

namespace Schema

def defects (value : Json) (defect : Defect) (holds : Bool) : List Violation :=
  if holds then [] else [⟨[], value, defect⟩]

def all (schemas : List Schema) : Schema := fun value => schemas.flatMap fun schema => schema value

def ofKind (kind : Kind) : Schema := fun value =>
  defects value (.notOfKind [kind]) (value.hasKind kind)

def ofKinds (kinds : List Kind) : Schema := fun value =>
  defects value (.notOfKind kinds) (kinds.any value.hasKind)

def required (names : List String) : Schema
  | .obj members =>
      names.flatMap fun name =>
        defects (.obj members) (.missing name) (Members.contains members name)
  | _ => []

def nonEmptyText : Schema
  | .str text => defects (.str text) .emptyText (text ≠ "")
  | _ => []

def matching (pattern : String) (holds : List Char → Bool) : Schema
  | .str text => defects (.str text) (.noMatch pattern) (holds text.toList)
  | _ => []

def atLeast (minimum : Nat) : Schema
  | .int value => defects (.int value) (.below minimum) (minimum ≤ value)
  | .real value =>
      defects (.real value) (.below minimum) (value.isAtLeast minimum)
  | _ => []

def nonEmptyItems : Schema
  | .arr items => defects (.arr items) .noItems (!items.isEmpty)
  | _ => []

def nonEmptyMembers : Schema
  | .obj members => defects (.obj members) .noMembers (!members.isEmpty)
  | _ => []

def oneOf (options : List String) : Schema := fun value =>
  defects value (.notOneOf options) (options.any fun option => value == .str option)

def closed (known : List (String × Schema)) : Schema
  | .obj members =>
      (members.flatMap fun (name, value) =>
        match known.lookup name with
        | some schema => (schema value).map (Violation.under (.member name))
        | none => []) ++
      match (members.map Prod.fst).filter fun name => (known.lookup name).isNone with
      | [] => []
      | names => [⟨[], .obj members, .unexpected names⟩]
  | _ => []

/-- Constraints on members that may be there, in the order of the constraints. -/
def members (known : List (String × Schema)) : Schema
  | .obj members =>
      known.flatMap fun (name, schema) =>
        match Members.get? members name with
        | some value => (schema value).map (Violation.under (.member name))
        | none => []
  | _ => []

def everyMember (schema : Schema) : Schema
  | .obj members =>
      members.flatMap fun (name, value) => (schema value).map (Violation.under (.member name))
  | _ => []

def everyItem (schema : Schema) : Schema
  | .arr items =>
      items.zipIdx.flatMap fun (item, index) =>
        (schema item).map (Violation.under (.item index))
  | _ => []

/-- A constraint on objects in which a member, if it is there, is the given text. -/
def whenMember (name text : String) (schema : Schema) : Schema := fun value =>
  match value.member? name with
  | some found => if found == .str text then schema value else []
  | none => schema value

def exactlyOne (schemas : List Schema) : Schema := fun value =>
  defects value .noAlternative ((schemas.filter fun schema => (schema value).isEmpty).length = 1)

end Schema

end GigListings.Json
