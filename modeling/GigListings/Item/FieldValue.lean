import GigListings.Dict
import GigListings.Json.Basic
import GigListings.Text.Basic

namespace GigListings

open Text

/-- What was extracted for one field: a text, or the texts of a field with many. -/
inductive FieldValue where
  | single (text : String)
  | many (texts : List String)
deriving DecidableEq

def isBlankText (text : String) : Bool := text.toList.all isBlank

def trimText (text : String) : String := String.ofList (trim text.toList)

namespace FieldValue

def isEmpty : FieldValue → Bool
  | single text => isBlankText text
  | many texts => texts.all isBlankText

/-- The value as one text; of many it is the first. -/
def first? : FieldValue → Option String
  | single text => some text
  | many texts => texts.head?

def toList : FieldValue → List String
  | single text => [text]
  | many texts => texts

/-- What is said of a JSON value that is neither a text nor a list of texts. -/
def shapeFault : String := "data did not match any variant of untagged enum FieldValue"

def toJson : FieldValue → Json
  | single text => .str text
  | many texts => Json.strings texts

def ofJson? : Json → Option FieldValue
  | .str text => some (single text)
  | .arr items => (items.mapM Json.string?).map many
  | _ => none

end FieldValue

abbrev Item := Dict FieldValue

namespace Item

def label (item : Item) : String :=
  ((Dict.get? item "title").bind FieldValue.first?).getD "<untitled>"

/-- The first text of a field without the blanks around it, if there is more than blanks. -/
def link? (item : Item) (field : String) : Option String :=
  (((Dict.get? item field).bind FieldValue.first?).map trimText).filter (· ≠ "")

end Item

end GigListings
