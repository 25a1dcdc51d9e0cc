import GigListings.Config.FieldOrder
import GigListings.Css.Match
import GigListings.Html.Printer
import GigListings.Transform.Basic

namespace GigListings

open Text Html

/-! Items read from the elements of a page. -/

structure Visit where
  url : String
  followUp : FollowUp

structure Extracted where
  item : Item
  visits : List Visit

structure Extractor where
  transforms : TransformRegistry
  context : TransformContext

def Part.read? (part : Part) (element : Element) : Option String :=
  match part with
  | .text => some (String.ofList (collapse element.textContent.toList))
  | .innerHtml => some (trimText element.innerMarkup)
  | .named attr => (element.attribute? attr).map trimText

namespace FieldRule

def elements (field : FieldRule) (container : Place) : List Place :=
  match field.selector with
  | none => [container]
  | some selector =>
      match Css.Selector.parse? selector with
      | none => []
      | some parsed =>
          let found := container.select parsed
          if field.multiple then found else found.take 1

def readValue? (field : FieldRule) (container : Place) : Option FieldValue :=
  let texts := ((field.elements container).filterMap fun place =>
    (Part.ofName field.part).read? place.element).filter (· ≠ "")
  if field.multiple then if texts.isEmpty then none else some (.many texts)
  else texts.head?.map .single

/-- A value with more than blanks in it, else the fallback. -/
def settle? (field : FieldRule) (value : Option FieldValue) : Option FieldValue :=
  match value.filter fun value => !value.isEmpty with
  | some value => some value
  | none => field.fallback.map .single

end FieldRule

namespace Extractor

/-- The value of a field, given the values of the fields before it. -/
def fieldValue? (extractor : Extractor) (fields : FieldRules) (field : FieldRule)
    (container : Place) (item : Item) : Option FieldValue :=
  field.settle? <|
    match field.transform, field.readValue? container with
    | some transform, some raw =>
        let args := Args.resolve field.transformParams item fun name => Dict.contains fields name
        extractor.transforms.apply transform raw args extractor.context
    | _, raw => raw

/-- A field without a value leaves the item as it is. -/
def extractField (extractor : Extractor) (fields : FieldRules) (container : Place) (item : Item)
    (name : String) : Item :=
  match (Dict.get? fields name).bind fun field =>
      extractor.fieldValue? fields field container item with
  | some value => Dict.insert name value item
  | none => item

/-- Adds the fields to an item that may hold values already. -/
def itemInto (extractor : Extractor) (fields : FieldRules) (container : Place) (item : Item) :
    Item :=
  fields.order.foldl (extractor.extractField fields container) item

end Extractor

namespace Item

/-- The visit that a follow-up asks for, unless its link is blank. -/
def visit? (item : Item) (followUp : FollowUp) (urlField : String) : Option Visit :=
  (item.link? urlField).map fun url => ⟨url, followUp⟩

def fieldVisits (item : Item) (fields : FieldRules) : List Visit :=
  fields.filterMap fun (name, field) =>
    field.followUp.bind fun followUp => item.visit? followUp (followUp.urlField.getD name)

end Item

namespace Extractor

def extractInto (extractor : Extractor) (fields : FieldRules) (container : Place) (item : Item) :
    Extracted :=
  let item := extractor.itemInto fields container item
  ⟨item, item.fieldVisits fields⟩

/-- The fields of a follow-up, read from a whole page. -/
def extractDocument (extractor : Extractor) (fields : FieldRules) (page : String) : Item :=
  match (Document.parse page).root? with
  | some root => extractor.itemInto fields root []
  | none => []

end Extractor

end GigListings
