import GigListings.Config.Action
import GigListings.Extraction.Fields

namespace GigListings

open Html

/-! Listings in which a heading with a date is followed by the events of that date. -/

/-- A heading, and its date if it shows one. -/
structure DateGroup where
  text : String
  date : Option Date

namespace DateGroup

def textField : String := "dateGroup"

def dateField : String := "dateGroupDate"

/-- What every event of a group holds before its own fields. -/
def item (group : DateGroup) : Item :=
  let item : Item := Dict.insert textField (.single group.text) []
  match group.date with
  | some date => Dict.insert dateField (.single date.text) item
  | none => item

end DateGroup

namespace DateGroups

/-- The events of a listing, each with the group of the last heading before it. Events without a
dated heading are passed over. -/
def walk (isHeading isEvent : Place → Bool) (group : Place → DateGroup)
    (extract : DateGroup → Place → Extracted) (current : Option DateGroup) :
    List Place → List Extracted
  | [] => []
  | place :: rest =>
      if isHeading place then walk isHeading isEvent group extract (some (group place)) rest
      else
        let later := walk isHeading isEvent group extract current rest
        match current.filter fun group => group.date.isSome with
        | some group => if isEvent place then extract group place :: later else later
        | none => later

end DateGroups

namespace Extractor

def dateGroup (extractor : Extractor) (format : Option String) (heading : Place) : DateGroup :=
  let text := (Part.text.read? heading.element).getD ""
  match extractor.context.formats.parse format text none extractor.context.dates with
  | .ok printed => ⟨text, some printed.date⟩
  | .error _ => ⟨text, none⟩

def groupedEvents (extractor : Extractor) (fields : FieldRules) (groups : DateGroups)
    (heading event : Css.Selector) (container : Place) : List Extracted :=
  DateGroups.walk (heading.matches none) (event.matches none) (extractor.dateGroup groups.format)
    (fun group place => extractor.extractInto fields place group.item) none container.children

end Extractor

end GigListings
