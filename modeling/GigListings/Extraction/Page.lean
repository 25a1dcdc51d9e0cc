import GigListings.Extraction.DateGroups

namespace GigListings

open Css Html

/-! The items of a page. -/

namespace Extractor

def containerItems (extractor : Extractor) (action : ExtractAction) (container : Place) :
    Except SelectorFault (List Extracted) :=
  match action.dateGroups with
  | none => .ok [extractor.extractInto action.fields container []]
  | some groups => do
      let heading ← Selector.parse groups.headingSelector
      let event ← Selector.parse groups.eventSelector
      return extractor.groupedEvents action.fields groups heading event container

/-- A follow-up of the whole action comes after those of the fields. -/
def addVisit (action : ExtractAction) (extracted : Extracted) : Extracted :=
  { extracted with visits := extracted.visits ++ (action.followUp.bind fun followUp =>
      extracted.item.visit? followUp (followUp.urlField.getD "url")).toList }

def extractPage (extractor : Extractor) (action : ExtractAction) (page : String) :
    Except SelectorFault (List Extracted) := do
  let container ← Selector.parse action.containerSelector
  let found ← ((Document.parse page).select container).mapM (extractor.containerItems action)
  return found.flatten.map (addVisit action)

end Extractor

end GigListings
