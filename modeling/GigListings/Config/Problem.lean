import GigListings.Config.Action
import GigListings.Json.Decode
import GigListings.Json.Schema
import GigListings.Link.Host
import GigListings.Printed.Format

namespace GigListings

/-! What can be wrong with a configuration. -/

abbrev Location := List String

def Location.text (location : Location) : String :=
  String.join (location.map fun name => "/" ++ name)

/-- Something that the shape of a configuration does not rule out. -/
inductive Problem where
  | baseUrl (fault : Link.UrlFault)
  | timezone (name : String)
  | eventBounds (least most : UInt64)
  | formatTarget (name target : String)
  | missingSelector (place : Location) (condition : WaitCondition)
  | notNavigated (place : Location)
  | selector (place : Location) (selector : String)
  | missingUrlField (place : Location)
  | nestedFollowUp (place : Location)
  | dateFormat (place : Location) (name : String)

def Problem.message : Problem → String
  | baseUrl fault => "/site/baseUrl: not a valid URL: " ++ fault.message
  | timezone name => "/site/timezone: unknown IANA timezone '" ++ name ++ "'"
  | eventBounds least most =>
      "/validation: minEventsExpected (" ++ toString least.toNat ++
        ") exceeds maxEventsExpected (" ++ toString most.toNat ++ ")"
  | formatTarget name target =>
      "/dateFormats/" ++ name ++ ": '" ++ target ++
        "' is not a built-in date format (expected one of " ++
        ", ".intercalate DateFormat.builtinNames ++ ")"
  | missingSelector place condition =>
      place.text ++ ": required for a '" ++ condition.name ++ "' wait"
  | notNavigated place => place.text ++ ": extract action appears before any navigate action"
  | selector place name =>
      place.text ++ ": invalid CSS selector '" ++ name ++ "': malformed selector"
  | missingUrlField place =>
      place.text ++ ": required when followUp is declared on the action"
  | nestedFollowUp place =>
      place.text ++ ": follow-up fields cannot declare further follow-ups"
  | dateFormat place name => place.text ++ ": unknown date format '" ++ name ++ "'"

/-- Why a text is no configuration. The kinds are found one after another. -/
inductive ConfigFault where
  | notJson
  | shape (violations : List Json.Violation)
  | unreadable (fault : Json.Fault)
  | problems (problems : List Problem)

def ConfigFault.messages : ConfigFault → List String
  | notJson => ["/: not valid JSON"]
  | shape violations => violations.map Json.Violation.message
  | unreadable fault => ["/: " ++ fault.message]
  | problems found => found.map Problem.message

end GigListings
