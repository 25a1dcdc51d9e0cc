import GigListings.Config.Action
import GigListings.Json.Schema
import GigListings.Text.Class

namespace GigListings

open Json Text

/-! The shape that a configuration's JSON has to have. -/

namespace ConfigSchema

def isSourceChar (c : Char) : Bool := isAsciiLower c || isAsciiDigit c || c == '_' || c == '-'

/-- Lower case letters, digits, hyphens and underscores, the first a letter or digit. -/
def isSource : List Char → Bool
  | [] => false
  | c :: rest => (isAsciiLower c || isAsciiDigit c) && rest.all isSourceChar

def isWebLink (text : List Char) : Bool :=
  "http://".toList.isPrefixOf text || "https://".toList.isPrefixOf text

def text : Schema := .ofKind .string

def name : Schema := .all [.ofKind .string, .nonEmptyText]

def truth : Schema := .ofKind .boolean

def whole (minimum : Nat) : Schema := .all [.ofKind .integer, .atLeast minimum]

def record (required : List String) (members : List (String × Schema)) : Schema :=
  .all [.ofKind .object, .required required, .closed members]

def site : Schema :=
  record ["name", "source", "baseUrl"]
    [("name", name),
      ("source", .all [text, .matching "^[a-z0-9][a-z0-9_-]*$" isSource]),
      ("baseUrl", .all [text, .matching "^https?://" isWebLink]),
      ("timezone", name)]

def viewport : Schema := record ["width", "height"] [("width", whole 1), ("height", whole 1)]

def browser : Schema :=
  record []
    [("viewport", viewport), ("timeout", whole 1), ("userAgent", text), ("headless", truth)]

def rateLimit : Schema :=
  record []
    [("delayBetweenRequests", whole 0), ("maxConcurrency", whole 1), ("respectRobots", truth)]

def validation : Schema :=
  record []
    [("minEventsExpected", whole 0), ("maxEventsExpected", whole 0),
      ("required", .all [.ofKind .array, .everyItem name])]

def debug : Schema :=
  record [] [("screenshots", truth), ("html", truth), ("outputDir", text)]

def dateFormats : Schema := .all [.ofKind .object, .everyMember text]

/-! Fields and actions. -/

def fieldMapWith (field : Schema) : Schema :=
  .all [.ofKind .object, .nonEmptyMembers, .everyMember field]

def followUpWith (field : Schema) : Schema :=
  record ["fields"] [("urlField", name), ("fields", fieldMapWith field)]

def fieldWith (followUp : Schema) : Schema :=
  record []
    [("selector", name), ("attribute", name), ("required", truth), ("fallback", text),
      ("transform", name), ("transformParams", .ofKind .object), ("multiple", truth),
      ("followUp", followUp)]

/-- Fields whose visits to other pages are nested at most so deep. -/
def fieldTo : (depth : Nat) → Schema
  | 0 => fieldWith fun _ => []
  | depth + 1 => fieldWith (followUpWith (fieldTo depth))

def field : Schema := fun value => fieldTo value.depth value

def fieldMap : Schema := fieldMapWith field

def followUp : Schema := followUpWith field

def dateGroups : Schema :=
  record ["headingSelector", "eventSelector"]
    [("headingSelector", name), ("eventSelector", name), ("format", text)]

def actionOf : Action.Kind → Schema
  | .navigate => .all [.required ["url"], .members [("url", name), ("waitForLoad", truth)]]
  | .wait =>
      .members
        [("selector", name), ("condition", .oneOf (WaitCondition.all.map WaitCondition.name)),
          ("timeout", whole 1)]
  | .click =>
      .all [.required ["selector"],
        .members [("selector", name), ("optional", truth), ("waitAfter", whole 0)]]
  | .scroll =>
      .members
        [("direction", .oneOf (ScrollDirection.all.map ScrollDirection.name)),
          ("amount", .ofKind .integer), ("waitAfter", whole 0)]
  | .extract =>
      .all [.required ["containerSelector", "fields"],
        .members [("containerSelector", name), ("fields", fieldMap), ("followUp", followUp),
          ("dateGroups", dateGroups)]]

/-- An action without a kind has to satisfy what is said of every kind. -/
def action : Schema :=
  .all ([.ofKind .object, .required ["type"],
      .members [("type", .oneOf (Action.Kind.all.map Action.Kind.name))]] ++
    Action.Kind.all.map fun kind => .whenMember "type" kind.name (actionOf kind))

/-! Mappings. -/

def mappingValue : Schema :=
  .exactlyOne
    [name,
      record ["field", "transform"]
        [("field", name), ("transform", name), ("transformParams", .ofKind .object)]]

def coordinate : Schema := .ofKinds [.number, .string]

def venue : Schema :=
  record ["name"]
    [("name", name), ("address", text), ("city", text), ("country", text), ("lat", coordinate),
      ("lng", coordinate)]

def mapping : Schema :=
  record ["title", "venue", "dateStart"]
    [("title", mappingValue), ("artists", mappingValue), ("venue", venue),
      ("dateStart", mappingValue), ("dateEnd", mappingValue), ("sourceId", mappingValue),
      ("eventUrl", mappingValue), ("ticketsUrl", mappingValue), ("images", mappingValue),
      ("genre", mappingValue), ("ageRestriction", mappingValue), ("description", mappingValue),
      ("status", mappingValue)]

def config : Schema :=
  record ["site", "workflow", "mapping"]
    [("site", site), ("browser", browser), ("rateLimit", rateLimit),
      ("workflow", .all [.ofKind .array, .nonEmptyItems, .everyItem action]),
      ("mapping", mapping), ("validation", validation), ("debug", debug),
      ("dateFormats", dateFormats)]

end ConfigSchema

end GigListings
