import GigListings.Json.Basic
import GigListings.Text.Basic

namespace GigListings.Scaffold

/-! Configurations to start from, and blocks that are often left out. -/

def trimEndSlashes (text : String) : String :=
  String.ofList (text.toList.reverse.dropWhile (· == '/')).reverse

def browser : Json :=
  .obj [("viewport", .obj [("width", .int 1366), ("height", .int 768)]),
    ("timeout", .int 30000), ("headless", .bool true)]

def rateLimit : Json :=
  .obj [("delayBetweenRequests", .int 1000), ("maxConcurrency", .int 1),
    ("respectRobots", .bool true)]

def validation : Json :=
  .obj [("minEventsExpected", .int 1),
    ("required", Json.strings ["title", "dateStart", "venue.name"])]

def blocks : Members :=
  [("browser", browser), ("rateLimit", rateLimit), ("validation", validation)]

def lacking (members : Members) : Members :=
  blocks.filter fun (name, _) => !Members.contains members name

def complete : Json → Json
  | .obj members => .obj (members ++ lacking members)
  | value => value

def added : Json → List String
  | .obj members => (lacking members).map Prod.fst
  | _ => []

def site (name baseUrl : String) (source : Option String) : Json :=
  .obj [("name", .str name),
    ("source", .str (source.getD (String.ofList (Text.slug name.toList)))),
    ("baseUrl", .str (trimEndSlashes baseUrl))]

def field (selector : String) (members : Members) : Json :=
  .obj (("selector", .str selector) :: members)

def fields : Json :=
  .obj [
    ("title", field ".event-card__title" [("required", .bool true), ("transform", .str "trim")]),
    ("date", field ".event-card__date"
      [("required", .bool true), ("transform", .str "parse-date"),
        ("transformParams", .obj [("format", .str "auto"), ("time", .str "time")])]),
    ("time", field ".event-card__time" [("transform", .str "time-range-start")]),
    ("link", field "a" [("attribute", .str "href"), ("transform", .str "url")]),
    ("image", field "img" [("attribute", .str "src"), ("transform", .str "url")])]

def workflow : Json :=
  .arr [
    .obj [("type", .str "navigate"), ("url", .str "/whats-on/"), ("waitForLoad", .bool true)],
    .obj [("type", .str "click"), ("selector", .str "#cookie-accept"), ("optional", .bool true),
      ("waitAfter", .int 500)],
    .obj [("type", .str "wait"), ("selector", .str ".event-card"), ("condition", .str "visible")],
    .obj [("type", .str "scroll"), ("direction", .str "bottom"), ("waitAfter", .int 1000)],
    .obj [("type", .str "extract"), ("containerSelector", .str ".event-card"), ("fields", fields)]]

def mapping (name : String) : Json :=
  .obj [("title", .str "title"), ("venue", .obj [("name", .str name)]), ("dateStart", .str "date"),
    ("eventUrl", .str "link"), ("images", .str "image")]

/-- A configuration for a site, with selectors to be replaced by the site's own. -/
def template (name baseUrl : String) (source : Option String) : Json :=
  complete (.obj [("site", site name baseUrl source), ("workflow", workflow),
    ("mapping", mapping name),
    ("debug", .obj [("screenshots", .bool false), ("html", .bool true)])])

end GigListings.Scaffold
