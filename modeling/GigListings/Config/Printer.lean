import GigListings.Config.Basic

namespace GigListings

/-! Configurations written as JSON, with their defaults. Options without a value and flags that
are not set are left out. -/

namespace Json

def number32 (value : UInt32) : Json := .int value.toNat

def number64 (value : UInt64) : Json := .int value.toNat

def flag? (value : Bool) : Option Json := if value then some (.bool true) else none

end Json

def Params.toJson (params : Params) : Json := .obj params

mutual

def FieldRule.toJson : FieldRule → Json
  | ⟨selector, part, required, fallback, transform, params, multiple, followUp⟩ =>
      Json.record
        [("selector", selector.map .str),
          ("attribute", some (.str part)),
          ("required", Json.flag? required),
          ("fallback", fallback.map .str),
          ("transform", transform.map .str),
          ("transformParams", params.map Params.toJson),
          ("multiple", Json.flag? multiple),
          ("followUp", FollowUp.optionJson followUp)]

def FollowUp.toJson : FollowUp → Json
  | ⟨urlField, fields⟩ =>
      Json.record
        [("urlField", urlField.map .str), ("fields", some (.obj (FieldRule.allJson fields)))]

def FollowUp.optionJson : Option FollowUp → Option Json
  | none => none
  | some followUp => some followUp.toJson

def FieldRule.allJson : List (String × FieldRule) → Members
  | [] => []
  | (name, field) :: rest => (name, field.toJson) :: FieldRule.allJson rest

end

def DateGroups.toJson (groups : DateGroups) : Json :=
  Json.record
    [("headingSelector", some (.str groups.headingSelector)),
      ("eventSelector", some (.str groups.eventSelector)),
      ("format", groups.format.map .str)]

namespace Action

def members : Action → List (String × Option Json)
  | navigate action =>
      [("url", some (.str action.url)), ("waitForLoad", action.waitForLoad.map .bool)]
  | wait action =>
      [("selector", action.selector.map .str),
        ("condition", some (.str action.condition.name)),
        ("timeout", action.timeout.map Json.number64)]
  | click action =>
      [("selector", some (.str action.selector)),
        ("optional", Json.flag? action.optional),
        ("waitAfter", action.waitAfter.map Json.number64)]
  | scroll action =>
      [("direction", some (.str action.direction.name)),
        ("amount", action.amount.map fun amount => .int amount.toInt),
        ("waitAfter", action.waitAfter.map Json.number64)]
  | extract action =>
      [("containerSelector", some (.str action.containerSelector)),
        ("fields", some (.obj (FieldRule.allJson action.fields))),
        ("followUp", action.followUp.map FollowUp.toJson),
        ("dateGroups", action.dateGroups.map DateGroups.toJson)]

def toJson (action : Action) : Json :=
  Json.record (("type", some (.str action.kind.name)) :: action.members)

end Action

def MappingValue.toJson : MappingValue → Json
  | field name => .str name
  | transformed value =>
      Json.record
        [("field", some (.str value.field)),
          ("transform", some (.str value.transform)),
          ("transformParams", value.transformParams.map Params.toJson)]

def Coordinate.toJson : Coordinate → Json
  | fixed value => .real value
  | field name => .str name

def VenueMapping.toJson (venue : VenueMapping) : Json :=
  Json.record
    [("name", some (.str venue.name)),
      ("address", venue.address.map .str),
      ("city", venue.city.map .str),
      ("country", venue.country.map .str),
      ("lat", venue.lat.map Coordinate.toJson),
      ("lng", venue.lng.map Coordinate.toJson)]

def Mapping.toJson (mapping : Mapping) : Json :=
  Json.record
    [("title", some mapping.title.toJson),
      ("artists", mapping.artists.map MappingValue.toJson),
      ("venue", some mapping.venue.toJson),
      ("dateStart", some mapping.dateStart.toJson),
      ("dateEnd", mapping.dateEnd.map MappingValue.toJson),
      ("sourceId", mapping.sourceId.map MappingValue.toJson),
      ("eventUrl", mapping.eventUrl.map MappingValue.toJson),
      ("ticketsUrl", mapping.ticketsUrl.map MappingValue.toJson),
      ("images", mapping.images.map MappingValue.toJson),
      ("genre", mapping.genre.map MappingValue.toJson),
      ("ageRestriction", mapping.ageRestriction.map MappingValue.toJson),
      ("description", mapping.description.map MappingValue.toJson),
      ("status", mapping.status.map MappingValue.toJson)]

def Site.toJson (site : Site) : Json :=
  Json.record
    [("name", some (.str site.name)),
      ("source", some (.str site.source)),
      ("baseUrl", some (.str site.baseUrl)),
      ("timezone", site.timezone.map .str)]

def Viewport.toJson (viewport : Viewport) : Json :=
  .obj [("width", Json.number32 viewport.width), ("height", Json.number32 viewport.height)]

def BrowserOptions.toJson (options : BrowserOptions) : Json :=
  Json.record
    [("viewport", some options.viewport.toJson),
      ("timeout", some (Json.number64 options.timeout)),
      ("userAgent", options.userAgent.map .str),
      ("headless", some (.bool options.headless))]

def RateLimit.toJson (limit : RateLimit) : Json :=
  Json.record
    [("delayBetweenRequests", limit.delayBetweenRequests.map Json.number64),
      ("maxConcurrency", some (Json.number32 limit.maxConcurrency)),
      ("respectRobots", some (.bool limit.respectRobots))]

def ValidationRules.toJson (rules : ValidationRules) : Json :=
  Json.record
    [("minEventsExpected", rules.minEventsExpected.map Json.number64),
      ("maxEventsExpected", rules.maxEventsExpected.map Json.number64),
      ("required", some (Json.strings rules.required))]

def DebugOptions.toJson (options : DebugOptions) : Json :=
  Json.record
    [("screenshots", some (.bool options.screenshots)),
      ("html", some (.bool options.html)),
      ("outputDir", options.outputDir.map .str)]

def Config.toJson (config : Config) : Json :=
  Json.record
    [("site", some config.site.toJson),
      ("browser", some config.browser.toJson),
      ("rateLimit", some config.rateLimit.toJson),
      ("workflow", some (.arr (config.workflow.map Action.toJson))),
      ("mapping", some config.mapping.toJson),
      ("validation", some config.validation.toJson),
      ("debug", some config.debug.toJson),
      ("dateFormats",
        if config.dateFormats.isEmpty then none
        else some (.obj (config.dateFormats.map fun (name, target) => (name, .str target))))]

end GigListings
