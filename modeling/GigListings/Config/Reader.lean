import GigListings.Config.Basic
import GigListings.Json.Decode

namespace GigListings

open Json

/-! Configurations read from JSON. -/

namespace FieldRule

def readerWith (followUp : Reader FollowUp) : Reader FieldRule :=
  RecordReader.run
    (FieldRule.mk <$> .optional "selector" Reader.text
      <*> .withDefault "attribute" Reader.text "text"
      <*> .withDefault "required" Reader.truth false
      <*> .optional "fallback" Reader.text
      <*> .optional "transform" Reader.text
      <*> .optional "transformParams" (Reader.dict Reader.any)
      <*> .withDefault "multiple" Reader.truth false
      <*> .optional "followUp" followUp)
    "struct FieldConfig"

end FieldRule

def FollowUp.readerWith (field : Reader FieldRule) : Reader FollowUp :=
  RecordReader.run
    (FollowUp.mk <$> .optional "urlField" Reader.text
      <*> .member "fields" (Reader.dict field))
    "struct FollowUpConfig"

/-- Reads fields whose visits to other pages are nested at most so deep. -/
def FieldRule.readerTo : (depth : Nat) → Reader FieldRule
  | 0 => FieldRule.readerWith fun value => .error (.wrongType value "struct FollowUpConfig")
  | depth + 1 => FieldRule.readerWith (FollowUp.readerWith (FieldRule.readerTo depth))

def FieldRule.reader : Reader FieldRule := fun value => FieldRule.readerTo value.depth value

def FollowUp.reader : Reader FollowUp := FollowUp.readerWith FieldRule.reader

/-! Actions. -/

namespace NavigateAction

def reader : Reader NavigateAction :=
  RecordReader.run
    (NavigateAction.mk <$> .member "url" Reader.text
      <*> .optional "waitForLoad" Reader.truth)
    "struct NavigateAction"

end NavigateAction

namespace WaitAction

def reader : Reader WaitAction :=
  RecordReader.run
    (WaitAction.mk <$> .optional "selector" Reader.text
      <*> .withDefault "condition"
        (Reader.variant (WaitCondition.all.map fun condition => (condition.name, condition)))
        .visible
      <*> .optional "timeout" Reader.word64)
    "struct WaitAction"

end WaitAction

namespace ClickAction

def reader : Reader ClickAction :=
  RecordReader.run
    (ClickAction.mk <$> .member "selector" Reader.text
      <*> .withDefault "optional" Reader.truth false
      <*> .optional "waitAfter" Reader.word64)
    "struct ClickAction"

end ClickAction

namespace ScrollAction

def reader : Reader ScrollAction :=
  RecordReader.run
    (ScrollAction.mk <$> .withDefault "direction"
        (Reader.variant (ScrollDirection.all.map fun direction => (direction.name, direction)))
        .down
      <*> .optional "amount" Reader.signed64
      <*> .optional "waitAfter" Reader.word64)
    "struct ScrollAction"

end ScrollAction

def DateGroups.reader : Reader DateGroups :=
  RecordReader.run
    (DateGroups.mk <$> .member "headingSelector" Reader.text
      <*> .member "eventSelector" Reader.text
      <*> .optional "format" Reader.text)
    "struct DateGroupConfig"

namespace ExtractAction

def reader : Reader ExtractAction :=
  RecordReader.run
    (ExtractAction.mk <$> .member "containerSelector" Reader.text
      <*> .member "fields" (Reader.dict FieldRule.reader)
      <*> .optional "followUp" FollowUp.reader
      <*> .optional "dateGroups" DateGroups.reader)
    "struct ExtractAction"

end ExtractAction

namespace Action

def Kind.reader : Kind → Reader Action
  | .navigate => fun value => (NavigateAction.reader value).map Action.navigate
  | .wait => fun value => (WaitAction.reader value).map Action.wait
  | .click => fun value => (ClickAction.reader value).map Action.click
  | .scroll => fun value => (ScrollAction.reader value).map Action.scroll
  | .extract => fun value => (ExtractAction.reader value).map Action.extract

def Kind.ofTag : Json → Reading Kind
  | .str name =>
      match Kind.all.find? (·.name = name) with
      | some kind => .ok kind
      | none => .error (.unknownVariant name (Kind.all.map Kind.name))
  | tag => .error (.wrongType tag "variant identifier")

/-- The member `type` tells the kind; in an array the first item does. -/
def reader : Reader Action
  | .obj members =>
      match Members.get? members "type" with
      | some tag => (Kind.ofTag tag).bind fun kind => kind.reader (.obj members)
      | none => .error (.missing "type")
  | .arr (tag :: items) => (Kind.ofTag tag).bind fun kind => kind.reader (.arr items)
  | .arr [] => .error (.missing "type")
  | value => .error (.wrongType value "internally tagged enum ActionConfig")

end Action

/-! Mappings. -/

def TransformedField.reader : Reader TransformedField :=
  RecordReader.run
    (TransformedField.mk <$> .member "field" Reader.text
      <*> .member "transform" Reader.text
      <*> .optional "transformParams" (Reader.dict Reader.any))
    "struct TransformedMapping"

def MappingValue.reader : Reader MappingValue
  | .str name => .ok (.field name)
  | value =>
      match TransformedField.reader value with
      | .ok value => .ok (.transformed value)
      | .error _ => .error (.noVariant "MappingValue")

def Coordinate.reader : Reader Coordinate
  | .str name => .ok (.field name)
  | value =>
      match Reader.number value with
      | .ok number => .ok (.fixed number)
      | .error _ => .error (.noVariant "Coordinate")

def VenueMapping.reader : Reader VenueMapping :=
  RecordReader.run
    (VenueMapping.mk <$> .member "name" Reader.text
      <*> .optional "address" Reader.text
      <*> .optional "city" Reader.text
      <*> .optional "country" Reader.text
      <*> .optional "lat" Coordinate.reader
      <*> .optional "lng" Coordinate.reader)
    "struct VenueMapping"

def Mapping.reader : Reader Mapping :=
  RecordReader.run
    (Mapping.mk <$> .member "title" MappingValue.reader
      <*> .optional "artists" MappingValue.reader
      <*> .member "venue" VenueMapping.reader
      <*> .member "dateStart" MappingValue.reader
      <*> .optional "dateEnd" MappingValue.reader
      <*> .optional "sourceId" MappingValue.reader
      <*> .optional "eventUrl" MappingValue.reader
      <*> .optional "ticketsUrl" MappingValue.reader
      <*> .optional "images" MappingValue.reader
      <*> .optional "genre" MappingValue.reader
      <*> .optional "ageRestriction" MappingValue.reader
      <*> .optional "description" MappingValue.reader
      <*> .optional "status" MappingValue.reader)
    "struct MappingConfig"

/-! Blocks. -/

def Site.reader : Reader Site :=
  RecordReader.run
    (Site.mk <$> .member "name" Reader.text
      <*> .member "source" Reader.text
      <*> .member "baseUrl" Reader.text
      <*> .optional "timezone" Reader.text)
    "struct SiteConfig"

def Viewport.reader : Reader Viewport :=
  RecordReader.run
    (Viewport.mk <$> .member "width" Reader.word32
      <*> .member "height" Reader.word32)
    "struct Viewport"

def BrowserOptions.reader : Reader BrowserOptions :=
  RecordReader.run
    (BrowserOptions.mk <$> .withDefault "viewport" Viewport.reader default
      <*> .withDefault "timeout" Reader.word64 30000
      <*> .optional "userAgent" Reader.text
      <*> .withDefault "headless" Reader.truth true)
    "struct BrowserOptions"

def RateLimit.reader : Reader RateLimit :=
  RecordReader.run
    (RateLimit.mk <$> .optional "delayBetweenRequests" Reader.word64
      <*> .withDefault "maxConcurrency" Reader.word32 1
      <*> .withDefault "respectRobots" Reader.truth true)
    "struct RateLimitPolicy"

def ValidationRules.reader : Reader ValidationRules :=
  RecordReader.run
    (ValidationRules.mk <$> .optional "minEventsExpected" Reader.size
      <*> .optional "maxEventsExpected" Reader.size
      <*> .withDefault "required" (Reader.list Reader.text) [])
    "struct ValidationRules"

def DebugOptions.reader : Reader DebugOptions :=
  RecordReader.run
    (DebugOptions.mk <$> .withDefault "screenshots" Reader.truth false
      <*> .withDefault "html" Reader.truth false
      <*> .optional "outputDir" Reader.text)
    "struct DebugOptions"

def Config.reader : Reader Config :=
  RecordReader.run
    (Config.mk <$> .member "site" Site.reader
      <*> .withDefault "browser" BrowserOptions.reader default
      <*> .withDefault "rateLimit" RateLimit.reader default
      <*> .member "workflow" (Reader.list Action.reader)
      <*> .member "mapping" Mapping.reader
      <*> .withDefault "validation" ValidationRules.reader default
      <*> .withDefault "debug" DebugOptions.reader default
      <*> .withDefault "dateFormats" (Reader.dict Reader.text) [])
    "struct ScraperConfig"

end GigListings
