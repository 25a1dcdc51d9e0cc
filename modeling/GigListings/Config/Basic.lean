import GigListings.Config.Action

namespace GigListings

open Number

structure Site where
  name : String
  source : String
  baseUrl : String
  timezone : Option String
deriving DecidableEq

structure Viewport where
  width : UInt32
  height : UInt32
deriving DecidableEq

structure BrowserOptions where
  viewport : Viewport
  /-- In milliseconds, for loading and waiting. -/
  timeout : UInt64
  userAgent : Option String
  headless : Bool
deriving DecidableEq

structure RateLimit where
  /-- Milliseconds between actions and before visits to other pages. -/
  delayBetweenRequests : Option UInt64
  maxConcurrency : UInt32
  respectRobots : Bool
deriving DecidableEq

structure ValidationRules where
  minEventsExpected : Option UInt64
  maxEventsExpected : Option UInt64
  /-- Paths into a gig, with points between the names. -/
  required : List String
deriving DecidableEq

structure DebugOptions where
  screenshots : Bool
  html : Bool
  outputDir : Option String
deriving DecidableEq

def DebugOptions.enabled (options : DebugOptions) : Bool := options.screenshots || options.html

/-! How items become gigs. -/

structure TransformedField where
  field : String
  transform : String
  transformParams : Option Params
deriving BEq

inductive MappingValue where
  | field (name : String)
  | transformed (value : TransformedField)
deriving BEq

def MappingValue.fieldName : MappingValue → String
  | field name => name
  | transformed value => value.field

inductive Coordinate where
  | fixed (value : Binary64)
  | field (name : String)
deriving DecidableEq

/-- Values name a field if the item has it, otherwise they stand for themselves. -/
structure VenueMapping where
  name : String
  address : Option String
  city : Option String
  country : Option String
  lat : Option Coordinate
  lng : Option Coordinate
deriving DecidableEq

structure Mapping where
  title : MappingValue
  artists : Option MappingValue
  venue : VenueMapping
  dateStart : MappingValue
  dateEnd : Option MappingValue
  sourceId : Option MappingValue
  eventUrl : Option MappingValue
  ticketsUrl : Option MappingValue
  images : Option MappingValue
  genre : Option MappingValue
  ageRestriction : Option MappingValue
  description : Option MappingValue
  status : Option MappingValue
deriving BEq

structure Config where
  site : Site
  browser : BrowserOptions
  rateLimit : RateLimit
  workflow : List Action
  mapping : Mapping
  validation : ValidationRules
  debug : DebugOptions
  /-- Names of the site's own for the built-in date formats. -/
  dateFormats : Dict String
deriving BEq

/-! What applies when a block is absent. -/

instance : Inhabited Viewport := ⟨⟨1366, 768⟩⟩

instance : Inhabited BrowserOptions := ⟨⟨default, 30000, none, true⟩⟩

instance : Inhabited RateLimit := ⟨⟨some 1000, 1, true⟩⟩

instance : Inhabited ValidationRules := ⟨⟨some 1, none, ["title", "dateStart"]⟩⟩

instance : Inhabited DebugOptions := ⟨⟨false, false, none⟩⟩

end GigListings
