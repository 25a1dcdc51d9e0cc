import GigListings.Config.Basic
import GigListings.Gig.Identity
import GigListings.Number.Reader
import GigListings.Transform.Basic

namespace GigListings

open Number

/-! Items become gigs by a configuration's mapping. -/

structure Normalizer where
  config : Config
  transforms : TransformRegistry
  formats : FormatRegistry
  dates : DateContext
  now : Instant

namespace Normalizer

def context (normalizer : Normalizer) : TransformContext :=
  ⟨normalizer.config.site.baseUrl, normalizer.dates, normalizer.formats⟩

/-- The field that a mapping names, run through the mapping's transform. -/
def resolve? (normalizer : Normalizer) (item : Item) (mapping : MappingValue) :
    Option FieldValue := do
  let value ← Dict.get? item mapping.fieldName
  match mapping with
  | .field _ => return value
  | .transformed mapping =>
      let args := Args.resolve mapping.transformParams item fun name => Dict.contains item name
      normalizer.transforms.apply mapping.transform value args normalizer.context

/-- The first text of a mapping without the blanks around it. -/
def text? (normalizer : Normalizer) (item : Item) (mapping : Option MappingValue) :
    Option String := do
  let value ← normalizer.resolve? item (← mapping)
  let text := trimText (← value.first?)
  if text = "" then none else some text

/-- All texts of a mapping that are not blank. -/
def texts (normalizer : Normalizer) (item : Item) (mapping : Option MappingValue) : List String :=
  match mapping.bind (normalizer.resolve? item) with
  | some value => (value.toList.map trimText).filter (· ≠ "")
  | none => []

/-- Timestamps are taken as they are, other texts are read as dates. -/
def date? (normalizer : Normalizer) (item : Item) (mapping : Option MappingValue) :
    Option String := do
  let text ← normalizer.text? item mapping
  match Instant.ofIso? text.toList with
  | some instant => return instant.iso
  | none =>
      match normalizer.formats.parse none text none normalizer.dates with
      | .ok printed => return printed.iso normalizer.dates
      | .error _ => none

/-- The field of a name if the item has it, else the name itself. -/
def fieldOrName (item : Item) (name : String) : String := (item.link? name).getD name

def coordinate? (item : Item) : Coordinate → Option Binary64
  | .fixed value => some value
  | .field name => Binary64.ofText? (trimText (fieldOrName item name))

def venue (mapping : VenueMapping) (item : Item) : Venue where
  name := fieldOrName item mapping.name
  address := mapping.address.map (fieldOrName item)
  city := mapping.city.map (fieldOrName item)
  country := mapping.country.map (fieldOrName item)
  lat := mapping.lat.bind (coordinate? item)
  lng := mapping.lng.bind (coordinate? item)

def draft (normalizer : Normalizer) (item : Item) (dateStart : String) : Gig :=
  let mapping := normalizer.config.mapping
  let title := (normalizer.text? item (some mapping.title)).getD ""
  let venue := venue mapping.venue item
  { id := Gig.idOf venue.name title dateStart venue.city
    source := normalizer.config.site.source
    sourceId := normalizer.text? item mapping.sourceId
    title
    artists := normalizer.texts item mapping.artists
    venue
    dateStart
    dateEnd := normalizer.date? item mapping.dateEnd
    timezone := normalizer.config.site.timezone
    eventUrl := normalizer.text? item mapping.eventUrl
    ticketsUrl := normalizer.text? item mapping.ticketsUrl
    images := normalizer.texts item mapping.images
    genre := normalizer.texts item mapping.genre
    ageRestriction := normalizer.text? item mapping.ageRestriction
    description := normalizer.text? item mapping.description
    status := ((normalizer.text? item mapping.status).bind GigStatus.ofText?).getD default
    hash := ""
    updatedAt := normalizer.now.iso }

def hashed (gig : Gig) : Gig := { gig with hash := gig.contentHash }

/-- An item without a start date gives no gig. -/
def gig? (normalizer : Normalizer) (item : Item) : Option Gig :=
  (normalizer.date? item (some normalizer.config.mapping.dateStart)).map fun dateStart =>
    hashed (normalizer.draft item dateStart)

def gigs (normalizer : Normalizer) (items : List Item) : List Gig := items.filterMap normalizer.gig?

end Normalizer

end GigListings
