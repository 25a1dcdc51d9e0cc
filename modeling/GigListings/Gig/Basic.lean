import GigListings.Json.Decode
import GigListings.Text.Basic

namespace GigListings

open Number Json Text

inductive GigStatus where
  | scheduled
  | cancelled
  | postponed
  | soldout
  | rescheduled
deriving DecidableEq, Repr

namespace GigStatus

instance : Inhabited GigStatus := ⟨scheduled⟩

def all : List GigStatus := [scheduled, cancelled, postponed, soldout, rescheduled]

def name : GigStatus → String
  | scheduled => "scheduled"
  | cancelled => "cancelled"
  | postponed => "postponed"
  | soldout => "soldout"
  | rescheduled => "rescheduled"

/-- The words that tell of a status. The first status with a word in the text counts. -/
def signs : List (String × GigStatus) :=
  [("cancel", cancelled), ("postpone", postponed), ("reschedul", rescheduled),
    ("sold out", soldout), ("soldout", soldout), ("sold-out", soldout),
    ("scheduled", scheduled), ("on sale", scheduled)]

/-- The status that a listing's text announces, in any case. -/
def ofText? (text : String) : Option GigStatus :=
  let text := lower text.toList
  (signs.find? fun (sign, _) => contains sign.toList text).map Prod.snd

end GigStatus

structure Venue where
  name : String
  address : Option String
  city : Option String
  country : Option String
  lat : Option Binary64
  lng : Option Binary64
deriving DecidableEq

structure Gig where
  id : String
  source : String
  sourceId : Option String
  title : String
  artists : List String
  venue : Venue
  dateStart : String
  dateEnd : Option String
  timezone : Option String
  eventUrl : Option String
  ticketsUrl : Option String
  images : List String
  genre : List String
  ageRestriction : Option String
  description : Option String
  status : GigStatus
  hash : String
  updatedAt : String
deriving DecidableEq

/-! Written and read as JSON. Members without a value are left out. -/

/-- A coordinate that is no finite number is written as null. -/
def coordinateJson (value : Binary64) : Json := if value.isFinite then .real value else .null

namespace Venue

def toJson (venue : Venue) : Json :=
  Json.record
    [("name", some (.str venue.name)),
      ("address", venue.address.map .str),
      ("city", venue.city.map .str),
      ("country", venue.country.map .str),
      ("lat", venue.lat.map coordinateJson),
      ("lng", venue.lng.map coordinateJson)]

def reader : Reader Venue :=
  RecordReader.run
    (Venue.mk <$> .member "name" Reader.text
      <*> .nullable "address" Reader.text
      <*> .nullable "city" Reader.text
      <*> .nullable "country" Reader.text
      <*> .nullable "lat" Reader.number
      <*> .nullable "lng" Reader.number)
    "struct Venue"

end Venue

def GigStatus.reader : Reader GigStatus :=
  Reader.variant (GigStatus.all.map fun status => (status.name, status))

namespace Gig

/-- The members that tell of the event itself. -/
def contentMembers (gig : Gig) : List (String × Option Json) :=
  [("id", some (.str gig.id)),
    ("source", some (.str gig.source)),
    ("sourceId", gig.sourceId.map .str),
    ("title", some (.str gig.title)),
    ("artists", some (Json.strings gig.artists)),
    ("venue", some gig.venue.toJson),
    ("dateStart", some (.str gig.dateStart)),
    ("dateEnd", gig.dateEnd.map .str),
    ("timezone", gig.timezone.map .str),
    ("eventUrl", gig.eventUrl.map .str),
    ("ticketsUrl", gig.ticketsUrl.map .str),
    ("images", some (Json.strings gig.images)),
    ("genre", some (Json.strings gig.genre)),
    ("ageRestriction", gig.ageRestriction.map .str),
    ("description", gig.description.map .str),
    ("status", some (.str gig.status.name))]

def contentJson (gig : Gig) : Json := Json.record gig.contentMembers

def toJson (gig : Gig) : Json :=
  Json.record
    (gig.contentMembers ++
      [("hash", some (.str gig.hash)), ("updatedAt", some (.str gig.updatedAt))])

def reader : Reader Gig :=
  RecordReader.run
    (Gig.mk <$> .member "id" Reader.text
      <*> .member "source" Reader.text
      <*> .nullable "sourceId" Reader.text
      <*> .member "title" Reader.text
      <*> .member "artists" (Reader.list Reader.text)
      <*> .member "venue" Venue.reader
      <*> .member "dateStart" Reader.text
      <*> .nullable "dateEnd" Reader.text
      <*> .nullable "timezone" Reader.text
      <*> .nullable "eventUrl" Reader.text
      <*> .nullable "ticketsUrl" Reader.text
      <*> .member "images" (Reader.list Reader.text)
      <*> .member "genre" (Reader.list Reader.text)
      <*> .nullable "ageRestriction" Reader.text
      <*> .nullable "description" Reader.text
      <*> .member "status" GigStatus.reader
      <*> .member "hash" Reader.text
      <*> .member "updatedAt" Reader.text)
    "struct Gig"

end Gig

end GigListings
