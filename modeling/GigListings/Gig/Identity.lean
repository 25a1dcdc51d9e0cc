import GigListings.Digest.NameId
import GigListings.Digest.Sha256
import GigListings.Gig.Basic

namespace GigListings

open Text Digest

/-! What identifies an event, and what tells that it has changed. -/

namespace Gig

/-- Case and blanks do not tell events apart. -/
def idPart (text : String) : List Char := lower (intercalate [' '] (words text.toList))

/-- The name an identifier is made from. A missing city counts as an empty one. -/
def idName (venue title dateStart : String) (city : Option String) : String :=
  String.ofList (intercalate ['|'] ([venue, title, dateStart, city.getD ""].map idPart))

def idOf (venue title dateStart : String) (city : Option String) : String :=
  NameId.ofName NameId.linkNamespace (idName venue title dateStart city)

/-- Everything but the hash and the time of the last update, in one text. -/
def contentText (gig : Gig) : String := gig.contentJson.compact

/-- The content in the digest of choice. -/
def contentDigest (digest : List UInt8 → δ) (gig : Gig) : δ := digest gig.contentText.toUTF8.toList

def contentHash (gig : Gig) : String := gig.contentDigest Sha256.hex

end Gig

end GigListings
