import GigListings.Gig.Identity
import GigListings.Proofs.Gig.Reread
import GigListings.Proofs.Text.Pieces
import Mathlib.Tactic.ByContra

namespace GigListings

open Json Digest Text

/-! The hash of a gig tells its content: everything but the hash itself and the time of its
update. -/

theorem toUTF8_toList_inj {a b : String} (same : a.toUTF8.toList = b.toUTF8.toList) : a = b := by
  rw [byteArray_toList, byteArray_toList] at same
  exact String.toByteArray_inj.mp (ByteArray.ext (Array.toList_inj.mp same))

def Digest.Collides (digest : List UInt8 → δ) (a b : List UInt8) : Prop :=
  a ≠ b ∧ digest a = digest b

namespace Gig

def content (gig : Gig) : Gig := { gig with hash := "", updatedAt := "" }

def contentBytes (gig : Gig) : List UInt8 := gig.contentText.toUTF8.toList

theorem contentText_content (gig : Gig) : gig.content.contentText = gig.contentText := rfl

/-- What is hashed determines everything that comes back of the content. -/
theorem reread_content_of_contentJson {a b : Gig} (same : a.contentJson = b.contentJson) :
    a.content.reread = b.content.reread := by
  have members : written a.contentMembers = written b.contentMembers := Json.obj.inj same
  have written : a.content.toJson = b.content.toJson := by
    rw [toJson, toJson, record_eq_obj, record_eq_obj, written_append, written_append]
    exact congrArg (fun members => obj (members ++ _)) members
  have read := (a.content.reader_toJson 0).1
  rw [written, (b.content.reader_toJson 0).1] at read
  exact (Except.ok.inj read).symm

variable {a b : Gig}

theorem contentText_eq_iff_content (aFinite : a.HasFiniteCoordinates)
    (bFinite : b.HasFiniteCoordinates) : a.contentText = b.contentText ↔ a.content = b.content := by
  constructor
  · intro same
    have back := reread_content_of_contentJson (contentText_eq_iff.mp same)
    have aBack : a.content.reread = a.content := reread_eq_iff.mpr aFinite
    have bBack : b.content.reread = b.content := reread_eq_iff.mpr bFinite
    rwa [aBack, bBack] at back
  · intro same
    rw [← a.contentText_content, same, b.contentText_content]

/-- A digest that does not collide on two contents tells whether they are the same. -/
theorem contentDigest_eq_iff {digest : List UInt8 → δ}
    (apart : ¬Collides digest a.contentBytes b.contentBytes) :
    a.contentDigest digest = b.contentDigest digest ↔ a.contentText = b.contentText := by
  constructor
  · intro same
    by_contra different
    exact apart ⟨fun bytes => different (toUTF8_toList_inj bytes), same⟩
  · intro same
    rw [contentDigest, contentDigest, same]

/-- Gigs with finite coordinates have the same hash exactly if their content is the same, as long
as the digest does not collide on them. The text that is hashed tells the content by itself. -/
theorem contentHash_eq_iff (aFinite : a.HasFiniteCoordinates) (bFinite : b.HasFiniteCoordinates)
    (apart : ¬Collides Sha256.hex a.contentBytes b.contentBytes) :
    (a.contentHash = b.contentHash ↔ a.content = b.content) ∧
      (a.contentText = b.contentText ↔ a.content = b.content) := by
  have text := contentText_eq_iff_content aFinite bFinite
  exact ⟨(contentDigest_eq_iff apart).trans text, text⟩

/-! A concert that sells out. -/

def concert : Gig where
  id := ""
  source := ""
  sourceId := none
  title := "Idles"
  artists := []
  venue := ⟨"", none, none, none, none, none⟩
  dateStart := ""
  dateEnd := none
  timezone := none
  eventUrl := none
  ticketsUrl := none
  images := []
  genre := []
  ageRestriction := none
  description := none
  status := .scheduled
  hash := ""
  updatedAt := ""

def soldOut : Gig := { concert with status := .soldout }

theorem contentHash_eq_iff_soldOut :
    ¬Collides Sha256.hex concert.contentBytes soldOut.contentBytes ∧
      (concert.contentHash = soldOut.contentHash ↔ concert.content = soldOut.content) ∧
      concert.content ≠ soldOut.content := by
  have different : Sha256.hex concert.contentBytes ≠ Sha256.hex soldOut.contentBytes := by
    decide +kernel
  have apart : ¬Collides Sha256.hex concert.contentBytes soldOut.contentBytes :=
    fun collides => different collides.2
  have finite : concert.HasFiniteCoordinates ∧ soldOut.HasFiniteCoordinates := by
    unfold HasFiniteCoordinates
    decide
  exact ⟨apart, (contentHash_eq_iff finite.1 finite.2 apart).1, by decide⟩

end Gig

open Text

/-! What identifiers tell of events. The parts of a name stand between bars, but bars inside of
them are left as they are, so that one name may be read in several ways. -/

def Digest.NameId.Collide (space : List UInt8) (a b : String) : Prop :=
  a ≠ b ∧ ofName space a = ofName space b

structure EventKey where
  venue : String
  title : String
  dateStart : String
  city : Option String

namespace EventKey

def id (key : EventKey) : String := Gig.idOf key.venue key.title key.dateStart key.city

def name (key : EventKey) : String := Gig.idName key.venue key.title key.dateStart key.city

/-- A missing city counts as an empty one. -/
def texts (key : EventKey) : List String := [key.venue, key.title, key.dateStart, key.city.getD ""]

/-- The texts as they are compared: in lower case, and with single spaces for blanks. -/
def parts (key : EventKey) : List (List Char) := key.texts.map Gig.idPart

def bars (key : EventKey) : List Nat := key.texts.map fun text => text.toList.count '|'

theorem id_eq (key : EventKey) : key.id = NameId.ofName NameId.linkNamespace key.name := rfl

theorem name_eq (key : EventKey) : key.name = String.ofList (intercalate ['|'] key.parts) := rfl

theorem count_idPart (text : String) : (Gig.idPart text).count '|' = text.toList.count '|' := by
  rw [Gig.idPart, lower, count_lowerAfter_bar, count_intercalate (by decide), count_words rfl]

theorem bars_eq (key : EventKey) : key.bars = key.parts.map (·.count '|') := by
  rw [bars, parts, List.map_map]
  exact List.map_congr_left fun text _ => (count_idPart text).symm

/-- The parts of a name can be told from it once it is known which of its bars are part of them. -/
theorem parts_eq_iff_name {key other : EventKey} :
    key.parts = other.parts ↔ key.name = other.name ∧ key.bars = other.bars := by
  rw [name_eq, name_eq, bars_eq, bars_eq]
  constructor
  · intro same
    rw [same]
    exact ⟨rfl, rfl⟩
  · rintro ⟨name, bars⟩
    exact intercalate_inj bars (String.ofList_injective name)

/-- Events whose names do not collide agree in their parts exactly if they have the same
identifier and the same number of bars in each of their texts. -/
theorem parts_eq_iff_id {key other : EventKey}
    (apart : ¬NameId.Collide NameId.linkNamespace key.name other.name) :
    key.parts = other.parts ↔ key.id = other.id ∧ key.bars = other.bars := by
  have names : key.id = other.id ↔ key.name = other.name := by
    constructor
    · intro same
      by_contra different
      exact apart ⟨different, same⟩
    · intro same
      rw [id_eq, id_eq, same]
  rw [parts_eq_iff_name, names]

/-! A stage of its own may be printed with the venue or with the title. -/

def atVenue : EventKey := ⟨"The Fleece|Upstairs", "Idles", "2025-08-13T19:30:00.000Z", none⟩

def inTitle : EventKey := ⟨"The Fleece", "Upstairs|Idles", "2025-08-13T19:30:00.000Z", none⟩

/-- The same two lines as of `atVenue`, in other letters, on the day after. -/
def dayAfter : EventKey := ⟨" the FLEECE|Upstairs", "idles", "2025-08-14T19:30:00.000Z", none⟩

theorem parts_eq_iff_id_dayAfter :
    ¬NameId.Collide NameId.linkNamespace atVenue.name dayAfter.name ∧
      atVenue.bars = dayAfter.bars ∧ atVenue.id ≠ dayAfter.id ∧
      (atVenue.parts = dayAfter.parts ↔ atVenue.id = dayAfter.id ∧ atVenue.bars = dayAfter.bars) := by
  have different : atVenue.id ≠ dayAfter.id := by decide +kernel
  have apart : ¬NameId.Collide NameId.linkNamespace atVenue.name dayAfter.name :=
    fun collide => different collide.2
  exact ⟨apart, by decide, different, parts_eq_iff_id apart⟩

/-- Events with different parts may have one name, and with it one identifier. -/
theorem id_eq_of_parts_ne :
    atVenue.name = inTitle.name ∧ atVenue.id = inTitle.id ∧ atVenue.parts ≠ inTitle.parts := by
  have name : atVenue.name = inTitle.name := by decide +kernel
  exact ⟨name, congrArg (NameId.ofName NameId.linkNamespace) name, by decide +kernel⟩

end EventKey

end GigListings
