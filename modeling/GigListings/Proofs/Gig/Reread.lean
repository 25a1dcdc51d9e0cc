import GigListings.Gig.Normalizer
import GigListings.Proofs.Config.Blocks
import GigListings.Proofs.Gig.DateStart
import GigListings.Proofs.Gig.Updated
import GigListings.Proofs.Json.RoundTrip
import GigListings.Proofs.Storage.Folders
import GigListings.Storage.GigFile

namespace GigListings

open Json Number

/-! Gigs that are written into a file and read again. All that was written comes back; a coordinate
that is no finite number is written as null and comes back as none. -/

namespace Json

variable {depth : Nat}

theorem Suits.of_printable {entry : String × Option Json}
    (printable : ∀ value, entry.2 = some value → value.Printable depth) :
    Suits [] depth entry where
  fits := fun schema value declared => by cases declared
  printable := printable

namespace Conveys

theorem written (name : String) {reader : Reader α} {a : α} {value : Json}
    (reads : reader value = .ok a) (printable : value.Printable depth) :
    Conveys [] depth (.member name reader) a [(name, some value)] := by
  refine one (.of_printable ?_) reads
  rintro value ⟨⟩
  exact printable

theorem text (name text : String) :
    Conveys [] depth (.member name Reader.text) text [(name, some (.str text))] :=
  written name rfl trivial

theorem texts (name : String) (texts : List String) :
    Conveys [] (depth + 1) (.member name (Reader.list Reader.text)) texts
      [(name, some (strings texts))] := by
  refine written name (mapM_text_strings texts) ?_
  rw [strings, printable_arr]
  intro item member
  obtain ⟨text, -, rfl⟩ := List.mem_map.mp member
  trivial

theorem nullable {name : String} {reader : Reader α} {a : Option α} {value : Option Json}
    (takes : Takes (Reader.option reader) (some none) value a)
    (printable : ∀ found, value = some found → found.Printable depth) :
    Conveys [] depth (.nullable name reader) a [(name, value)] :=
  ⟨(one (.of_printable printable) takes).suits, (one (.of_printable printable) takes).reads⟩

theorem nullableText (name : String) (text : Option String) :
    Conveys [] depth (.nullable name Reader.text) text [(name, text.map .str)] := by
  cases text with
  | none => exact nullable rfl (by simp)
  | some text =>
      refine nullable rfl ?_
      rintro value ⟨⟩
      trivial

/-- A coordinate that is no finite number counts as none when it is read. -/
theorem coordinate (name : String) (value : Option Binary64) :
    Conveys [] depth (.nullable name Reader.number) (value.filter (·.isFinite))
      [(name, value.map coordinateJson)] := by
  cases value with
  | none => exact nullable rfl (by simp)
  | some x =>
      cases finite : x.isFinite with
      | true =>
          have number : coordinateJson x = .real x := if_pos finite
          rw [Option.filter_some_pos finite, Option.map_some, number]
          refine nullable rfl ?_
          rintro value ⟨⟩
          exact finite
      | false =>
          have null : coordinateJson x = .null := by
            rw [coordinateJson, finite]
            rfl
          rw [Option.filter_some_neg (by simp [finite]), Option.map_some, null]
          refine nullable rfl ?_
          rintro value ⟨⟩
          trivial

theorem run_record {reader : RecordReader α} {type : String} {a : α}
    {entries : List (String × Option Json)} (conveys : Conveys [] depth reader a entries)
    {names : List String} (named : entries.map Prod.fst = names) (distinct : names.Nodup) :
    reader.run type (record entries) = .ok a ∧ (record entries).Printable (depth + 1) := by
  subst named
  constructor
  · rw [record_eq_obj, RecordReader.run_obj]
    exact conveys.reads _ (fun entry member => get?_written distinct member) _ _
  · exact printable_record distinct fun entry member => (conveys.suits entry member).printable

end Conveys

end Json

namespace Venue

def reread (venue : Venue) : Venue :=
  { venue with lat := venue.lat.filter (·.isFinite), lng := venue.lng.filter (·.isFinite) }

theorem reader_toJson (venue : Venue) (depth : Nat) :
    reader venue.toJson = .ok venue.reread ∧ venue.toJson.Printable (depth + 1) := by
  have names : ["name", "address", "city", "country", "lat", "lng"].Nodup := by decide
  have name : Conveys [] depth (.member "name" Reader.text) venue.name
      [("name", some (.str venue.name))] := .text "name" venue.name
  have conveys := (((((name.map Venue.mk).seq
    (.nullableText "address" venue.address)).seq (.nullableText "city" venue.city)).seq
    (.nullableText "country" venue.country)).seq (.coordinate "lat" venue.lat)).seq
    (.coordinate "lng" venue.lng)
  exact conveys.run_record rfl names

end Venue

namespace Gig

def reread (gig : Gig) : Gig := { gig with venue := gig.venue.reread }

def contentNames : List String :=
  ["id", "source", "sourceId", "title", "artists", "venue", "dateStart", "dateEnd", "timezone",
    "eventUrl", "ticketsUrl", "images", "genre", "ageRestriction", "description", "status"]

theorem reader_toJson (gig : Gig) (depth : Nat) :
    reader gig.toJson = .ok gig.reread ∧ gig.toJson.Printable (depth + 2) := by
  have names : (contentNames ++ ["hash", "updatedAt"]).Nodup := by decide
  obtain ⟨readsVenue, venuePrintable⟩ := gig.venue.reader_toJson depth
  have status : GigStatus.reader (.str gig.status.name) = .ok gig.status := by
    cases gig.status <;> rfl
  have conveys := ((((((((((((((((((Conveys.text "id" gig.id).map Gig.mk).seq
    (.text "source" gig.source)).seq (.nullableText "sourceId" gig.sourceId)).seq
    (.text "title" gig.title)).seq (.texts "artists" gig.artists)).seq
    (.written "venue" readsVenue venuePrintable)).seq (.text "dateStart" gig.dateStart)).seq
    (.nullableText "dateEnd" gig.dateEnd)).seq (.nullableText "timezone" gig.timezone)).seq
    (.nullableText "eventUrl" gig.eventUrl)).seq (.nullableText "ticketsUrl" gig.ticketsUrl)).seq
    (.texts "images" gig.images)).seq (.texts "genre" gig.genre)).seq
    (.nullableText "ageRestriction" gig.ageRestriction)).seq
    (.nullableText "description" gig.description)).seq (.written "status" status trivial)).seq
    (.text "hash" gig.hash)).seq (.text "updatedAt" gig.updatedAt)
  simp only [List.cons_append, List.nil_append] at conveys
  exact conveys.run_record rfl names

def HasFiniteCoordinates (gig : Gig) : Prop :=
  (∀ x ∈ gig.venue.lat, x.isFinite = true) ∧ ∀ x ∈ gig.venue.lng, x.isFinite = true

end Gig

theorem filter_isFinite_eq_iff {value : Option Binary64} :
    value.filter (·.isFinite) = value ↔ ∀ x ∈ value, x.isFinite = true := by
  cases value with
  | none => simp
  | some x => simp [Option.filter_some]

theorem map_coordinateJson_filter_iff {value : Option Binary64} :
    (value.filter (·.isFinite)).map coordinateJson = value.map coordinateJson ↔
      ∀ x ∈ value, x.isFinite = true := by
  cases value with
  | none => simp
  | some x =>
      cases finite : x.isFinite with
      | true => simp [finite]
      | false => simp [finite]

namespace Gig

theorem reread_eq_iff {gig : Gig} : gig.reread = gig ↔ gig.HasFiniteCoordinates := by
  rw [HasFiniteCoordinates, ← filter_isFinite_eq_iff, ← filter_isFinite_eq_iff]
  constructor
  · intro same
    have sameVenue : gig.venue.reread = gig.venue := congrArg Gig.venue same
    exact ⟨congrArg Venue.lat sameVenue, congrArg Venue.lng sameVenue⟩
  · rintro ⟨lat, lng⟩
    rw [reread, Venue.reread, lat, lng]

end Gig

namespace Venue

theorem toJson_reread_iff {venue : Venue} :
    venue.reread.toJson = venue.toJson ↔
      (∀ x ∈ venue.lat, x.isFinite = true) ∧ ∀ x ∈ venue.lng, x.isFinite = true := by
  rw [← map_coordinateJson_filter_iff, ← map_coordinateJson_filter_iff]
  constructor
  · intro same
    have distinct : ["name", "address", "city", "country", "lat", "lng"].Nodup := by decide
    unfold toJson at same
    rw [record_eq_obj, record_eq_obj] at same
    have members := written_inj (by exact distinct) (by rfl) (Json.obj.inj same)
    simp only [List.cons.injEq, Prod.mk.injEq, true_and, and_true] at members
    exact members.2.2.2.2
  · rintro ⟨lat, lng⟩
    simp only [toJson, reread, lat, lng]

end Venue

namespace Gig

theorem printable_contentJson (gig : Gig) (depth : Nat) :
    gig.contentJson.Printable (depth + 2) := by
  have distinct : contentNames.Nodup := by decide
  have printable := (gig.reader_toJson depth).2
  rw [toJson, record_eq_obj, printable_obj, written_append] at printable
  rw [contentJson, record_eq_obj, printable_obj]
  exact ⟨distinct.sublist (names_written_sublist gig.contentMembers),
    fun entry member => printable.2 entry (List.mem_append_left _ member)⟩

theorem contentText_eq_iff {a b : Gig} :
    a.contentText = b.contentText ↔ a.contentJson = b.contentJson := by
  constructor
  · intro same
    have read := parse?_compact (a.printable_contentJson 125)
    rw [contentText, contentText] at same
    rw [same, parse?_compact (b.printable_contentJson 125)] at read
    exact (Option.some.inj read).symm
  · intro same
    rw [contentText, contentText, same]

theorem contentText_reread_iff {gig : Gig} :
    gig.reread.contentText = gig.contentText ↔ gig.HasFiniteCoordinates := by
  rw [contentText_eq_iff, HasFiniteCoordinates, ← Venue.toJson_reread_iff]
  constructor
  · intro same
    have distinct : contentNames.Nodup := by decide
    unfold contentJson at same
    rw [record_eq_obj, record_eq_obj] at same
    -- Members that are not there are not written, so it is the names that tell which is which.
    have members := written_inj (by exact distinct) (by rfl) (Json.obj.inj same)
    simpa [contentMembers, reread] using members
  · intro same
    have members : gig.reread.contentMembers = gig.contentMembers := by
      simp only [contentMembers, reread, same]
    rw [contentJson, contentJson, members]

end Gig

namespace GigFile

def gigs? (text : String) : Option (Reading (List Gig)) :=
  (parse? text).map (Reader.list Gig.reader)

theorem printable_gigs (gigs : List Gig) :
    (Json.arr (gigs.map Gig.toJson)).Printable depthLimit := by
  rw [depthLimit, printable_arr]
  intro value member
  obtain ⟨gig, -, rfl⟩ := List.mem_map.mp member
  exact (gig.reader_toJson 124).2

theorem gigs?_text (gigs : List Gig) : gigs? (text gigs) = some (.ok (gigs.map Gig.reread)) := by
  rw [gigs?, text, parse?_pretty (printable_gigs gigs), Option.map_some]
  congr 1
  change (gigs.map Gig.toJson).mapM Gig.reader = .ok (gigs.map Gig.reread)
  rw [Except.mapM_eq_ok, List.forall₂_map_left_iff, List.forall₂_map_right_iff, List.forall₂_same]
  exact fun gig _ => (gig.reader_toJson 0).1

theorem read_of_save {gigs : List Gig} {source folder path : String} {moment : Instant}
    {disk after : Disk} (saved : save gigs source folder moment disk = .ok (path, after)) :
    after.read path = .ok (text gigs) := by
  obtain ⟨made, -, rest⟩ := Except.bind_eq_ok.mp saved
  obtain ⟨written, writing, pair⟩ := Except.bind_eq_ok.mp rest
  cases pair
  exact Disk.read_of_write writing

end GigFile

namespace Normalizer

variable (normalizer : Normalizer)

/-- The hash of a gig is made when everything else is there. -/
theorem contentHash_of_mem_gigs {items : List Item} {gig : Gig}
    (member : gig ∈ normalizer.gigs items) : gig.contentHash = gig.hash := by
  obtain ⟨item, -, dateStart, -, rfl⟩ := exists_draft_of_mem_gigs member
  rfl

/-- The gigs of any items, written into a file, are read back from it. A gig comes back as it was,
with its hash, exactly if its coordinates are finite; then alone the text that is hashed is the
same. -/
theorem gigs?_text_gigs (items : List Item) :
    ∃ again, GigFile.gigs? (GigFile.text (normalizer.gigs items)) = some (.ok again) ∧
      List.Forall₂ (fun gig other =>
        (other = gig ∧ other.contentHash = gig.hash ↔ gig.HasFiniteCoordinates) ∧
        (other.contentText = gig.contentText ↔ gig.HasFiniteCoordinates))
        (normalizer.gigs items) again ∧
      ∀ source folder moment disk path after,
        GigFile.save (normalizer.gigs items) source folder moment disk = .ok (path, after) →
          after.read path = .ok (GigFile.text (normalizer.gigs items)) := by
  refine ⟨_, GigFile.gigs?_text _, ?_, fun _ _ _ _ _ _ saved => GigFile.read_of_save saved⟩
  rw [List.forall₂_map_right_iff, List.forall₂_same]
  intro gig member
  refine ⟨⟨fun back => Gig.reread_eq_iff.mp back.1, fun finite => ?_⟩, Gig.contentText_reread_iff⟩
  have same : gig.reread = gig := Gig.reread_eq_iff.mpr finite
  rw [same]
  exact ⟨rfl, normalizer.contentHash_of_mem_gigs member⟩

/-! Items with a latitude. -/

def ofPlaces : Normalizer :=
  { ofDates ⟨default, none⟩ with
    config := { (ofDates ⟨default, none⟩).config with
      mapping := { (ofDates ⟨default, none⟩).config.mapping with
        venue := ⟨"venue", none, none, none, some (.field "lat"), none⟩ } } }

def itemAt (lat : String) : Item :=
  [("lat", .single lat), ("start", .single "2025-08-13T19:30:00Z")]

theorem exists_gig_ofPlaces (lat : String) :
    ∃ gig, ofPlaces.gigs [itemAt lat] = [gig] ∧
      gig.venue = venue ofPlaces.config.mapping.venue (itemAt lat) := by
  have dated : ofPlaces.date? (itemAt lat) (some ofPlaces.config.mapping.dateStart) =
      some "2025-08-13T19:30:00.000Z" := by
    rw [date?_of_resolve? rfl rfl]
    decide +kernel
  refine ⟨hashed (ofPlaces.draft (itemAt lat) "2025-08-13T19:30:00.000Z"), ?_, rfl⟩
  rw [gigs, List.filterMap_cons, gig?, dated]
  rfl

theorem exists_save_empty (gigs : List Gig) :
    ∃ disk, GigFile.save gigs "the-fleece" "out" (.ofMillis 0) .empty =
      .ok ("out/the-fleece_19700101_000000.json", disk) := by
  have path : GigFile.path "the-fleece" "out" (.ofMillis 0) =
      "out/the-fleece_19700101_000000.json" := by decide +kernel
  have located : Disk.locate ⟨[["out"]], []⟩ "out/the-fleece_19700101_000000.json" =
      .ok ["out", "the-fleece_19700101_000000.json"] := by decide +kernel
  refine ⟨⟨[["out"]], [(["out", "the-fleece_19700101_000000.json"], GigFile.text gigs)]⟩,
    Except.bind_eq_ok.mpr ⟨⟨[["out"]], []⟩, rfl, ?_⟩⟩
  rw [path]
  refine Except.bind_eq_ok.mpr ⟨_, ?_, rfl⟩
  rw [Disk.write, located]
  rfl

theorem gigs?_text_gigs_north :
    ∃ gig disk, ofPlaces.gigs [itemAt "51.45"] = [gig] ∧
      GigFile.gigs? (GigFile.text [gig]) = some (.ok [gig]) ∧ gig.contentHash = gig.hash ∧
      GigFile.save [gig] "the-fleece" "out" (.ofMillis 0) .empty =
        .ok ("out/the-fleece_19700101_000000.json", disk) ∧
      disk.read "out/the-fleece_19700101_000000.json" = .ok (GigFile.text [gig]) := by
  obtain ⟨gig, made, place⟩ := exists_gig_ofPlaces "51.45"
  have finite : gig.HasFiniteCoordinates := by
    rw [Gig.HasFiniteCoordinates, place]
    decide +kernel
  obtain ⟨disk, saved⟩ := exists_save_empty [gig]
  obtain ⟨again, read, back, saving⟩ := ofPlaces.gigs?_text_gigs [itemAt "51.45"]
  rw [made] at read back saving
  cases back with
  | cons first others =>
      cases others
      obtain ⟨rfl, hash⟩ := first.1.mpr finite
      exact ⟨_, disk, made, read, hash, saved, saving _ _ _ _ _ _ saved⟩

/-- An infinite latitude is lost, and with it the text of the hash. -/
theorem gigs?_text_gigs_infinite :
    ∃ gig, ofPlaces.gigs [itemAt "inf"] = [gig] ∧
      GigFile.gigs? (GigFile.text [gig]) = some (.ok [gig.reread]) ∧
      gig.reread ≠ gig ∧ gig.reread.contentText ≠ gig.contentText := by
  obtain ⟨gig, made, place⟩ := exists_gig_ofPlaces "inf"
  have infinite : ¬gig.HasFiniteCoordinates := by
    rw [Gig.HasFiniteCoordinates, place]
    decide +kernel
  exact ⟨gig, made, GigFile.gigs?_text [gig], fun same => infinite (Gig.reread_eq_iff.mp same),
    fun same => infinite (Gig.contentText_reread_iff.mp same)⟩

end Normalizer

end GigListings
