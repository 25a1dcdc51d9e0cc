import GigListings.Proofs.Config.Blocks
import GigListings.Proofs.Number.Rounding

namespace GigListings

/-! The mapping of items to gigs is written faithfully. -/

open Json RecordReader

namespace Json

theorem dict_step_eq_ok {reader : Reader α} {name : String} {value : Json} {output : String × α} :
    (do return (name, ← reader value) : Reading (String × α)) = .ok output ↔
      name = output.1 ∧ reader value = .ok output.2 := by
  obtain ⟨other, x⟩ := output
  rw [Except.bind_eq_ok]
  constructor
  · rintro ⟨y, reads, same⟩
    cases same
    exact ⟨rfl, reads⟩
  · rintro ⟨rfl, reads⟩
    exact ⟨x, reads, rfl⟩

theorem dict_eq_ok {reader : Reader α} {found : Json} {dict : Dict α}
    (reads : Reader.dict reader found = .ok dict) :
    ∃ members, found = .obj members ∧ dict.Sorted ∧ (members ≠ [] → dict ≠ []) ∧
      ∀ entry ∈ dict, ∃ value, (entry.1, value) ∈ members ∧ reader value = .ok entry.2 := by
  unfold Reader.dict at reads
  split at reads
  · rename_i members
    obtain ⟨outputs, pass, equation⟩ := Except.bind_eq_ok.mp reads
    cases equation
    refine ⟨members, rfl, Dict.sorted_ofList outputs, ?_, ?_⟩
    · intro filled
      apply Dict.ofList_ne_nil
      rintro rfl
      have steps := Except.mapM_eq_ok.mp pass
      cases steps
      exact filled rfl
    · intro entry member
      obtain ⟨⟨name, value⟩, source, step⟩ :=
        Except.exists_of_mem_mapM pass (Dict.mem_of_mem_ofList member)
      obtain ⟨same, read⟩ := dict_step_eq_ok.mp step
      rw [← same]
      exact ⟨value, source, read⟩
  · cases reads

theorem dict_obj {reader : Reader α} {write : α → Json} {dict : Dict α} (sorted : dict.Sorted)
    (each : ∀ entry ∈ dict, reader (write entry.2) = .ok entry.2) :
    Reader.dict reader (.obj (dict.map fun (name, x) => (name, write x))) = .ok dict := by
  have pass : (dict.map fun (name, x) => (name, write x)).mapM
      (fun entry => (do return (entry.1, ← reader entry.2) : Reading (String × α))) =
        .ok dict := by
    clear sorted
    induction dict with
    | nil => rfl
    | cons entry rest induction =>
        obtain ⟨name, x⟩ := entry
        have first := each (name, x) List.mem_cons_self
        dsimp only at first
        have others := induction fun entry member => each entry (List.mem_cons_of_mem _ member)
        rw [List.map_cons, List.mapM_cons, others]
        dsimp only
        rw [first]
        rfl
  unfold Reader.dict
  dsimp only
  rw [pass]
  exact congrArg Except.ok (Dict.ofList_of_sorted sorted)

theorem printable_dict {depth : Nat} {write : α → Json} {dict : Dict α} (sorted : dict.Sorted)
    (each : ∀ entry ∈ dict, (write entry.2).Printable depth) :
    (obj (dict.map fun (name, x) => (name, write x))).Printable (depth + 1) := by
  rw [printable_obj]
  refine ⟨?_, ?_⟩
  · rw [List.map_map]
    exact Dict.nodup_of_sorted sorted
  · intro entry member
    obtain ⟨source, sourceMember, rfl⟩ := List.mem_map.mp member
    exact each source sourceMember

theorem faithful_params (depth : Nat) :
    Faithful depth (.ofKind .object) (Reader.dict Reader.any) Params.toJson := by
  intro found params fits reads printable
  obtain ⟨members, rfl, sorted, -, each⟩ := dict_eq_ok reads
  cases depth with
  | zero => exact absurd printable.1 (by decide)
  | succ depth =>
      rw [printable_obj] at printable
      have same : params.map (fun entry => (entry.1, id entry.2)) = params := List.map_id params
      have values : ∀ entry ∈ params, (id entry.2).Printable depth := by
        intro entry member
        obtain ⟨value, source, read⟩ := each entry member
        cases read
        exact printable.2 _ source
      have again := @dict_obj Json Reader.any id params sorted fun _ _ => rfl
      have plain := printable_dict sorted values
      rw [same] at again plain
      exact ⟨rfl, again, by simp [Params.toJson], plain⟩

end Json

theorem TransformedField.faithful (depth : Nat) :
    Faithful depth
      (ConfigSchema.record ["field", "transform"]
        [("field", ConfigSchema.name), ("transform", ConfigSchema.name),
          ("transformParams", .ofKind .object)])
      TransformedField.reader fun value => (MappingValue.transformed value).toJson := by
  apply faithful_record ["field", "transform", "transformParams"]
  · exact fun _ => rfl
  · decide
  · decide
  · simp
  intro depth members value shape place suitable read
  simp only [seq_read, map_read, member_read, optional_read] at read
  obtain ⟨_, params, ⟨_, transform, ⟨field, takesField, rfl⟩, takesTransform, rfl⟩, takesParams,
    rfl⟩ := read
  exact (((Conveys.member suitable rfl (faithful_text _ _) takesField).map TransformedField.mk).seq
    (.member suitable rfl (faithful_text _ _) takesTransform)).seq
    (.optional suitable rfl (faithful_params _) takesParams)

theorem ConfigSchema.demands_name : ConfigSchema.name.Demands .string :=
  (Schema.demands_ofKind .string).all _

theorem name_ne_nil {value : Json} (noText : ∀ text, value ≠ .str text) :
    ConfigSchema.name value ≠ [] := by
  intro fits
  have isText := ConfigSchema.demands_name value fits
  cases value with
  | str text => exact noText text rfl
  | _ => cases isText

theorem record_ne_nil {required : List String} {known : List (String × Schema)} {value : Json}
    (noObject : ∀ members, value ≠ .obj members) :
    ConfigSchema.record required known value ≠ [] := by
  rw [Ne, ConfigSchema.record_eq_nil]
  rintro ⟨members, equation, -⟩
  exact noObject members equation

theorem MappingValue.faithful (depth : Nat) :
    Faithful depth ConfigSchema.mappingValue MappingValue.reader MappingValue.toJson := by
  intro found value fits reads printable
  have shapes := Schema.exactlyOne_eq_nil.mp fits
  cases found with
  | str text =>
      cases reads
      exact ⟨fits, rfl, by simp [toJson], trivial⟩
  | obj members =>
      have noText : ∀ text, Json.obj members ≠ .str text := by simp
      obtain ⟨named, -⟩ | ⟨-, record⟩ := shapes
      · exact absurd named (name_ne_nil noText)
      · unfold MappingValue.reader at reads
        dsimp only at reads
        split at reads
        · rename_i inner innerReads
          cases reads
          have restates := TransformedField.faithful depth _ inner record innerReads printable
          refine ⟨?_, ?_, restates.notNull, restates.printable⟩
          · exact Schema.exactlyOne_eq_nil.mpr
              (.inr ⟨name_ne_nil (by simp [toJson, record_eq_obj]), restates.fits⟩)
          · have again := restates.reads
            simp only [toJson, record_eq_obj] at again ⊢
            rw [MappingValue.reader, again]
            simp
        · cases reads
  | _ =>
      obtain ⟨named, -⟩ | ⟨-, record⟩ := shapes
      · exact absurd named (name_ne_nil (by simp))
      · exact absurd record (record_ne_nil (by simp))

theorem Coordinate.faithful (depth : Nat) :
    Faithful depth ConfigSchema.coordinate Coordinate.reader Coordinate.toJson := by
  intro found value fits reads printable
  cases found with
  | str text =>
      cases reads
      exact ⟨fits, rfl, by simp [toJson], trivial⟩
  | int n =>
      cases reads
      rw [Printable] at printable
      refine ⟨rfl, rfl, by simp [toJson], ?_⟩
      rw [toJson, Printable]
      exact Number.Binary64.isFinite_ofNat (by omega) _
  | real x =>
      cases reads
      exact ⟨fits, rfl, by simp [toJson], printable⟩
  | _ => cases reads

theorem VenueMapping.faithful (depth : Nat) :
    Faithful depth ConfigSchema.venue VenueMapping.reader VenueMapping.toJson := by
  apply faithful_record ["name", "address", "city", "country", "lat", "lng"]
  · exact fun _ => rfl
  · decide
  · decide
  · simp
  intro depth members venue shape place suitable read
  simp only [seq_read, map_read, member_read, optional_read] at read
  obtain ⟨_, lng, ⟨_, lat, ⟨_, country, ⟨_, city, ⟨_, address, ⟨name, takesName, rfl⟩, takesAddress,
    rfl⟩, takesCity, rfl⟩, takesCountry, rfl⟩, takesLat, rfl⟩, takesLng, rfl⟩ := read
  exact ((((((Conveys.member suitable rfl (faithful_text _ _) takesName).map VenueMapping.mk).seq
    (.optional suitable rfl (faithful_text _ _) takesAddress)).seq
    (.optional suitable rfl (faithful_text _ _) takesCity)).seq
    (.optional suitable rfl (faithful_text _ _) takesCountry)).seq
    (.optional suitable rfl (Coordinate.faithful _) takesLat)).seq
    (.optional suitable rfl (Coordinate.faithful _) takesLng)

theorem Mapping.faithful (depth : Nat) :
    Faithful depth ConfigSchema.mapping Mapping.reader Mapping.toJson := by
  apply faithful_record ["title", "artists", "venue", "dateStart", "dateEnd", "sourceId",
    "eventUrl", "ticketsUrl", "images", "genre", "ageRestriction", "description", "status"]
  · exact fun _ => rfl
  · decide
  · decide
  · simp
  intro depth members mapping shape place suitable read
  simp only [seq_read, map_read, member_read, optional_read] at read
  obtain ⟨_, status, ⟨_, description, ⟨_, ageRestriction, ⟨_, genre, ⟨_, images, ⟨_, ticketsUrl,
    ⟨_, eventUrl, ⟨_, sourceId, ⟨_, dateEnd, ⟨_, dateStart, ⟨_, venue, ⟨_, artists, ⟨title,
    takesTitle, rfl⟩, takesArtists, rfl⟩, takesVenue, rfl⟩, takesStart, rfl⟩, takesEnd, rfl⟩,
    takesSource, rfl⟩,
    takesEvent, rfl⟩, takesTickets, rfl⟩, takesImages, rfl⟩, takesGenre, rfl⟩, takesAge, rfl⟩,
    takesDescription, rfl⟩, takesStatus, rfl⟩ := read
  have value := MappingValue.faithful depth
  exact (((((((((((((Conveys.member suitable rfl value takesTitle).map Mapping.mk).seq
    (.optional suitable rfl value takesArtists)).seq
    (.member suitable rfl (VenueMapping.faithful _) takesVenue)).seq
    (.member suitable rfl value takesStart)).seq
    (.optional suitable rfl value takesEnd)).seq
    (.optional suitable rfl value takesSource)).seq
    (.optional suitable rfl value takesEvent)).seq
    (.optional suitable rfl value takesTickets)).seq
    (.optional suitable rfl value takesImages)).seq
    (.optional suitable rfl value takesGenre)).seq
    (.optional suitable rfl value takesAge)).seq
    (.optional suitable rfl value takesDescription)).seq
    (.optional suitable rfl value takesStatus)

/-! Fields are written faithfully, however deeply their visits to other pages are nested. -/

namespace Json

theorem depth_le_of_mem_members {members : Members} {entry : String × Json}
    (member : entry ∈ members) : entry.2.depth ≤ depthOfMembers members := by
  induction members with
  | nil => cases member
  | cons first rest induction =>
      obtain ⟨name, value⟩ := first
      rw [depthOfMembers]
      rcases List.mem_cons.mp member with rfl | later
      · exact Nat.le_max_left _ _
      · exact Nat.le_trans (induction later) (Nat.le_max_right _ _)

theorem depth_lt_obj {members : Members} {entry : String × Json} (member : entry ∈ members) :
    entry.2.depth < (obj members).depth := by
  rw [depth]
  exact Nat.lt_succ_of_le (depth_le_of_mem_members member)

theorem depth_lt_record {entries : List (String × Option Json)} {name : String} {value : Json}
    (member : (name, some value) ∈ entries) : value.depth < (record entries).depth :=
  depth_lt_obj (mem_written.mpr member)

theorem restates_fieldMap {schema schema' : Schema} {reader reader' : Reader α} {write : α → Json}
    {depth : Nat} {found : Json} {dict : Dict α}
    (fits : ConfigSchema.fieldMapWith schema found = [])
    (reads : Reader.dict reader found = .ok dict)
    (printable : found.Printable depth)
    (each : ∀ depth value entry, entry ∈ dict → schema value = [] → reader value = .ok entry.2 →
      value.Printable depth → Restates schema' reader' depth entry.2 (write entry.2)) :
    Restates (ConfigSchema.fieldMapWith schema') (Reader.dict reader') depth dict
      (.obj (dict.map fun (name, x) => (name, write x))) := by
  obtain ⟨members, rfl, sorted, filled, sources⟩ := dict_eq_ok reads
  obtain ⟨depth, rfl⟩ := exists_succ_of_printable printable
  unfold ConfigSchema.fieldMapWith at fits
  simp only [Schema.all_eq_nil, List.mem_cons, List.not_mem_nil, or_false, forall_eq_or_imp,
    forall_eq] at fits
  obtain ⟨-, nonempty, every⟩ := fits
  have restates : ∀ entry ∈ dict, Restates schema' reader' depth entry.2 (write entry.2) := by
    intro entry member
    obtain ⟨value, source, read⟩ := sources entry member
    refine each depth value entry member ?_ read ((printable_obj.mp printable).2 _ source)
    have violations := List.flatMap_eq_nil_iff.mp every (entry.1, value) source
    exact List.map_eq_nil_iff.mp violations
  refine ⟨?_, ?_, by simp, ?_⟩
  · unfold ConfigSchema.fieldMapWith
    simp only [Schema.all_eq_nil, List.mem_cons, List.not_mem_nil, or_false, forall_eq_or_imp,
      forall_eq]
    refine ⟨Schema.ofKind_eq_nil.mpr rfl, ?_, ?_⟩
    · have some : dict ≠ [] := by
        apply filled
        rintro rfl
        cases nonempty
      refine Schema.defects_eq_nil.mpr ?_
      cases dict with
      | nil => exact absurd rfl some
      | cons entry rest => rfl
    · refine List.flatMap_eq_nil_iff.mpr ?_
      intro entry member
      obtain ⟨source, sourceMember, rfl⟩ := List.mem_map.mp member
      exact List.map_eq_nil_iff.mpr (restates source sourceMember).fits
  · exact dict_obj sorted fun entry member => (restates entry member).reads
  · exact printable_dict sorted fun entry member => (restates entry member).printable

end Json

theorem FieldRule.allJson_eq_map (fields : List (String × FieldRule)) :
    FieldRule.allJson fields = fields.map fun (name, field) => (name, field.toJson) := by
  induction fields with
  | nil => rfl
  | cons entry rest induction =>
      obtain ⟨name, field⟩ := entry
      rw [allJson, induction]
      rfl

theorem FollowUp.toJson_eq_record (followUp : FollowUp) :
    followUp.toJson = record
      [("urlField", followUp.urlField.map .str),
        ("fields",
          some (.obj (followUp.fields.map fun (name, field) => (name, field.toJson))))] := by
  obtain ⟨urlField, fields⟩ := followUp
  rw [toJson, FieldRule.allJson_eq_map]

theorem FollowUp.restates {schema schema' : Schema} {reader reader' : Reader FieldRule}
    {depth : Nat}
    {found : Json} {followUp : FollowUp} (fits : ConfigSchema.followUpWith schema found = [])
    (reads : FollowUp.readerWith reader found = .ok followUp) (printable : found.Printable depth)
    (each : ∀ depth value entry, entry ∈ followUp.fields → schema value = [] →
      reader value = .ok entry.2 → value.Printable depth →
      Restates schema' reader' depth entry.2 entry.2.toJson) :
    Restates (ConfigSchema.followUpWith schema') (FollowUp.readerWith reader') depth followUp
      followUp.toJson := by
  obtain ⟨members, depth, rfl, rfl, suitable⟩ := Suitable.of_fits fits printable
  unfold FollowUp.readerWith at reads
  rw [run_obj] at reads
  simp only [seq_read, map_read, member_read, optional_read] at reads
  obtain ⟨_, fields, ⟨urlField, takesUrl, rfl⟩, takesFields, rfl⟩ := reads
  rw [toJson_eq_record]
  have urlConveyed := Conveys.optional suitable rfl (faithful_text _ _) takesUrl
  have fieldsConveyed : Conveys
      [("urlField", ConfigSchema.name), ("fields", ConfigSchema.fieldMapWith schema')] depth
      (.member "fields" (Reader.dict reader')) fields
      [("fields", some (.obj (fields.map fun (name, field) => (name, field.toJson))))] := by
    unfold Takes at takesFields
    split at takesFields
    · rename_i value found
      exact .one_of_restates rfl none (restates_fieldMap
        (suitable.fits "fields" _ value rfl found) takesFields
        (suitable.printable "fields" value found) each)
    · cases takesFields
  have first : Conveys
      [("urlField", ConfigSchema.name), ("fields", ConfigSchema.fieldMapWith schema')] depth
      (FollowUp.mk <$> .optional "urlField" Reader.text) (FollowUp.mk urlField)
      [("urlField", urlField.map .str)] :=
    (urlConveyed.map FollowUp.mk).relabel (by simp [List.lookup_cons])
  exact restates_record (first.seq fieldsConveyed)
    (show ["urlField", "fields"].Nodup by decide) (by simp [List.lookup_cons]) (by simp)

def FieldRule.entries (field : FieldRule) : List (String × Option Json) :=
  [("selector", field.selector.map .str),
    ("attribute", some (.str field.part)),
    ("required", flag? field.required),
    ("fallback", field.fallback.map .str),
    ("transform", field.transform.map .str),
    ("transformParams", field.transformParams.map Params.toJson),
    ("multiple", flag? field.multiple),
    ("followUp", field.followUp.map FollowUp.toJson)]

theorem FieldRule.toJson_eq_record (field : FieldRule) : field.toJson = record field.entries := by
  obtain ⟨selector, part, required, fallback, transform, params, multiple, followUp⟩ := field
  rw [toJson]
  cases followUp with
  | none => rfl
  | some followUp => rfl

def FieldRule.shape (followUp : Schema) : List (String × Schema) :=
  [("selector", ConfigSchema.name), ("attribute", ConfigSchema.name),
    ("required", ConfigSchema.truth), ("fallback", ConfigSchema.text),
    ("transform", ConfigSchema.name), ("transformParams", .ofKind .object),
    ("multiple", ConfigSchema.truth), ("followUp", followUp)]

theorem FieldRule.restates {schema schema' : Schema} {reader reader' : Reader FollowUp}
    {depth : Nat}
    {found : Json} {field : FieldRule} (fits : ConfigSchema.fieldWith schema found = [])
    (reads : FieldRule.readerWith reader found = .ok field) (printable : found.Printable depth)
    (visit : ∀ depth value followUp, field.followUp = some followUp → schema value = [] →
      reader value = .ok followUp → value.Printable depth →
      Restates schema' reader' depth followUp followUp.toJson) :
    Restates (ConfigSchema.fieldWith schema') (FieldRule.readerWith reader') depth field
      field.toJson := by
  obtain ⟨members, depth, rfl, rfl, (suitable : Suitable (shape schema) depth members)⟩ :=
    Suitable.of_fits fits printable
  unfold FieldRule.readerWith at reads
  rw [run_obj] at reads
  simp only [seq_read, map_read, withDefault_read, optional_read] at reads
  obtain ⟨_, followUp, ⟨_, multiple, ⟨_, params, ⟨_, transform, ⟨_, fallback, ⟨_, required,
    ⟨_, part, ⟨selector, takesSelector, rfl⟩, takesPart, rfl⟩, takesRequired, rfl⟩, takesFallback,
    rfl⟩, takesTransform, rfl⟩, takesParams, rfl⟩, takesMultiple, rfl⟩, takesVisit, rfl⟩ := reads
  have visited : Conveys (shape schema') depth (.optional "followUp" reader') followUp
      [("followUp", followUp.map FollowUp.toJson)] :=
    .optional_of rfl (fun value b found read same => visit depth value b same
      (suitable.fits "followUp" _ value rfl found) read
      (suitable.printable "followUp" value found)) takesVisit
  have others := ((((((((Conveys.optional suitable rfl (faithful_text _ _) takesSelector).map
    FieldRule.mk).seq
    (.withDefault suitable rfl (faithful_text _ _) (restates_text _ _ (by decide)) takesPart)).seq
    (.flag "required" rfl rfl required)).seq
    (.optional suitable rfl (faithful_text _ _) takesFallback)).seq
    (.optional suitable rfl (faithful_text _ _) takesTransform)).seq
    (.optional suitable rfl (faithful_params _) takesParams)).seq
    (.flag "multiple" rfl rfl multiple))
  rw [toJson_eq_record]
  refine restates_record (Conveys.seq (others.relabel ?_) visited) ?_ ?_ ?_
  · simp [shape, List.lookup_cons]
  · simp [entries]
  · simp [List.lookup_cons, entries]
  · simp

/-! The visits are nested as deeply as the written value at most. -/

theorem FieldRule.depth_lt_of_mem {followUp : FollowUp} {entry : String × FieldRule}
    (member : entry ∈ followUp.fields) : entry.2.toJson.depth + 1 < followUp.toJson.depth := by
  have written : (entry.1, entry.2.toJson) ∈
      followUp.fields.map fun (name, field) => (name, field.toJson) :=
    List.mem_map.mpr ⟨entry, member, rfl⟩
  have inFields : entry.2.toJson.depth < (obj _).depth := depth_lt_obj written
  have inVisit : (obj (followUp.fields.map fun (name, field) => (name, field.toJson))).depth <
      followUp.toJson.depth := by
    rw [FollowUp.toJson_eq_record]
    exact depth_lt_record (List.mem_cons_of_mem _ List.mem_cons_self)
  omega

theorem FollowUp.depth_lt {field : FieldRule} {followUp : FollowUp}
    (declared : field.followUp = some followUp) : followUp.toJson.depth < field.toJson.depth := by
  rw [FieldRule.toJson_eq_record]
  have written : ("followUp", some followUp.toJson) ∈ field.entries := by
    simp [FieldRule.entries, declared]
  exact depth_lt_record written

/-- Reading what is written takes no more depth than the written value has. -/
theorem FieldRule.restates_to (read : Nat) {depth : Nat} {found : Json} {field : FieldRule}
    (fits : ConfigSchema.fieldTo read found = [])
    (reads : FieldRule.readerTo read found = .ok field)
    (printable : found.Printable depth) {enough : Nat} (room : field.toJson.depth ≤ enough) :
    Restates (ConfigSchema.fieldTo enough) (FieldRule.readerTo enough) depth field
      field.toJson := by
  have positive : 0 < field.toJson.depth := by
    rw [toJson_eq_record]
    exact Nat.succ_pos _
  obtain ⟨rest, rfl⟩ : ∃ rest, enough = rest + 1 := ⟨enough - 1, by omega⟩
  -- The fields of a visit are read to one depth less, and are written less deeply.
  induction read generalizing depth found field rest with
  | zero =>
      refine restates fits reads printable ?_
      intro depth value followUp _ _ visited
      cases visited
  | succ read induction =>
      refine restates fits reads printable ?_
      intro depth value followUp declared visitFits visited visitPrintable
      have shallower := FollowUp.depth_lt declared
      refine FollowUp.restates visitFits visited visitPrintable ?_
      intro depth value entry member entryFits entryReads entryPrintable
      have inner := depth_lt_of_mem member
      have entryPositive : 0 < entry.2.toJson.depth := by
        rw [toJson_eq_record]
        exact Nat.succ_pos _
      obtain ⟨less, rfl⟩ : ∃ less, rest = less + 1 := ⟨rest - 1, by omega⟩
      exact induction entryFits entryReads entryPrintable entryPositive less (by omega)

theorem FieldRule.faithful (depth : Nat) :
    Faithful depth ConfigSchema.field FieldRule.reader FieldRule.toJson := by
  intro found field fits reads printable
  have restates := restates_to found.depth fits reads printable (Nat.le_refl field.toJson.depth)
  exact ⟨restates.fits, restates.reads, restates.notNull, restates.printable⟩

theorem faithful_fieldMap (depth : Nat) :
    Faithful depth ConfigSchema.fieldMap (Reader.dict FieldRule.reader) fun fields =>
      .obj (FieldRule.allJson fields) := by
  intro found fields fits reads printable
  dsimp only
  rw [FieldRule.allJson_eq_map]
  exact restates_fieldMap fits reads printable fun depth value entry _ fits reads printable =>
    FieldRule.faithful depth value entry.2 fits reads printable

theorem FollowUp.faithful (depth : Nat) :
    Faithful depth ConfigSchema.followUp FollowUp.reader FollowUp.toJson := by
  intro found followUp fits reads printable
  exact restates fits reads printable fun depth value entry _ fits reads printable =>
    FieldRule.faithful depth value entry.2 fits reads printable

end GigListings
