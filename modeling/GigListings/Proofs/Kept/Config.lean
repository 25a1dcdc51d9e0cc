import GigListings.Proofs.Config.Checked
import GigListings.Proofs.Kept.Values

namespace GigListings

/-! The blocks of a configuration beside its workflow survive reading and writing. -/

open Json

theorem Site.keeps : Keeps ConfigSchema.site (.record .site) Site.reader Site.toJson := by
  refine keeps_record rfl (by decide) ?_
  intro depth members fitting
  obtain ⟨name, givesName⟩ := fitting.member "name" rfl rfl (by decide) keeps_name
  obtain ⟨source, givesSource⟩ := fitting.member "source" rfl rfl (by decide)
    (keeps_text ((Schema.demands_ofKind .string).all _))
  obtain ⟨baseUrl, givesBaseUrl⟩ := fitting.member "baseUrl" rfl rfl (by decide)
    (keeps_text ((Schema.demands_ofKind .string).all _))
  obtain ⟨timezone, givesTimezone⟩ := fitting.optional "timezone" rfl rfl rfl keeps_name
  exact ⟨_, _, (((givesName.map Site.mk).seq givesSource).seq givesBaseUrl).seq givesTimezone, rfl⟩

theorem Viewport.keeps :
    Keeps ConfigSchema.viewport (.record .viewport) Viewport.reader Viewport.toJson := by
  refine keeps_record rfl (by decide) ?_
  intro depth members fitting
  obtain ⟨width, givesWidth⟩ := fitting.member "width" rfl rfl (by decide) keeps_word32
  obtain ⟨height, givesHeight⟩ := fitting.member "height" rfl rfl (by decide) keeps_word32
  exact ⟨_, _, (givesWidth.map Viewport.mk).seq givesHeight, rfl⟩

theorem BrowserOptions.keeps :
    Keeps ConfigSchema.browser (.record .browser) BrowserOptions.reader BrowserOptions.toJson := by
  refine keeps_record rfl (by decide) ?_
  intro depth members fitting
  obtain ⟨viewport, givesViewport⟩ :=
    fitting.withDefault "viewport" rfl rfl default Viewport.keeps rfl
  obtain ⟨timeout, givesTimeout⟩ := fitting.withDefault "timeout" rfl rfl 30000 keeps_word64 rfl
  obtain ⟨userAgent, givesUserAgent⟩ := fitting.optional "userAgent" rfl rfl rfl keeps_anyText
  obtain ⟨headless, givesHeadless⟩ := fitting.withDefault "headless" rfl rfl true keeps_truth rfl
  exact ⟨_, _, (((givesViewport.map BrowserOptions.mk).seq givesTimeout).seq givesUserAgent).seq
    givesHeadless, rfl⟩

theorem RateLimit.keeps :
    Keeps ConfigSchema.rateLimit (.record .rateLimit) RateLimit.reader RateLimit.toJson := by
  refine keeps_record rfl (by decide) ?_
  intro depth members fitting
  obtain ⟨delay, givesDelay⟩ := fitting.optional "delayBetweenRequests" rfl rfl rfl keeps_word64
  obtain ⟨most, givesMost⟩ := fitting.withDefault "maxConcurrency" rfl rfl 1 keeps_word32 rfl
  obtain ⟨robots, givesRobots⟩ := fitting.withDefault "respectRobots" rfl rfl true keeps_truth rfl
  exact ⟨_, _, ((givesDelay.map RateLimit.mk).seq givesMost).seq givesRobots, rfl⟩

theorem ValidationRules.keeps :
    Keeps ConfigSchema.validation (.record .validation) ValidationRules.reader
      ValidationRules.toJson := by
  refine keeps_record rfl (by decide) ?_
  intro depth members fitting
  obtain ⟨least, givesLeast⟩ := fitting.optional "minEventsExpected" rfl rfl rfl keeps_size
  obtain ⟨most, givesMost⟩ := fitting.optional "maxEventsExpected" rfl rfl rfl keeps_size
  obtain ⟨required, givesRequired⟩ := fitting.withDefault "required" rfl rfl [] keeps_texts rfl
  exact ⟨_, _, ((givesLeast.map ValidationRules.mk).seq givesMost).seq givesRequired, rfl⟩

theorem DebugOptions.keeps :
    Keeps ConfigSchema.debug (.record .debug) DebugOptions.reader DebugOptions.toJson := by
  refine keeps_record rfl (by decide) ?_
  intro depth members fitting
  obtain ⟨shots, givesShots⟩ := fitting.withDefault "screenshots" rfl rfl false keeps_truth rfl
  obtain ⟨html, givesHtml⟩ := fitting.withDefault "html" rfl rfl false keeps_truth rfl
  obtain ⟨outputDir, givesDir⟩ := fitting.optional "outputDir" rfl rfl rfl keeps_anyText
  exact ⟨_, _, ((givesShots.map DebugOptions.mk).seq givesHtml).seq givesDir, rfl⟩

/-! The mapping. -/

theorem TransformedField.keeps :
    Keeps
      (ConfigSchema.record ["field", "transform"]
        [("field", ConfigSchema.name), ("transform", ConfigSchema.name),
          ("transformParams", .ofKind .object)])
      (.record .transformed) TransformedField.reader
      fun value => (MappingValue.transformed value).toJson := by
  refine keeps_record rfl (by decide) ?_
  intro depth members fitting
  obtain ⟨field, givesField⟩ := fitting.member "field" rfl rfl (by decide) keeps_name
  obtain ⟨transform, givesTransform⟩ := fitting.member "transform" rfl rfl (by decide) keeps_name
  obtain ⟨params, givesParams⟩ := fitting.optional "transformParams" rfl rfl rfl keeps_params
  exact ⟨_, _, ((givesField.map TransformedField.mk).seq givesTransform).seq givesParams, rfl⟩

theorem MappingValue.keeps :
    Keeps ConfigSchema.mappingValue (.nameOr .transformed) MappingValue.reader
      MappingValue.toJson := by
  intro found depth fits inRange printable
  obtain ⟨named, -⟩ | ⟨-, record⟩ := Schema.exactlyOne_eq_nil.mp fits
  · have isText := ConfigSchema.demands_name found named
    cases found with
    | str text => exact ⟨by simp, .field text, rfl, .name text⟩
    | _ => cases isText
  · obtain ⟨notNull, value, reads, agrees⟩ :=
      TransformedField.keeps found depth record (InRange.nameOr.mp inRange) printable
    refine ⟨notNull, .transformed value, ?_, .nested agrees⟩
    cases found with
    | str text => cases reads
    | _ => simp only [MappingValue.reader, reads]

theorem VenueMapping.keeps :
    Keeps ConfigSchema.venue (.record .venue) VenueMapping.reader VenueMapping.toJson := by
  refine keeps_record rfl (by decide) ?_
  intro depth members fitting
  obtain ⟨name, givesName⟩ := fitting.member "name" rfl rfl (by decide) keeps_name
  obtain ⟨address, givesAddress⟩ := fitting.optional "address" rfl rfl rfl keeps_anyText
  obtain ⟨city, givesCity⟩ := fitting.optional "city" rfl rfl rfl keeps_anyText
  obtain ⟨country, givesCountry⟩ := fitting.optional "country" rfl rfl rfl keeps_anyText
  obtain ⟨lat, givesLat⟩ := fitting.optional "lat" rfl rfl rfl keeps_coordinate
  obtain ⟨lng, givesLng⟩ := fitting.optional "lng" rfl rfl rfl keeps_coordinate
  exact ⟨_, _, (((((givesName.map VenueMapping.mk).seq givesAddress).seq givesCity).seq
    givesCountry).seq givesLat).seq givesLng, rfl⟩

theorem Mapping.keeps :
    Keeps ConfigSchema.mapping (.record .mapping) Mapping.reader Mapping.toJson := by
  refine keeps_record rfl (by decide) ?_
  intro depth members fitting
  have values := MappingValue.keeps
  obtain ⟨title, givesTitle⟩ := fitting.member "title" rfl rfl (by decide) values
  obtain ⟨artists, givesArtists⟩ := fitting.optional "artists" rfl rfl rfl values
  obtain ⟨venue, givesVenue⟩ := fitting.member "venue" rfl rfl (by decide) VenueMapping.keeps
  obtain ⟨dateStart, givesStart⟩ := fitting.member "dateStart" rfl rfl (by decide) values
  obtain ⟨dateEnd, givesEnd⟩ := fitting.optional "dateEnd" rfl rfl rfl values
  obtain ⟨sourceId, givesSource⟩ := fitting.optional "sourceId" rfl rfl rfl values
  obtain ⟨eventUrl, givesEvent⟩ := fitting.optional "eventUrl" rfl rfl rfl values
  obtain ⟨ticketsUrl, givesTickets⟩ := fitting.optional "ticketsUrl" rfl rfl rfl values
  obtain ⟨images, givesImages⟩ := fitting.optional "images" rfl rfl rfl values
  obtain ⟨genre, givesGenre⟩ := fitting.optional "genre" rfl rfl rfl values
  obtain ⟨age, givesAge⟩ := fitting.optional "ageRestriction" rfl rfl rfl values
  obtain ⟨description, givesDescription⟩ := fitting.optional "description" rfl rfl rfl values
  obtain ⟨status, givesStatus⟩ := fitting.optional "status" rfl rfl rfl values
  exact ⟨_, _, ((((((((((((givesTitle.map Mapping.mk).seq givesArtists).seq givesVenue).seq
    givesStart).seq givesEnd).seq givesSource).seq givesEvent).seq givesTickets).seq
    givesImages).seq givesGenre).seq givesAge).seq givesDescription).seq givesStatus, rfl⟩

/-! Fields survive reading and writing, however deeply their visits to other pages are nested. -/

theorem survives_fieldMap {schema : Schema} {reader : Reader FieldRule} {found : Json}
    {depth : Nat} (fits : ConfigSchema.fieldMapWith schema found = [])
    (inRange : InRange (.map (.record .field)) found) (printable : found.Printable depth)
    (keeps : KeepsBelow found.depth schema (.record .field) reader FieldRule.toJson) :
    Survives (.map (.record .field)) (Reader.dict reader)
      (fun fields => .obj (FieldRule.allJson fields)) found := by
  simp only [FieldRule.allJson_eq_map]
  exact survives_members (by simp) (by simp) fits inRange printable keeps

theorem FollowUp.survives {schema : Schema} {reader : Reader FieldRule} {found : Json} {depth : Nat}
    (fits : ConfigSchema.followUpWith schema found = [])
    (inRange : InRange (.record .followUp) found) (printable : found.Printable depth)
    (keeps : KeepsBelow found.depth schema (.record .field) reader FieldRule.toJson) :
    Survives (.record .followUp) (FollowUp.readerWith reader) FollowUp.toJson found := by
  refine survives_record fits inRange printable rfl (by decide) ?_
  rintro depth members rfl fitting
  obtain ⟨urlField, givesUrl⟩ := fitting.optional "urlField" rfl rfl rfl keeps_name
  have fieldsSurvive : ∀ value, Members.get? members "fields" = some value →
      Survives (.map (.record .field)) (Reader.dict reader)
        (fun fields => .obj (FieldRule.allJson fields)) value := by
    intro value found
    have shallower := depth_lt_obj (Dict.mem_of_get? found)
    refine fitting.survives rfl rfl found ?_
    intro fits inRange printable
    exact survives_fieldMap fits inRange printable (keeps.mono (Nat.le_of_lt shallower))
  obtain ⟨fields, givesFields⟩ := Gives.member (.plain "fields" (.map (.record .field)))
    fieldsSurvive (fitting.present "fields" (by decide))
  refine ⟨_, _, (givesUrl.map FollowUp.mk).seq givesFields, ?_⟩
  rw [toJson]
  rfl

theorem FieldRule.survives {schema : Schema} {reader : Reader FollowUp} {found : Json} {depth : Nat}
    (fits : ConfigSchema.fieldWith schema found = [])
    (inRange : InRange (.record .field) found) (printable : found.Printable depth)
    (keeps : KeepsBelow found.depth schema (.record .followUp) reader FollowUp.toJson) :
    Survives (.record .field) (FieldRule.readerWith reader) FieldRule.toJson found := by
  refine survives_record fits inRange printable rfl (by decide) ?_
  rintro depth members rfl fitting
  obtain ⟨selector, givesSelector⟩ := fitting.optional "selector" rfl rfl rfl keeps_name
  obtain ⟨part, givesPart⟩ := fitting.withDefault "attribute" rfl rfl "text" keeps_name rfl
  obtain ⟨required, givesRequired⟩ := fitting.flag "required" rfl
  obtain ⟨fallback, givesFallback⟩ := fitting.optional "fallback" rfl rfl rfl keeps_anyText
  obtain ⟨transform, givesTransform⟩ := fitting.optional "transform" rfl rfl rfl keeps_name
  obtain ⟨params, givesParams⟩ := fitting.optional "transformParams" rfl rfl rfl keeps_params
  obtain ⟨multiple, givesMultiple⟩ := fitting.flag "multiple" rfl
  have visitSurvives : ∀ value, Members.get? members "followUp" = some value →
      Survives (.record .followUp) reader FollowUp.toJson value := by
    intro value found
    exact fitting.survives rfl rfl found
      (keeps value depth (depth_lt_obj (Dict.mem_of_get? found)))
  obtain ⟨followUp, givesVisit⟩ :=
    Gives.optional (.plain "followUp" (.record .followUp)) visitSurvives rfl
  exact ⟨_, _, (((((((givesSelector.map FieldRule.mk).seq givesPart).seq givesRequired).seq
    givesFallback).seq givesTransform).seq givesParams).seq givesMultiple).seq givesVisit,
    toJson_eq_record _⟩

theorem FieldRule.keepsBelow (limit : Nat) :
    KeepsBelow (limit + 1) (ConfigSchema.fieldTo limit) (.record .field)
      (FieldRule.readerTo limit) FieldRule.toJson := by
  induction limit with
  | zero =>
      intro found depth shallow fits inRange printable
      refine survives fits inRange printable ?_
      intro visit depth deeper
      omega
  | succ limit induction =>
      intro found depth shallow fits inRange printable
      refine survives fits inRange printable ?_
      intro visit depth deeper visitFits visitInRange visitPrintable
      -- A visit is nested less deeply than its field, so that the limit suffices for its fields.
      exact FollowUp.survives visitFits visitInRange visitPrintable (induction.mono (by omega))

theorem FieldRule.keeps :
    Keeps ConfigSchema.field (.record .field) FieldRule.reader FieldRule.toJson := by
  intro found depth fits inRange printable
  obtain ⟨notNull, agrees⟩ :=
    keepsBelow found.depth found depth (Nat.lt_succ_self _) fits inRange printable
  exact ⟨notNull, agrees⟩

theorem FollowUp.keeps :
    Keeps ConfigSchema.followUp (.record .followUp) FollowUp.reader FollowUp.toJson :=
  fun _ _ fits inRange printable => survives fits inRange printable (FieldRule.keeps.below _)

theorem keeps_fieldMap :
    Keeps ConfigSchema.fieldMap (.map (.record .field)) (Reader.dict FieldRule.reader)
      fun fields => .obj (FieldRule.allJson fields) :=
  fun _ _ fits inRange printable =>
    survives_fieldMap fits inRange printable (FieldRule.keeps.below _)

/-! The steps of a workflow survive reading and writing, but for members of other kinds. -/

theorem InRange.action {kind : Action.Kind} {members : Members}
    (tagged : members.get? "type" = some (.str kind.name)) :
    InRange .action (.obj members) ↔ InRange (.record (.action kind)) (.obj members) := by
  constructor
  · intro inRange least most number lies
    exact inRange least most number (.action tagged lies)
  · intro inRange least most number lies
    cases lies with
    | action otherTagged lies =>
        rw [tagged, Option.some.injEq, Json.str.injEq] at otherTagged
        cases Action.Kind.name_injective otherTagged
        exact inRange least most number lies

theorem DateGroups.keeps :
    Keeps ConfigSchema.dateGroups (.record .dateGroups) DateGroups.reader DateGroups.toJson := by
  refine keeps_record rfl (by decide) ?_
  intro depth members fitting
  obtain ⟨heading, givesHeading⟩ :=
    fitting.member "headingSelector" rfl rfl (by decide) keeps_name
  obtain ⟨event, givesEvent⟩ := fitting.member "eventSelector" rfl rfl (by decide) keeps_name
  obtain ⟨format, givesFormat⟩ := fitting.optional "format" rfl rfl rfl keeps_anyText
  exact ⟨_, _, ((givesHeading.map DateGroups.mk).seq givesEvent).seq givesFormat, rfl⟩

structure Action.OfKind (kind : Action.Kind) (depth : Nat) (members : Members) : Prop extends
    Fitting kind.required kind.shape kind.slots depth members where
  tagged : members.get? "type" = some (.str kind.name)

section Kinds

variable {kind : Action.Kind} {depth : Nat} {members : Members}

theorem Action.survives {record : RecordReader α} {type : String} {a : α} (wrap : α → Action)
    (tagged : members.get? "type" = some (.str kind.name))
    (gives : Gives members kind.slots record a (wrap a).members) (ofKind : (wrap a).kind = kind)
    (readerOfKind : kind.reader = fun value => (record.run type value).map wrap) :
    Survives .action Action.reader Action.toJson (.obj members) := by
  have tag : Kind.ofTag (.str kind.name) = .ok kind := Kind.ofTag_eq_ok.mpr rfl
  have reads : record.run type (.obj members) = .ok a :=
    (RecordReader.run_obj record type members a).mpr (gives.reads _ _)
  have keptTag : Kept (.plain "type" .plain) (members.get? "type") (some (.str kind.name)) := by
    rw [tagged]
    exact .present (.plain _)
  have kept : KeptAll members (Block.action kind).slots
      (("type", some (.str (wrap a).kind.name)) :: (wrap a).members) := by
    rw [ofKind]
    exact .cons ⟨rfl, keptTag⟩ gives.kept
  refine ⟨by simp, wrap a, ?_, .action tagged (kept.agrees ?_ ?_)⟩
  · simp only [Action.reader, tagged, tag, Except.bind, readerOfKind, reads]
    rfl
  · cases kind with
    | _ => decide
  · intro closed
    cases closed

theorem NavigateAction.survives (ofKind : Action.OfKind .navigate depth members) :
    Survives .action Action.reader Action.toJson (.obj members) := by
  obtain ⟨url, givesUrl⟩ := ofKind.member "url" rfl rfl (by decide) keeps_name
  obtain ⟨waitForLoad, givesWait⟩ := ofKind.optional "waitForLoad" rfl rfl rfl keeps_truth
  exact Action.survives .navigate ofKind.tagged
    ((givesUrl.map NavigateAction.mk).seq givesWait) rfl rfl

theorem WaitAction.survives (ofKind : Action.OfKind .wait depth members) :
    Survives .action Action.reader Action.toJson (.obj members) := by
  obtain ⟨selector, givesSelector⟩ := ofKind.optional "selector" rfl rfl rfl keeps_name
  obtain ⟨condition, givesCondition⟩ :=
    ofKind.withDefault "condition" rfl rfl .visible (keeps_variant _ _) rfl
  obtain ⟨timeout, givesTimeout⟩ := ofKind.optional "timeout" rfl rfl rfl keeps_word64
  exact Action.survives .wait ofKind.tagged
    (((givesSelector.map WaitAction.mk).seq givesCondition).seq givesTimeout) rfl rfl

theorem ClickAction.survives (ofKind : Action.OfKind .click depth members) :
    Survives .action Action.reader Action.toJson (.obj members) := by
  obtain ⟨selector, givesSelector⟩ := ofKind.member "selector" rfl rfl (by decide) keeps_name
  obtain ⟨isOptional, givesOptional⟩ := ofKind.flag "optional" rfl
  obtain ⟨waitAfter, givesWait⟩ := ofKind.optional "waitAfter" rfl rfl rfl keeps_word64
  exact Action.survives .click ofKind.tagged
    (((givesSelector.map ClickAction.mk).seq givesOptional).seq givesWait) rfl rfl

theorem ScrollAction.survives (ofKind : Action.OfKind .scroll depth members) :
    Survives .action Action.reader Action.toJson (.obj members) := by
  obtain ⟨direction, givesDirection⟩ :=
    ofKind.withDefault "direction" rfl rfl .down (keeps_variant _ _) rfl
  obtain ⟨amount, givesAmount⟩ := ofKind.optional "amount" rfl rfl rfl keeps_signed64
  obtain ⟨waitAfter, givesWait⟩ := ofKind.optional "waitAfter" rfl rfl rfl keeps_word64
  exact Action.survives .scroll ofKind.tagged
    (((givesDirection.map ScrollAction.mk).seq givesAmount).seq givesWait) rfl rfl

theorem ExtractAction.survives (ofKind : Action.OfKind .extract depth members) :
    Survives .action Action.reader Action.toJson (.obj members) := by
  obtain ⟨container, givesContainer⟩ :=
    ofKind.member "containerSelector" rfl rfl (by decide) keeps_name
  obtain ⟨fields, givesFields⟩ := ofKind.member "fields" rfl rfl (by decide) keeps_fieldMap
  obtain ⟨followUp, givesVisit⟩ := ofKind.optional "followUp" rfl rfl rfl FollowUp.keeps
  obtain ⟨groups, givesGroups⟩ := ofKind.optional "dateGroups" rfl rfl rfl DateGroups.keeps
  exact Action.survives .extract ofKind.tagged
    ((((givesContainer.map ExtractAction.mk).seq givesFields).seq givesVisit).seq givesGroups)
    rfl rfl

end Kinds

theorem Action.exists_kind {members : Members}
    (fits : ConfigSchema.action (.obj members) = []) :
    ∃ kind : Kind, members.get? "type" = some (.str kind.name) := by
  have each := Schema.all_eq_nil.mp fits
  have needed := Schema.required_eq_nil.mp (each (.required ["type"]) (by simp)) "type" (by simp)
  obtain ⟨tag, found⟩ := Option.isSome_iff_exists.mp needed
  have known := (Schema.members_eq_nil (by simp)).mp
    (each (.members [("type", .oneOf (Kind.all.map Kind.name))]) (by simp)) "type" _ tag rfl found
  obtain ⟨text, isOption, same⟩ := List.any_eq_true.mp (Schema.defects_eq_nil.mp known)
  obtain ⟨kind, -, rfl⟩ := List.mem_map.mp isOption
  exact ⟨kind, by rw [found, eq_str_of_beq same]⟩

theorem Action.keeps : Keeps ConfigSchema.action .action Action.reader Action.toJson := by
  intro found depth fits inRange printable
  obtain ⟨members, rfl⟩ := Schema.exists_obj_of_hasKind
    (Schema.ofKind_eq_nil.mp (Schema.all_eq_nil.mp fits (.ofKind .object) (by simp)))
  obtain ⟨depth, rfl⟩ := exists_succ_of_printable printable
  obtain ⟨kind, tagged⟩ := exists_kind fits
  obtain ⟨complete, declared⟩ :=
    ConfigSchema.actionOf_eq_nil.mp ((ConfigSchema.action_eq_nil tagged).mp fits)
  have ofKind : OfKind kind depth members := by
    refine ⟨⟨⟨declared, ?_⟩, ?_, ?_⟩, tagged⟩
    · intro name value found
      exact (printable_obj.mp printable).2 _ (Dict.mem_of_get? found)
    · intro name needed
      exact Option.isSome_iff_exists.mp (complete name needed)
    · intro slot isSlot
      exact InRange.record.mp ((InRange.action tagged).mp inRange) slot
        (List.mem_cons_of_mem _ isSlot)
  cases kind with
  | navigate => exact NavigateAction.survives ofKind
  | wait => exact WaitAction.survives ofKind
  | click => exact ClickAction.survives ofKind
  | scroll => exact ScrollAction.survives ofKind
  | extract => exact ExtractAction.survives ofKind

/-! A configuration of the right shape survives reading and writing. -/

namespace Config

def dateFormatsSlot : Slot := ⟨"dateFormats", .map .plain, none, some (.obj [])⟩

theorem gives_dateFormats {members : Members}
    (survives : ∀ value, members.get? "dateFormats" = some value →
      Survives (.map .plain) (Reader.dict Reader.text)
        (fun targets => .obj (targets.map fun (name, target) => (name, .str target))) value) :
    ∃ formats : Dict String,
      Gives members [dateFormatsSlot]
        (.withDefault "dateFormats" (Reader.dict Reader.text) []) formats
        [("dateFormats", if formats.isEmpty then none
          else some (.obj (formats.map fun (name, target) => (name, .str target))))] := by
  cases found : members.get? dateFormatsSlot.name with
  | none => exact ⟨[], .one found rfl (.absent dateFormatsSlot)⟩
  | some value =>
      obtain ⟨-, formats, reads, agrees⟩ := survives value found
      refine ⟨formats, .one found reads ?_⟩
      cases formats with
      | cons entry rest => exact .present agrees
      | nil =>
          obtain ⟨inner, rfl, -, filled, -⟩ := dict_eq_ok reads
          cases inner with
          | nil => exact .dropped rfl
          | cons entry rest => exact absurd rfl (filled (List.cons_ne_nil entry rest))

theorem keeps : Keeps ConfigSchema.config (.record .config) Config.reader Config.toJson := by
  refine keeps_record rfl (by decide) ?_
  intro depth members fitting
  obtain ⟨site, givesSite⟩ := fitting.member "site" rfl rfl (by decide) Site.keeps
  obtain ⟨browser, givesBrowser⟩ :=
    fitting.withDefault "browser" rfl rfl default BrowserOptions.keeps rfl
  obtain ⟨limit, givesLimit⟩ := fitting.withDefault "rateLimit" rfl rfl default RateLimit.keeps rfl
  obtain ⟨workflow, givesWorkflow⟩ := fitting.member "workflow" rfl rfl (by decide)
    (keeps_list (by simp) (by simp) Action.keeps)
  obtain ⟨mapping, givesMapping⟩ := fitting.member "mapping" rfl rfl (by decide) Mapping.keeps
  obtain ⟨validation, givesValidation⟩ :=
    fitting.withDefault "validation" rfl rfl default ValidationRules.keeps rfl
  obtain ⟨debug, givesDebug⟩ := fitting.withDefault "debug" rfl rfl default DebugOptions.keeps rfl
  obtain ⟨dateFormats, givesFormats⟩ := gives_dateFormats fun value found =>
    fitting.survives rfl rfl found (keeps_targets value depth)
  exact ⟨_, _, (((((((givesSite.map Config.mk).seq givesBrowser).seq givesLimit).seq
    givesWorkflow).seq givesMapping).seq givesValidation).seq givesDebug).seq givesFormats, rfl⟩

end Config

namespace Config

theorem fits_variedConfig : ConfigSchema.config variedConfig = [] := by
  have noViolation : (ConfigSchema.config variedConfig).isEmpty = true := by decide +kernel
  exact List.isEmpty_iff.mp noViolation

theorem printable_variedConfig : variedConfig.Printable depthLimit := by
  simp [variedConfig, variedWorkflow, depthLimit, Printable, PrintableMembers, PrintableItems]

theorem inRange_variedWorkflow : ∀ action ∈ variedWorkflow, InRange .action action := by
  simp only [variedWorkflow, List.forall_mem_cons, List.not_mem_nil, false_imp_iff, implies_true,
    and_true]
  refine ⟨(@InRange.action .navigate _ rfl).mpr ?_, (@InRange.action .click _ rfl).mpr ?_,
    (@InRange.action .scroll _ rfl).mpr ?_, (@InRange.action .extract _ rfl).mpr ?_⟩
  all_goals
    simp [Block.slots, Action.Kind.slots, Slot.plain, Slot.defaulting, Slot.flag, Members.get?,
      List.lookup_cons, Shape.word64, Shape.signed64]

theorem inRange_variedConfig : InRange (.record .config) variedConfig := by
  simpa [variedConfig, Block.slots, Slot.plain, Slot.defaulting, Members.get?, List.lookup_cons,
    Shape.word32, Shape.word64] using inRange_variedWorkflow

/-- A value that a text can say, of the right shape and with whole numbers in range, is read, and
the configuration is written so that it agrees with the value. -/
theorem exists_reader_agrees {value : Json} {depth : Nat} (fits : ConfigSchema.config value = [])
    (inRange : InRange (.record .config) value) (printable : value.Printable depth) :
    ∃ config, Config.reader value = .ok config ∧
      Agrees (.record .config) value config.toJson :=
  (keeps value depth fits inRange printable).agrees

theorem exists_reader_agrees_variedConfig :
    ∃ config, Config.reader variedConfig = .ok config ∧
      Agrees (.record .config) variedConfig config.toJson :=
  exists_reader_agrees fits_variedConfig inRange_variedConfig printable_variedConfig

end Config

end GigListings
