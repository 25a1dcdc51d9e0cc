import GigListings.Proofs.Config.Reread
import GigListings.Proofs.Engine.Settled
import GigListings.Proofs.Gig.Reread
import GigListings.Proofs.Kept.Config
import GigListings.Proofs.Run.Together
import GigListings.Proofs.Run.Makes

namespace GigListings

open Json Run Scaffold

/-! Scrapes with a completed configuration. The path that it demands besides is the name of the
venue, which every gig has. -/

namespace ValidationRules

def withPath (rules : ValidationRules) (path : String) : ValidationRules :=
  { rules with required := rules.required ++ [path] }

variable {rules : ValidationRules} {path : String}

theorem missingPath?_withPath {gig : Gig} (filled : gig.Says path) :
    (rules.withPath path).missingPath? gig = rules.missingPath? gig := by
  have found := Gig.any_lookup?_eq_true_iff.mpr filled
  rw [missingPath?, withPath, List.find?_append, List.find?_cons_of_neg (by simp [found]),
    List.find?_nil, Option.or_none, missingPath?]

theorem checkGigs_withPath {gigs : List Gig} (filled : ∀ gig ∈ gigs, gig.Says path) :
    (rules.withPath path).checkGigs gigs = rules.checkGigs gigs := by
  induction gigs with
  | nil => rfl
  | cons gig gigs induction =>
      obtain ⟨first, others⟩ := List.forall_mem_cons.mp filled
      rw [checkGigs, checkGigs, missingPath?_withPath first, induction others]

/-- A path that every gig fills refuses no batch, and changes no fault of another path. -/
theorem check_withPath (rules : ValidationRules) {gigs : List Gig}
    (filled : ∀ gig ∈ gigs, gig.Says path) :
    (rules.withPath path).check gigs = rules.check gigs := by
  rw [check, check, checkGigs_withPath filled]
  rfl

end ValidationRules

/-- A path into a record begins with the name of one of its members. -/
theorem Json.leads_record {entries : List (String × Option Json)} {names : List String}
    (named : entries.map Prod.fst = names) (distinct : names.Nodup) {key : String}
    {value target : Json} {path : List (List Char)} (member : (key, some value) ∈ entries)
    (later : Leads value path target) : Leads (record entries) (key.toList :: path) target := by
  subst named
  rw [record_eq_obj]
  refine .member ?_ later
  rw [String.ofList_toList]
  exact get?_written distinct member

theorem Gig.says_venue_name {gig : Gig} (named : gig.venue.name ≠ "") :
    gig.Says "venue.name" := by
  have path : Text.splitOn (· == '.') "venue.name".toList = ["venue".toList, "name".toList] := by
    decide
  have names : (contentNames ++ ["hash", "updatedAt"]).Nodup := by decide
  have venueNames : ["name", "address", "city", "country", "lat", "lng"].Nodup := by decide
  have inVenue : Leads gig.venue.toJson ["name".toList] (.str gig.venue.name) :=
    leads_record (by rfl) venueNames List.mem_cons_self (.here _)
  have inGig : Leads gig.toJson ["venue".toList, "name".toList] (.str gig.venue.name) :=
    leads_record (by rfl) names (by simp [contentMembers]) inVenue
  rw [Gig.Says, path]
  exact ⟨_, inGig, by simpa [isTruthy] using named⟩

namespace Normalizer

theorem fieldOrName_ne_empty (item : Item) {name : String} (named : name ≠ "") :
    fieldOrName item name ≠ "" := by
  unfold fieldOrName
  cases found : item.link? name with
  | none => exact named
  | some text =>
      have filled := (Option.filter_eq_some_iff.mp found).2
      simpa using filled

theorem says_venue_name_of_mem_gigs {normalizer : Normalizer} {items : List Item} {gig : Gig}
    (named : normalizer.config.mapping.venue.name ≠ "") (member : gig ∈ normalizer.gigs items) :
    gig.Says "venue.name" := by
  obtain ⟨item, -, dateStart, -, rfl⟩ := exists_draft_of_mem_gigs member
  exact Gig.says_venue_name (fieldOrName_ne_empty item named)

end Normalizer

namespace Engine

/-- The rules of a completed configuration settle every batch as before. -/
theorem settlesAlike_completed {text : String} {value : Json} {config : Config} {engine : Engine}
    (read : Json.parse? text = some value) (accepted : Config.parse text = .ok config)
    (configured : engine.config = config) :
    engine.SettlesAlike (config.completed value).validation := by
  intro dates now items
  cases there : (value.member? "validation").isSome with
  | true =>
      have same : (config.completed value).validation = engine.config.validation := by
        rw [Config.completed, there, configured]
        rfl
      rw [same]
      rfl
  | false =>
      have rules : (config.completed value).validation =
          engine.config.validation.withPath "venue.name" := by
        have lacks : value.member? "validation" = none := Option.not_isSome_iff_eq_none.mp (by
          rw [there]
          exact Bool.false_ne_true)
        rw [Config.completed, there, configured, Config.validation_of_accepted read accepted lacks]
        rfl
      have alike := ValidationRules.check_withPath engine.config.validation
        fun gig (member : gig ∈ Normalizer.gigs
            ⟨engine.config, engine.transforms, engine.formats, dates, now⟩ items) =>
          Normalizer.says_venue_name_of_mem_gigs
            (configured ▸ Config.venue_name_ne_empty accepted) member
      rw [rules]
      exact congrArg (Except.map _) alike

end Engine

/-! The same scrape at two moments. -/

structure SameCalls (folder : String) (s t : Session) : Prop where
  time : s.time = t.time
  history : s.history = t.history
  opened : s.opened = t.opened
  disks : DisksAlike folder s.disk t.disk

namespace SameCalls

theorem refl (folder : String) (session : Session) : SameCalls folder session session :=
  ⟨rfl, rfl, rfl, .inl rfl⟩

theorem alikeUpToFiles (folder : String) : AlikeUpToFiles folder (SameCalls folder) where
  disks := fun _ _ same => same.disks
  replace := fun _ _ _ _ same disks => ⟨same.time, same.history, same.opened, disks⟩

variable (world : World) (start : Int) (folder : String)

theorem call (call : Call) :
    Together world (world.startingAt start) (SameCalls folder) (Run.call call) (Run.call call)
      (Equally (SameCalls folder)) := by
  rintro ⟨time, history, opened, disk⟩ ⟨_, _, _, other⟩ ⟨rfl, rfl, rfl, disks⟩
  exact ⟨rfl, rfl, rfl, rfl, disks⟩

theorem keeps (capture : Capture) :
    KeepsRelated capture capture world (world.startingAt start) (SameCalls capture.folder) where
  time := fun _ _ same => same.time
  opened := fun _ _ same => same.opened
  opening := fun _ _ _ same => ⟨same.time, same.history, rfl, same.disks⟩
  call := fun asked _ => call world start _ asked
  sleep := by
    rintro micros ⟨time, history, opened, disk⟩ ⟨_, _, _, other⟩ ⟨rfl, rfl, rfl, disks⟩
    exact ⟨rfl, rfl, rfl, disks⟩
  take := fun _ => (alikeUpToFiles capture.folder).take fun _ => call world start _ _

end SameCalls

namespace Engine

def withConfig (engine : Engine) (config : Config) : Engine := { engine with config }

theorem ofConfig_completed (config : Config) (value : Json) :
    ofConfig (config.completed value) =
      (ofConfig config).map (·.withConfig (config.completed value)) := by
  have formats : (config.completed value).dateFormats = config.dateFormats := rfl
  have site : (config.completed value).site = config.site := rfl
  unfold ofConfig
  rw [formats, site]
  cases (FormatRegistry.ofAliases config.dateFormats).mapError EngineFault.formats with
  | error fault => rfl
  | ok registry =>
      cases zoneOf config.site with
      | error fault => rfl
      | ok zone => rfl

/-- An accepted configuration whose missing blocks are written out is accepted, with every member
that it had, and nothing is missing of it any more. An engine for it, with the same date for today,
makes the same calls at the same times, and fails in the same way or has the same gigs, but for the
moment at which they were updated. -/
theorem run_completed {text : String} {value : Json} {config : Config}
    (read : Json.parse? text = some value) (accepted : Config.parse text = .ok config) :
    (Config.parse (complete value).compact = .ok (config.completed value) ∧
      Config.parse (complete value).pretty = .ok (config.completed value)) ∧
    (∀ name found, value.member? name = some found →
      (complete value).member? name = some found) ∧
    (complete (complete value) = complete value ∧ added (complete value) = []) ∧
    ofConfig (config.completed value) =
      (ofConfig config).map (·.withConfig (config.completed value)) ∧
    ∀ (engine : Engine) (today : Date) (world : World) (start : Int) (session : Session),
      engine.config = config → engine.today = some today →
      ((engine.withConfig (config.completed value)).run.outcome (world.startingAt start)
          session).2.history = (engine.run.outcome world session).2.history ∧
      ((engine.withConfig (config.completed value)).run.outcome (world.startingAt start)
          session).1 =
        (engine.run.outcome world session).1.map (List.map
          (·.updated ((engine.withConfig (config.completed value)).run.endMoment
            (world.startingAt start) session))) := by
  refine ⟨Config.parse_complete read accepted, fun _ _ there => member?_complete there,
    ⟨complete_complete value, added_complete value⟩, ofConfig_completed config value, ?_⟩
  intro engine today world start session configured pinned
  have refitted : engine.withConfig (config.completed value) =
      engine.refitted (config.completed value).validation engine.config.debug
        engine.captureFolder := by
    rw [withConfig, Engine.refitted, configured]
    rfl
  have sameDates (now later : Instant) : engine.dates now = engine.dates later := by
    unfold dates
    rw [pinned]
    rfl
  have keeps : KeepsRelated engine.capture
      (engine.refitted (config.completed value).validation engine.config.debug
        engine.captureFolder).capture world (world.startingAt start)
      (SameCalls engine.capture.folder) := SameCalls.keeps world start engine.capture
  rw [refitted]
  obtain ⟨same, updated⟩ := run_together keeps (settlesAlike_completed read accepted configured)
    (SameCalls.refl _ session) (sameDates _ _)
  exact ⟨same.history.symm, updated⟩

theorem run_completed_variedConfig :
    ∃ config, Json.parse? variedConfig.compact = some variedConfig ∧
      Config.parse variedConfig.compact = .ok config ∧
      Config.parse (complete variedConfig).compact = .ok (config.completed variedConfig) ∧
      (({ ticketsEngine with config, today := some .epoch }.withConfig
          (config.completed variedConfig)).run.outcome ((listingWorld true).startingAt 1000)
          (.start .empty)).2.history =
        ({ ticketsEngine with config, today := some .epoch }.run.outcome (listingWorld true)
          (.start .empty)).2.history := by
  obtain ⟨config, accepted⟩ := Config.exists_parse_variedConfig
  have read := parse?_compact Config.printable_variedConfig
  obtain ⟨⟨compact, -⟩, -, -, -, runs⟩ := run_completed read accepted
  exact ⟨config, read, accepted, compact, (runs { ticketsEngine with config, today := some .epoch }
    .epoch (listingWorld true) 1000 (.start .empty) rfl rfl).1⟩

end Engine

end GigListings
