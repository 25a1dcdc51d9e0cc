import GigListings.Config.Scaffold
import GigListings.Proofs.Config.Actions
import GigListings.Proofs.Config.Blocks
import GigListings.Proofs.Config.Checked
import GigListings.Proofs.Json.RoundTrip

namespace GigListings

/-! An accepted configuration that is written is accepted again, as the same configuration. -/

open Json RecordReader

namespace Json

theorem faithful_list {depth : Nat} {schema : Schema} {reader : Reader α} {write : α → Json}
    (each : ∀ depth, Faithful depth schema reader write) :
    Faithful depth (.all [.ofKind .array, .nonEmptyItems, .everyItem schema]) (Reader.list reader)
      fun xs => .arr (xs.map write) := by
  intro found xs fits reads printable
  simp only [Schema.all_eq_nil, List.mem_cons, List.not_mem_nil, or_false, forall_eq_or_imp,
    forall_eq] at fits
  obtain ⟨array, nonempty, every⟩ := fits
  cases found with
  | arr items =>
      have pass : items.mapM reader = .ok xs := reads
      have positive := printable.1
      obtain ⟨depth, rfl⟩ : ∃ inner, depth = inner + 1 := ⟨depth - 1, by omega⟩
      have restates : ∀ x ∈ xs, Restates schema reader depth x (write x) := by
        intro x member
        obtain ⟨item, source, read⟩ := Except.exists_of_mem_mapM pass member
        exact each depth item x (Schema.everyItem_eq_nil.mp every item source) read
          (printable_arr.mp printable item source)
      refine ⟨?_, ?_, by simp, ?_⟩
      · simp only [Schema.all_eq_nil, List.mem_cons, List.not_mem_nil, or_false, forall_eq_or_imp,
          forall_eq]
        refine ⟨Schema.ofKind_eq_nil.mpr rfl, Schema.defects_eq_nil.mpr ?_,
          Schema.everyItem_eq_nil.mpr ?_⟩
        · cases items with
          | nil => cases nonempty
          | cons item items =>
              have steps := Except.mapM_eq_ok.mp pass
              cases steps
              rfl
        · intro item member
          obtain ⟨x, source, rfl⟩ := List.mem_map.mp member
          exact (restates x source).fits
      · change (xs.map write).mapM reader = .ok xs
        rw [Except.mapM_eq_ok, List.forall₂_map_left_iff, List.forall₂_same]
        exact fun x member => (restates x member).reads
      · rw [printable_arr]
        intro item member
        obtain ⟨x, source, rfl⟩ := List.mem_map.mp member
        exact (restates x source).printable
  | _ => cases array

theorem faithful_targets (depth : Nat) :
    Faithful depth ConfigSchema.dateFormats (Reader.dict Reader.text) fun targets =>
      .obj (targets.map fun (name, target) => (name, .str target)) := by
  intro found targets fits reads printable
  obtain ⟨members, rfl, sorted, -, -⟩ := dict_eq_ok reads
  obtain ⟨depth, rfl⟩ := exists_succ_of_printable printable
  refine ⟨?_, dict_obj sorted fun _ _ => rfl, by simp, printable_dict sorted fun _ _ => trivial⟩
  unfold ConfigSchema.dateFormats
  simp only [Schema.all_eq_nil, List.mem_cons, List.not_mem_nil, or_false, forall_eq_or_imp,
    forall_eq]
  refine ⟨Schema.ofKind_eq_nil.mpr rfl, Schema.everyMember_eq_nil.mpr ?_⟩
  intro entry member
  obtain ⟨source, -, rfl⟩ := List.mem_map.mp member
  exact Schema.ofKind_eq_nil.mpr rfl

end Json

namespace Config

theorem conveys_dateFormats {known : List (String × Schema)} {depth : Nat} {members : Members}
    {formats : Dict String} (suitable : Suitable known depth members)
    (declared : known.lookup "dateFormats" = some ConfigSchema.dateFormats)
    (takes : Takes (Reader.dict Reader.text) (some []) (members.get? "dateFormats") formats) :
    Conveys known depth (.withDefault "dateFormats" (Reader.dict Reader.text) []) formats
      [("dateFormats", if formats.isEmpty then none
        else some (.obj (formats.map fun (name, target) => (name, .str target))))] := by
  cases formats with
  | nil => exact .absent "dateFormats" (Reader.dict Reader.text) []
  | cons entry rest =>
      unfold Takes at takes
      split at takes
      · rename_i value found
        exact .one_of_restates declared (some []) (faithful_targets depth value _
          (suitable.fits _ _ value declared found) takes (suitable.printable _ value found))
      · cases takes

theorem faithful (depth : Nat) :
    Faithful (depth + 3) ConfigSchema.config Config.reader Config.toJson := by
  apply faithful_record_succ ["site", "browser", "rateLimit", "workflow", "mapping", "validation",
    "debug", "dateFormats"]
  · exact fun _ => rfl
  · decide
  · decide
  · simp
  intro members config shape place suitable read
  simp only [seq_read, map_read, member_read, withDefault_read] at read
  obtain ⟨_, dateFormats, ⟨_, debug, ⟨_, validation, ⟨_, mapping, ⟨_, workflow, ⟨_, rateLimit,
    ⟨_, browser, ⟨site, takesSite, rfl⟩, takesBrowser, rfl⟩, takesLimit, rfl⟩, takesWorkflow, rfl⟩,
    takesMapping, rfl⟩, takesValidation, rfl⟩, takesDebug, rfl⟩, takesFormats, rfl⟩ := read
  exact ((((((((Conveys.member suitable rfl (Site.faithful _) takesSite).map Config.mk).seq
    (.withDefault suitable rfl (BrowserOptions.faithful _) (BrowserOptions.restates_default _)
      takesBrowser)).seq
    (.withDefault suitable rfl (RateLimit.faithful _) (RateLimit.restates_default _)
      takesLimit)).seq
    (.member suitable rfl (faithful_list Action.faithful) takesWorkflow)).seq
    (.member suitable rfl (Mapping.faithful _) takesMapping)).seq
    (.withDefault suitable rfl (ValidationRules.faithful _) (ValidationRules.restates_default _)
      takesValidation)).seq
    (.withDefault suitable rfl (DebugOptions.faithful _) (DebugOptions.restates_default _)
      takesDebug)).seq
    (conveys_dateFormats suitable rfl takesFormats)

/-- What is written of an accepted configuration is accepted as the same configuration. -/
theorem parse_compact_toJson {text : String} {config : Config}
    (accepted : parse text = .ok config) :
    parse config.toJson.compact = .ok config := by
  obtain ⟨value, read, made⟩ := parse_eq_ok.mp accepted
  obtain ⟨fits, reads, checked⟩ := ofJson_eq_ok.mp made
  have restates := faithful 124 value config fits reads (printable_of_parse read)
  exact parse_eq_ok.mpr ⟨config.toJson, parse?_compact restates.printable,
    ofJson_eq_ok.mpr ⟨restates.fits, restates.reads, checked⟩⟩

theorem parse_compact_toJson_variedConfig :
    ∃ config, parse variedConfig.compact = .ok config ∧
      parse config.toJson.compact = .ok config := by
  obtain ⟨config, accepted⟩ := exists_parse_variedConfig
  exact ⟨config, accepted, parse_compact_toJson accepted⟩

end Config

/-! A configuration whose missing blocks are written out. It is read as before, but for the paths
that its results have to fill: the blocks written are those that apply anyway, with one more
path. -/

namespace Scaffold

/-- The rules that are written out for a configuration without any. -/
def validationRules : ValidationRules := ⟨some 1, none, ["title", "dateStart", "venue.name"]⟩

theorem mem_lacking {members : Members} {entry : String × Json} :
    entry ∈ lacking members ↔
      entry ∈ blocks ∧ Members.contains members entry.1 = false := by
  rw [lacking, List.mem_filter, Bool.not_eq_true']

theorem get?_complete (members : Members) (name : String) :
    Members.get? (members ++ lacking members) name =
      (Members.get? members name).or (Members.get? blocks name) := by
  rw [Members.get?, List.lookup_append]
  cases found : Members.get? members name with
  | some value =>
      rw [Members.get?] at found
      rw [found]
      rfl
  | none =>
      have lacks : (!Members.contains members name) = true := by
        rw [Members.contains, found]
        rfl
      have written : Dict.get? (lacking members) name = Dict.get? blocks name :=
        Dict.get?_filter blocks (fun name => !Members.contains members name) lacks
      rw [Members.get?] at found
      rw [found]
      exact written

theorem lacking_complete (members : Members) : lacking (members ++ lacking members) = [] := by
  rw [lacking, List.filter_eq_nil_iff]
  rintro ⟨name, value⟩ block
  have there : (Members.get? blocks name).isSome = true := by
    have all : ∀ entry ∈ blocks, (Members.get? blocks entry.1).isSome = true := by decide
    exact all _ block
  simp [Members.contains, get?_complete, Option.isSome_or, there]

theorem complete_complete (value : Json) : complete (complete value) = complete value := by
  cases value with
  | obj members => rw [complete, complete, lacking_complete, List.append_nil]
  | _ => rfl

theorem added_complete (value : Json) : added (complete value) = [] := by
  cases value with
  | obj members => rw [complete, added, lacking_complete, List.map_nil]
  | _ => rfl

theorem member?_complete {value found : Json} {name : String}
    (there : value.member? name = some found) : (complete value).member? name = some found := by
  cases value with
  | obj members =>
      change Members.get? members name = some found at there
      change Members.get? (members ++ lacking members) name = some found
      rw [get?_complete, there, Option.some_or]
  | _ => cases there

end Scaffold

namespace Config

open Scaffold

/-- The configuration that is read when the blocks which its JSON lacks are written out. -/
def completed (config : Config) (value : Json) : Config :=
  { config with
    validation :=
      if (value.member? "validation").isSome then config.validation else validationRules }

theorem takes_complete {reader : Reader α} {absent : Option α} {members : Members} {name : String}
    {a : α} (takes : Takes reader absent (members.get? name) a)
    (unchanged : ∀ block, Members.get? blocks name = some block → absent = some a →
      reader block = .ok a) :
    Takes reader absent (Members.get? (members ++ lacking members) name) a := by
  rw [get?_complete]
  cases found : Members.get? members name with
  | some value =>
      rw [found] at takes
      exact takes
  | none =>
      rw [found] at takes
      rw [Option.none_or]
      cases written : Members.get? blocks name with
      | none => exact takes
      | some block => exact unchanged block written takes

theorem takes_complete_other {reader : Reader α} {absent : Option α} {members : Members}
    {name : String} {a : α} (other : Members.get? blocks name = none)
    (takes : Takes reader absent (members.get? name) a) :
    Takes reader absent (Members.get? (members ++ lacking members) name) a :=
  takes_complete takes fun block written => by
    rw [other] at written
    cases written

theorem takes_complete_block {reader : Reader α} {absent : α} {members : Members} {name : String}
    {block : Json} {a : α} (written : Members.get? blocks name = some block)
    (reads : reader block = .ok absent) (takes : Takes reader (some absent) (members.get? name) a) :
    Takes reader (some absent) (Members.get? (members ++ lacking members) name) a :=
  takes_complete takes fun other same isAbsent => by
    rw [written] at same
    cases same
    cases isAbsent
    exact reads

theorem takes_complete_validation {members : Members} {rules : ValidationRules}
    (takes : Takes ValidationRules.reader (some default) (members.get? "validation") rules) :
    Takes ValidationRules.reader (some default)
      (Members.get? (members ++ lacking members) "validation")
      (if (Members.get? members "validation").isSome then rules else validationRules) := by
  rw [get?_complete]
  cases found : Members.get? members "validation" with
  | some value =>
      rw [found] at takes
      exact takes
  | none => exact rfl

theorem reader_obj_iff {members : Members} {config : Config} :
    Config.reader (.obj members) = .ok config ↔
      Takes Site.reader none (members.get? "site") config.site ∧
      Takes BrowserOptions.reader (some default) (members.get? "browser") config.browser ∧
      Takes RateLimit.reader (some default) (members.get? "rateLimit") config.rateLimit ∧
      Takes (Reader.list Action.reader) none (members.get? "workflow") config.workflow ∧
      Takes Mapping.reader none (members.get? "mapping") config.mapping ∧
      Takes ValidationRules.reader (some default) (members.get? "validation") config.validation ∧
      Takes DebugOptions.reader (some default) (members.get? "debug") config.debug ∧
      Takes (Reader.dict Reader.text) (some []) (members.get? "dateFormats")
        config.dateFormats := by
  rw [Config.reader, run_obj]
  simp only [seq_read, map_read, member_read, withDefault_read]
  constructor
  · rintro ⟨_, dateFormats, ⟨_, debug, ⟨_, validation, ⟨_, mapping, ⟨_, workflow, ⟨_, rateLimit,
      ⟨_, browser, ⟨site, takesSite, rfl⟩, takesBrowser, rfl⟩, takesLimit, rfl⟩, takesWorkflow,
      rfl⟩, takesMapping, rfl⟩, takesValidation, rfl⟩, takesDebug, rfl⟩, takesFormats, rfl⟩
    exact ⟨takesSite, takesBrowser, takesLimit, takesWorkflow, takesMapping, takesValidation,
      takesDebug, takesFormats⟩
  · rintro ⟨takesSite, takesBrowser, takesLimit, takesWorkflow, takesMapping, takesValidation,
      takesDebug, takesFormats⟩
    exact ⟨_, _, ⟨_, _, ⟨_, _, ⟨_, _, ⟨_, _, ⟨_, _, ⟨_, _, ⟨_, takesSite, rfl⟩, takesBrowser, rfl⟩,
      takesLimit, rfl⟩, takesWorkflow, rfl⟩, takesMapping, rfl⟩, takesValidation, rfl⟩, takesDebug,
      rfl⟩, takesFormats, rfl⟩

theorem reader_complete {members : Members} {config : Config}
    (reads : Config.reader (.obj members) = .ok config) :
    Config.reader (complete (.obj members)) = .ok (config.completed (.obj members)) := by
  obtain ⟨site, browser, rateLimit, workflow, mapping, validation, debug, dateFormats⟩ :=
    reader_obj_iff.mp reads
  exact reader_obj_iff.mpr ⟨takes_complete_other rfl site, takes_complete_block rfl rfl browser,
    takes_complete_block rfl rfl rateLimit, takes_complete_other rfl workflow,
    takes_complete_other rfl mapping, takes_complete_validation validation,
    takes_complete_other rfl debug, takes_complete_other rfl dateFormats⟩

theorem validation_of_lacking {members : Members} {config : Config}
    (reads : Config.reader (.obj members) = .ok config)
    (lacks : Members.get? members "validation" = none) : config.validation = default := by
  obtain ⟨-, -, -, -, -, takes, -⟩ := reader_obj_iff.mp reads
  rw [lacks] at takes
  exact (Option.some.inj takes).symm

/-! What is written out has the shape demanded, and a text can say it. -/

theorem fits_complete {members : Members} (fits : ConfigSchema.config (.obj members) = []) :
    ConfigSchema.config (complete (.obj members)) = [] := by
  obtain ⟨_, ⟨⟩, required, closed⟩ := ConfigSchema.record_eq_nil.mp fits
  refine ConfigSchema.record_eq_nil.mpr ⟨_, rfl, fun name needed => ?_, ?_⟩
  · have there := required name needed
    rw [Members.contains] at there ⊢
    rw [get?_complete, Option.isSome_or, there, Bool.true_or]
  · intro name value member
    rcases List.mem_append.mp member with before | added
    · exact closed name value before
    · obtain ⟨block, -⟩ := mem_lacking.mp added
      have each : name = "browser" ∧ value = Scaffold.browser ∨
          name = "rateLimit" ∧ value = Scaffold.rateLimit ∨
          name = "validation" ∧ value = Scaffold.validation := by
        simpa [blocks] using block
      rcases each with ⟨rfl, rfl⟩ | ⟨rfl, rfl⟩ | ⟨rfl, rfl⟩
      · exact ⟨ConfigSchema.browser, rfl, rfl⟩
      · exact ⟨ConfigSchema.rateLimit, rfl, rfl⟩
      · exact ⟨ConfigSchema.validation, rfl, rfl⟩

theorem printable_complete {members : Members} {depth : Nat}
    (printable : (Json.obj members).Printable (depth + 3)) :
    (complete (.obj members)).Printable (depth + 3) := by
  rw [printable_obj] at printable
  rw [complete, printable_obj]
  obtain ⟨distinct, each⟩ := printable
  refine ⟨?_, ?_⟩
  · rw [List.map_append, List.nodup_append]
    refine ⟨distinct, ?_, ?_⟩
    · have all : (blocks.map Prod.fst).Nodup := by decide
      exact all.sublist (List.filter_sublist.map Prod.fst)
    · rintro name before other added rfl
      obtain ⟨⟨_, value⟩, lack, rfl⟩ := List.mem_map.mp added
      obtain ⟨found, there⟩ := Dict.exists_get?_of_mem_names before
      have absent := (mem_lacking.mp lack).2
      rw [Members.contains, Members.get?] at absent
      rw [Dict.get?] at there
      rw [there] at absent
      cases absent
  · intro entry member
    rcases List.mem_append.mp member with before | added
    · exact each entry before
    · obtain ⟨block, -⟩ := mem_lacking.mp added
      have all : ∀ entry ∈ blocks, entry.2.Printable (depth + 2) := by
        simp [blocks, Scaffold.browser, Scaffold.rateLimit, Scaffold.validation, Json.strings,
          Printable, PrintableMembers, PrintableItems]
      exact all entry block

/-- Nothing is checked of the paths that results have to fill. -/
theorem check_completed (config : Config) (value : Json)
    (lacking : value.member? "validation" = none → config.validation = default) :
    (config.completed value).check = config.check := by
  unfold completed check
  cases there : value.member? "validation" with
  | some rules => rfl
  | none =>
      rw [lacking there]
      rfl

/-- An accepted configuration is an object of the shape demanded. -/
theorem exists_members_of_accepted {text : String} {value : Json} {config : Config}
    (read : Json.parse? text = some value) (accepted : parse text = .ok config) :
    ∃ members, value = .obj members ∧ ConfigSchema.config (.obj members) = [] ∧
      Config.reader (.obj members) = .ok config ∧ config.check = [] := by
  obtain ⟨found, foundRead, made⟩ := parse_eq_ok.mp accepted
  rw [read] at foundRead
  cases foundRead
  obtain ⟨fits, reads, checked⟩ := ofJson_eq_ok.mp made
  obtain ⟨members, rfl, -, -⟩ := ConfigSchema.record_eq_nil.mp fits
  exact ⟨members, rfl, fits, reads, checked⟩

theorem parse_complete {text : String} {value : Json} {config : Config}
    (read : Json.parse? text = some value) (accepted : parse text = .ok config) :
    parse (complete value).compact = .ok (config.completed value) ∧
      parse (complete value).pretty = .ok (config.completed value) := by
  obtain ⟨members, rfl, fits, reads, checked⟩ := exists_members_of_accepted read accepted
  have printable : (complete (.obj members)).Printable (124 + 3) :=
    printable_complete (printable_of_parse read)
  have completed : ofJson (complete (.obj members)) = .ok (config.completed (.obj members)) := by
    refine ofJson_eq_ok.mpr ⟨fits_complete fits, reader_complete reads, ?_⟩
    rw [check_completed config (.obj members) (validation_of_lacking reads)]
    exact checked
  exact ⟨parse_eq_ok.mpr ⟨_, parse?_compact printable, completed⟩,
    parse_eq_ok.mpr ⟨_, parse?_pretty printable, completed⟩⟩

theorem validation_of_accepted {text : String} {value : Json} {config : Config}
    (read : Json.parse? text = some value) (accepted : parse text = .ok config)
    (lacks : value.member? "validation" = none) : config.validation = default := by
  obtain ⟨members, rfl, -, reads, -⟩ := exists_members_of_accepted read accepted
  exact validation_of_lacking reads lacks

/-! The name that a venue is given. -/

theorem venue_name_ne_empty {text : String} {config : Config} (accepted : parse text = .ok config) :
    config.mapping.venue.name ≠ "" := by
  obtain ⟨value, read, made⟩ := parse_eq_ok.mp accepted
  obtain ⟨fits, reads, -⟩ := ofJson_eq_ok.mp made
  have written := (faithful 124 value config fits reads (printable_of_parse read)).fits
  have mapping : ConfigSchema.mapping config.mapping.toJson = [] := by
    obtain ⟨_, ⟨⟩, -, closed⟩ := ConfigSchema.record_eq_nil.mp written
    obtain ⟨_, ⟨⟩, fits⟩ := closed "mapping" config.mapping.toJson
      (mem_written.mpr (by simp))
    exact fits
  have venue : ConfigSchema.venue config.mapping.venue.toJson = [] := by
    obtain ⟨_, ⟨⟩, -, closed⟩ := ConfigSchema.record_eq_nil.mp mapping
    obtain ⟨_, ⟨⟩, fits⟩ := closed "venue" config.mapping.venue.toJson
      (mem_written.mpr (by simp))
    exact fits
  have name : ConfigSchema.name (.str config.mapping.venue.name) = [] := by
    obtain ⟨_, ⟨⟩, -, closed⟩ := ConfigSchema.record_eq_nil.mp venue
    obtain ⟨_, ⟨⟩, fits⟩ := closed "name" (.str config.mapping.venue.name)
      (mem_written.mpr (by simp))
    exact fits
  intro empty
  rw [empty] at name
  cases name

end Config

end GigListings
