import GigListings.Config.File
import GigListings.Engine
import GigListings.Proofs.Extraction.Declared
import GigListings.Proofs.Printed.Format
import Mathlib.Tactic.ByContra

namespace GigListings

/-! What it takes to accept a configuration. -/

namespace Config

theorem ofJson_eq_ok {value : Json} {config : Config} :
    ofJson value = .ok config ↔
      ConfigSchema.config value = [] ∧ Config.reader value = .ok config ∧ config.check = [] := by
  unfold ofJson
  cases ConfigSchema.config value with
  | cons violation rest => simp
  | nil =>
      cases Config.reader value with
      | error fault => simp
      | ok made =>
          cases problems : made.check with
          | nil =>
              dsimp only
              rw [problems]
              constructor
              · rintro ⟨⟩
                exact ⟨rfl, rfl, problems⟩
              · rintro ⟨-, ⟨⟩, -⟩
                rfl
          | cons problem rest =>
              dsimp only
              rw [problems]
              constructor
              · rintro ⟨⟩
              · rintro ⟨-, ⟨⟩, checked⟩
                rw [problems] at checked
                cases checked

theorem parse_eq_ok {text : String} {config : Config} :
    parse text = .ok config ↔
      ∃ value, Json.parse? text = some value ∧ ofJson value = .ok config := by
  unfold parse
  cases Json.parse? text with
  | none => simp
  | some value => simp

/-- Whether a text is accepted as a configuration for which something holds. -/
def accepts (holds : Config → Bool) (chars : List Char) : Bool :=
  match Json.readValue (chars.length + 1) Json.depthLimit chars with
  | some (value, rest) =>
      (Json.skipSpace rest).isEmpty &&
        match ofJson value with
        | .ok config => holds config
        | .error _ => false
  | none => false

theorem exists_parse_of_accepts {holds : Config → Bool} {chars : List Char}
    (accepted : accepts holds chars = true) :
    ∃ config, parse (String.ofList chars) = .ok config ∧ holds config = true := by
  rw [accepts] at accepted
  rw [parse, Json.parse?, String.toList_ofList]
  cases read : Json.readValue (chars.length + 1) Json.depthLimit chars with
  | none => simp [read] at accepted
  | some found =>
      obtain ⟨value, rest⟩ := found
      simp only [read, Bool.and_eq_true] at accepted
      simp only [accepted.1, if_true]
      cases made : ofJson value with
      | error fault => simp [made] at accepted
      | ok config => exact ⟨config, rfl, by simpa [made] using accepted.2⟩

end Config

/-- Steps with a member of another kind, a flag that is not set and a visit to other pages. -/
def variedWorkflow : List Json :=
  [.obj [("type", .str "navigate"), ("url", .str "/"), ("timeout", .bool true)],
    .obj
      [("type", .str "click"), ("selector", .str "button"), ("optional", .bool false),
        ("waitAfter", .int 250)],
    .obj [("type", .str "scroll"), ("amount", .int (-300))],
    .obj
      [("type", .str "extract"), ("containerSelector", .str "li"),
        ("fields", .obj
          [("title", .obj
              [("selector", .str "a"), ("required", .bool true),
                ("followUp", .obj [("fields", .obj [("price", .obj [])])])])])]]

def variedConfig : Json :=
  .obj
    [("site", .obj
        [("name", .str "Venue"), ("source", .str "venue"),
          ("baseUrl", .str "https://venue.example")]),
      ("browser", .obj
        [("viewport", .obj [("width", .int 800), ("height", .int 600)]),
          ("timeout", .int 5000)]),
      ("validation", .obj [("minEventsExpected", .int 0)]),
      ("workflow", .arr variedWorkflow),
      ("mapping", .obj
        [("title", .str "title"),
          ("dateStart", .obj [("field", .str "date"), ("transform", .str "parse-date")]),
          ("venue", .obj [("name", .str "Venue"), ("lat", .int 51)])]),
      ("dateFormats", .obj [])]

theorem Config.exists_parse_variedConfig :
    ∃ config, Config.parse variedConfig.compact = .ok config := by
  have accepted : accepts (fun _ => true) variedConfig.compactChars = true := by decide +kernel
  obtain ⟨config, accepted, -⟩ := exists_parse_of_accepts accepted
  exact ⟨config, accepted⟩

/-! What a configuration without problems is sure of: its selectors can be read, its names of
formats and its time zone are known, and it extracts nothing before it has navigated. -/

def IsSelector (text : String) : Prop := (Css.Selector.parse? text).isSome

theorem exists_parse_of_isSelector {text : String} (readable : IsSelector text) :
    ∃ selector, Css.Selector.parse text = .ok selector := by
  obtain ⟨selector, parsed⟩ := Option.isSome_iff_exists.mp readable
  exact ⟨selector, by rw [Css.Selector.parse, parsed]⟩

/-- A rule that an extraction of these fields may read with: a field's, or one of a follow-up. -/
inductive FieldRules.Reads : FieldRules → FieldRule → Prop where
  | field {fields : FieldRules} {name : String} {rule : FieldRule}
      (member : (name, rule) ∈ fields) : Reads fields rule
  | followUp {fields : FieldRules} {name : String} {rule inner : FieldRule} {followUp : FollowUp}
      (member : (name, rule) ∈ fields) (declared : rule.followUp = some followUp)
      (reads : Reads followUp.fields inner) : Reads fields inner

/-- A rule that an extraction or the visits after it may read with. -/
def ExtractAction.Reads (action : ExtractAction) (rule : FieldRule) : Prop :=
  action.fields.Reads rule ∨
    ∃ followUp, action.followUp = some followUp ∧ FieldRules.Reads followUp.fields rule

def FieldRule.IsReadable (rule : FieldRule) : Prop :=
  ∀ selector, rule.selector = some selector → IsSelector selector

namespace Config

theorem isSelector_of_checkSelector {place : Location} {selector : String}
    (checked : checkSelector place selector = []) : IsSelector selector := by
  rw [checkSelector] at checked
  split at checked
  · assumption
  · cases checked

theorem isReadable_of_checkFieldSelector {place : Location} {rule : FieldRule}
    (checked : checkFieldSelector place rule = []) : rule.IsReadable := by
  intro selector declared
  rw [checkFieldSelector, declared] at checked
  exact isSelector_of_checkSelector checked

theorem isReadable_of_checkFollowUpFields {place : Location} {fields : FieldRules}
    (checked : checkFollowUpFields place fields = []) {rule : FieldRule}
    (reads : fields.Reads rule) : rule.IsReadable := by
  rw [checkFollowUpFields, List.flatMap_eq_nil_iff] at checked
  cases reads with
  | field member =>
      obtain ⟨selector, -⟩ := List.append_eq_nil_iff.mp (checked _ member)
      exact isReadable_of_checkFieldSelector selector
  | followUp member declared reads =>
      obtain ⟨-, nested⟩ := List.append_eq_nil_iff.mp (checked _ member)
      simp [declared] at nested

theorem isReadable_of_checkFields {place : Location} {fields : FieldRules}
    (checked : checkFields place fields = []) {rule : FieldRule} (reads : fields.Reads rule) :
    rule.IsReadable := by
  rw [checkFields, List.flatMap_eq_nil_iff] at checked
  cases reads with
  | field member =>
      obtain ⟨selector, -⟩ := List.append_eq_nil_iff.mp (checked _ member)
      exact isReadable_of_checkFieldSelector selector
  | followUp member declared reads =>
      obtain ⟨-, visits⟩ := List.append_eq_nil_iff.mp (checked _ member)
      simp only [declared] at visits
      exact isReadable_of_checkFollowUpFields visits reads

end Config

structure ExtractAction.IsReadable (action : ExtractAction) : Prop where
  container : IsSelector action.containerSelector
  fields : ∀ rule, action.Reads rule → rule.IsReadable
  groups : ∀ groups, action.dateGroups = some groups →
    IsSelector groups.headingSelector ∧ IsSelector groups.eventSelector

namespace Config

theorem isReadable_of_checkExtract {place : Location} {aliases : Dict String} {navigated : Bool}
    {action : ExtractAction} (checked : checkExtract place aliases navigated action = []) :
    navigated = true ∧ action.IsReadable := by
  simp only [checkExtract, List.append_eq_nil_iff] at checked
  obtain ⟨⟨⟨⟨reached, container⟩, fields⟩, followUp⟩, groups⟩ := checked
  refine ⟨?_, isSelector_of_checkSelector container, ?_, ?_⟩
  · cases navigated with
    | true => rfl
    | false => cases reached
  · rintro rule (reads | ⟨visited, declared, reads⟩)
    · exact isReadable_of_checkFields fields reads
    · simp only [declared, checkActionFollowUp, List.append_eq_nil_iff] at followUp
      exact isReadable_of_checkFollowUpFields followUp.2 reads
  · intro dated declared
    simp only [declared, checkDateGroups, List.append_eq_nil_iff] at groups
    exact ⟨isSelector_of_checkSelector groups.1.1, isSelector_of_checkSelector groups.1.2⟩

end Config

def Action.IsSound (navigated : Bool) : Action → Prop
  | .extract action => navigated = true ∧ action.IsReadable
  | _ => True

def Action.navigatedAfter (navigated : Bool) (action : Action) : Bool :=
  navigated || decide (action.kind = .navigate)

theorem Action.navigatedAfter_navigate (action : NavigateAction) (navigated : Bool) :
    (Action.navigate action).navigatedAfter navigated = true := by
  rw [navigatedAfter, kind, decide_eq_true rfl, Bool.or_true]

theorem Action.navigatedAfter_of_ne {action : Action} (other : action.kind ≠ .navigate)
    (navigated : Bool) : action.navigatedAfter navigated = navigated := by
  rw [navigatedAfter, decide_eq_false other, Bool.or_false]

def SoundFrom (navigated : Bool) : List Action → Prop
  | [] => True
  | action :: rest => action.IsSound navigated ∧ SoundFrom (action.navigatedAfter navigated) rest

namespace Config

theorem isSound_of_checkAction {place : Location} {aliases : Dict String} {navigated : Bool}
    {action : Action} (checked : checkAction place aliases navigated action = []) :
    action.IsSound navigated := by
  cases action with
  | extract action => exact isReadable_of_checkExtract checked
  | navigate action => trivial
  | wait action => trivial
  | click action => trivial
  | scroll action => trivial

theorem soundFrom_of_checkWorkflow {aliases : Dict String} {index : Nat} {navigated : Bool}
    {actions : List Action} (checked : checkWorkflow aliases index navigated actions = []) :
    SoundFrom navigated actions := by
  induction actions generalizing index navigated with
  | nil => trivial
  | cons action rest induction =>
      obtain ⟨first, others⟩ := List.append_eq_nil_iff.mp checked
      exact ⟨isSound_of_checkAction first, induction others⟩

theorem soundFrom_of_check {config : Config} (checked : config.check = []) :
    SoundFrom false config.workflow := by
  simp only [check, List.append_eq_nil_iff] at checked
  exact soundFrom_of_checkWorkflow checked.2

end Config

theorem SoundFrom.isReadable {navigated : Bool} {actions : List Action}
    (sound : SoundFrom navigated actions) :
    ∀ action ∈ extractions actions, action.IsReadable := by
  induction actions generalizing navigated with
  | nil =>
      intro action member
      cases member
  | cons first rest induction =>
      intro action member
      rw [extractions_cons] at member
      rcases List.mem_append.mp member with here | later
      · cases first with
        | extract found =>
            rw [List.mem_singleton.mp here]
            exact sound.1.2
        | navigate found => cases here
        | wait found => cases here
        | click found => cases here
        | scroll found => cases here
      · exact induction sound.2 action later

theorem Extractor.exists_extractPage {action : ExtractAction} (readable : action.IsReadable)
    (extractor : Extractor) (page : String) :
    ∃ found, extractor.extractPage action page = .ok found := by
  obtain ⟨container, parsed⟩ := exists_parse_of_isSelector readable.container
  have each : ∀ place, ∃ found, extractor.containerItems action place = .ok found := by
    intro place
    rw [containerItems]
    cases dated : action.dateGroups with
    | none => exact ⟨_, rfl⟩
    | some groups =>
        obtain ⟨heading, event⟩ := readable.groups groups dated
        obtain ⟨headingSelector, headingParsed⟩ := exists_parse_of_isSelector heading
        obtain ⟨eventSelector, eventParsed⟩ := exists_parse_of_isSelector event
        refine ⟨extractor.groupedEvents action.fields groups headingSelector eventSelector place,
          ?_⟩
        simp only [headingParsed, eventParsed]
        rfl
  obtain ⟨groups, passed⟩ :=
    Except.exists_mapM ((Html.Document.parse page).select container) each
  refine ⟨groups.flatten.map (addVisit action), ?_⟩
  rw [extractPage]
  exact Except.bind_eq_ok.mpr ⟨container, parsed, Except.bind_eq_ok.mpr ⟨groups, passed, rfl⟩⟩

namespace Engine

theorem exists_zoneOf {site : Site} (checked : Config.checkSite site = []) :
    ∃ zone, zoneOf site = .ok zone := by
  simp only [Config.checkSite, List.append_eq_nil_iff] at checked
  rw [zoneOf]
  cases named : site.timezone with
  | none => exact ⟨none, rfl⟩
  | some name =>
      have known := checked.2
      simp only [named] at known
      cases found : Zone.named? name with
      | none => simp [found] at known
      | some zone => exact ⟨some zone, by simp only [found]⟩

theorem exists_ofAliases {aliases : Dict String} (checked : Config.checkAliases aliases = []) :
    ∃ formats, FormatRegistry.ofAliases aliases = .ok formats := by
  refine FormatRegistry.knowsBuiltin_builtin.exists_addAliases aliases fun entry member => ?_
  have known := List.flatMap_eq_nil_iff.mp checked entry member
  by_contra unknown
  simp [unknown] at known

theorem exists_ofConfig {config : Config} (checked : config.check = []) :
    ∃ engine, ofConfig config = .ok engine := by
  simp only [Config.check, List.append_eq_nil_iff] at checked
  obtain ⟨⟨⟨site, -⟩, aliases⟩, -⟩ := checked
  obtain ⟨formats, known⟩ := exists_ofAliases aliases
  obtain ⟨zone, named⟩ := exists_zoneOf site
  exact ⟨_, by rw [ofConfig, known, named]; rfl⟩

end Engine

end GigListings
