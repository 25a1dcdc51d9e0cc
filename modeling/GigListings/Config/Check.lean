import GigListings.Calendar.Zone
import GigListings.Config.Basic
import GigListings.Config.Problem
import GigListings.Css.Parser
import GigListings.Link.Url

namespace GigListings

/-! Checks of a configuration as a whole. -/

namespace Config

def checkSelector (place : Location) (selector : String) : List Problem :=
  if (Css.Selector.parse? selector).isSome then [] else [.selector place selector]

def checkFieldSelector (place : Location) (field : FieldRule) : List Problem :=
  match field.selector with
  | some selector => checkSelector (place ++ ["selector"]) selector
  | none => []

/-- Fields of a follow-up have no follow-ups of their own. -/
def checkFollowUpFields (place : Location) (fields : FieldRules) : List Problem :=
  fields.flatMap fun (name, field) =>
    checkFieldSelector (place ++ [name]) field ++
      if field.followUp.isSome then [.nestedFollowUp (place ++ [name, "followUp"])] else []

def checkFields (place : Location) (fields : FieldRules) : List Problem :=
  fields.flatMap fun (name, field) =>
    checkFieldSelector (place ++ [name]) field ++
      match field.followUp with
      | some followUp =>
          checkFollowUpFields (place ++ [name, "followUp", "fields"]) followUp.fields
      | none => []

def checkDateFormat (place : Location) (aliases : Dict String) (format : Option String) :
    List Problem :=
  match format with
  | some name =>
      if DateFormat.builtinNames.contains name || aliases.contains name then []
      else [.dateFormat place name]
  | none => []

def checkActionFollowUp (place : Location) (followUp : FollowUp) : List Problem :=
  (if followUp.urlField.isNone then [.missingUrlField (place ++ ["urlField"])] else []) ++
    checkFollowUpFields (place ++ ["fields"]) followUp.fields

def checkDateGroups (place : Location) (aliases : Dict String) (groups : DateGroups) :
    List Problem :=
  checkSelector (place ++ ["headingSelector"]) groups.headingSelector ++
    checkSelector (place ++ ["eventSelector"]) groups.eventSelector ++
    checkDateFormat (place ++ ["format"]) aliases groups.format

def checkExtract (place : Location) (aliases : Dict String) (navigated : Bool)
    (action : ExtractAction) : List Problem :=
  (if navigated then [] else [.notNavigated place]) ++
    checkSelector (place ++ ["containerSelector"]) action.containerSelector ++
    checkFields (place ++ ["fields"]) action.fields ++
    (match action.followUp with
      | some followUp => checkActionFollowUp (place ++ ["followUp"]) followUp
      | none => []) ++
    match action.dateGroups with
    | some groups => checkDateGroups (place ++ ["dateGroups"]) aliases groups
    | none => []

def checkWait (place : Location) (action : WaitAction) : List Problem :=
  match action.selector with
  | some selector => checkSelector (place ++ ["selector"]) selector
  | none =>
      if action.condition = .networkIdle then []
      else [.missingSelector (place ++ ["selector"]) action.condition]

def checkAction (place : Location) (aliases : Dict String) (navigated : Bool) :
    Action → List Problem
  | .navigate _ => []
  | .wait action => checkWait place action
  | .click action => checkSelector (place ++ ["selector"]) action.selector
  | .scroll _ => []
  | .extract action => checkExtract place aliases navigated action

/-- Checks the actions from an index on; pages are extracted only after one has been opened. -/
def checkWorkflow (aliases : Dict String) (index : Nat) (navigated : Bool) :
    List Action → List Problem
  | [] => []
  | action :: rest =>
      checkAction ["workflow", toString index] aliases navigated action ++
        checkWorkflow aliases (index + 1) (navigated || action.kind = .navigate) rest

def checkSite (site : Site) : List Problem :=
  (match Link.Url.parse site.baseUrl.toList with
    | .error fault => [.baseUrl fault]
    | .ok _ => []) ++
    match site.timezone with
    | some name => if (Zone.named? name).isSome then [] else [.timezone name]
    | none => []

def checkBounds (rules : ValidationRules) : List Problem :=
  match rules.minEventsExpected, rules.maxEventsExpected with
  | some least, some most => if most < least then [.eventBounds least most] else []
  | _, _ => []

def checkAliases (aliases : Dict String) : List Problem :=
  aliases.flatMap fun (name, target) =>
    if DateFormat.builtinNames.contains target then [] else [.formatTarget name target]

/-- Everything that is wrong with a configuration beyond its shape. -/
def check (config : Config) : List Problem :=
  checkSite config.site ++ checkBounds config.validation ++ checkAliases config.dateFormats ++
    checkWorkflow config.dateFormats 0 false config.workflow

end Config

end GigListings
