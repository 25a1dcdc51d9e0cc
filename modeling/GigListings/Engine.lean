import GigListings.Config.File
import GigListings.Gig.Batch
import GigListings.Gig.Normalizer
import GigListings.Workflow.Run

namespace GigListings

/-! One scrape of one site: the workflow, its gigs, and whether they satisfy the site's rules. -/

inductive EngineFault where
  | formats (fault : AliasFault)
  | timezone (name : String)
deriving DecidableEq

def EngineFault.reason : EngineFault → String
  | formats fault => fault.message
  | timezone name => "Unknown timezone '" ++ name ++ "': '" ++ name ++ "' is not a valid timezone"

def EngineFault.message (fault : EngineFault) : String := "Configuration error: " ++ fault.reason

structure Engine where
  config : Config
  transforms : TransformRegistry
  formats : FormatRegistry
  zone : Option Zone
  /-- What counts as today; otherwise it is the date in the site's zone. -/
  today : Option Date
  /-- Where to capture pages, whatever the configuration says. -/
  captureFolder : Option String

inductive ScrapeFault where
  | noPage (fault : PageFault)
  | action (fault : ActionFault)
  | batch (fault : BatchFault)
deriving DecidableEq

def ScrapeFault.message : ScrapeFault → String
  | noPage fault => fault.message
  | action fault => fault.message
  | batch fault => fault.message

namespace Engine

def zoneOf (site : Site) : Except EngineFault (Option Zone) :=
  match site.timezone with
  | none => .ok none
  | some name =>
      match Zone.named? name with
      | some zone => .ok (some zone)
      | none => .error (.timezone name)

def ofConfig (config : Config) : Except EngineFault Engine := do
  let formats ← (FormatRegistry.ofAliases config.dateFormats).mapError EngineFault.formats
  let zone ← zoneOf config.site
  return { config, transforms := .builtin, formats, zone, today := none, captureFolder := none }

def dates (engine : Engine) (now : Instant) : DateContext where
  today := engine.today.getD <|
    match engine.zone with
    | some zone => (zone.wallClock now).date
    | none => now.utc.date
  zone := engine.zone

def executor (engine : Engine) (dates : DateContext) : Executor where
  config := engine.config
  transforms := engine.transforms
  formats := engine.formats
  dates
  capture := .ofOptions engine.config.site.source engine.config.debug engine.captureFolder

def settle (engine : Engine) (dates : DateContext) (now : Instant) (items : List Item) :
    Except BatchFault (List Gig) :=
  let gigs := Normalizer.gigs ⟨engine.config, engine.transforms, engine.formats, dates, now⟩ items
  (engine.config.validation.check gigs).map fun _ => gigs

/-- Scrapes a site on a page of its own, which is closed whatever happens. -/
def run (engine : Engine) : Run (Except ScrapeFault (List Gig)) := do
  let dates := engine.dates (← Run.now)
  match ← Page.openNext engine.config.browser with
  | .error fault => return .error (.noPage fault)
  | .ok page =>
      let outcome ← (engine.executor dates).run page
      discard (page.call .close)
      match outcome with
      | .error fault => return .error (.action fault)
      | .ok progress =>
          return (engine.settle dates (← Run.now) progress.items).mapError ScrapeFault.batch

end Engine

end GigListings
