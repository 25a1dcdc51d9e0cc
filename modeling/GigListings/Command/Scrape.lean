import GigListings.Browser.SavedPages
import GigListings.Command.Basic
import GigListings.Command.Shell
import GigListings.Config.File
import GigListings.Engine
import GigListings.Settings
import GigListings.Storage.GigFile

namespace GigListings

/-! Scraping sites, one after another. What goes wrong with one site does not touch the others. -/

structure ScrapePlan where
  clock : Clock
  pages : PageSupply
  webDriver : String
  outputFolder : String
  captureFolder : Option String

inductive SiteFault where
  | config (path : String) (fault : LoadFault)
  | engine (path : String) (fault : EngineFault)
  | disk (fault : Disk.Fault)
  | scrape (fault : ScrapeFault)

def SiteFault.message : SiteFault → String
  | config path fault => "Failed to load " ++ path ++ ": " ++ fault.message
  | engine path fault => "Failed to load " ++ path ++ ": " ++ fault.message
  | disk fault => "I/O error: " ++ fault.message
  | scrape fault => fault.message

namespace Browser

def unconnected (address : String) : Browser where
  answer _ _ _ := .error (.reported ("Failed to connect to WebDriver at " ++ address))

/-- Pages without a network to load documents from. -/
def offline : Browser where
  answer history _ call :=
    match call with
    | .openPage _ _ => .ok ()
    | .onPage _ (.goto url _) => .error (.reported ("No connection to load " ++ url))
    | .onPage page call => (Fixtures.mk []).pageAnswer history page call

end Browser

namespace ScrapePlan

def browser (plan : ScrapePlan) (disk : Disk) : Except Disk.Fault Browser :=
  match plan.pages with
  | .folder path => (Fixtures.ofFolder disk path).map Fixtures.browser
  | .web => .ok .offline
  | .webDriver address => .ok (.unconnected (address.getD plan.webDriver))

def engine (plan : ScrapePlan) (disk : Disk) (path : String) : Except SiteFault Engine := do
  let config ← (Config.load disk path).mapError (SiteFault.config path)
  let engine ← (Engine.ofConfig config).mapError (SiteFault.engine path)
  return { engine with captureFolder := plan.captureFolder }

def save (plan : ScrapePlan) (source : String) (gigs : List Gig) :
    Run (Except SiteFault String) := do
  match GigFile.save gigs source plan.outputFolder (← Run.now) (← get).disk with
  | .error fault => return .error (.disk fault)
  | .ok (path, disk) =>
      modify fun session => { session with disk }
      return .ok path

def run (plan : ScrapePlan) (engine : Engine) : Run (List String × Except SiteFault String) := do
  let name := engine.config.site.name
  let started := "🚀 Scraping " ++ name
  match ← engine.run with
  | .error fault => return ([started], .error (.scrape fault))
  | .ok gigs =>
      let counted := "✅ " ++ name ++ ": " ++ toString gigs.length ++ " gig(s)"
      return ([started, counted], ← plan.save engine.config.site.source gigs)

def scrape (plan : ScrapePlan) (path : String) (disk : Disk) :
    List String × Except SiteFault String × Disk :=
  let prepared : Except SiteFault (Engine × Browser) := do
    let engine ← plan.engine disk path
    return (engine, ← (plan.browser disk).mapError SiteFault.disk)
  match prepared with
  | .error fault => ([], .error fault, disk)
  | .ok (engine, browser) =>
      let ((lines, result), session) := plan.run engine ⟨browser, plan.clock⟩ (Session.start disk)
      (lines, result, session.disk)

def lastLine (path : String) : Except SiteFault String → String
  | .ok file => "💾 " ++ path ++ " -> " ++ file
  | .error fault => "❌ " ++ path ++ ": " ++ fault.message

def scrapeAll (plan : ScrapePlan) : List String → Shell Nat
  | [] => return 0
  | path :: rest => do
      let (lines, result, disk) := plan.scrape path (← Shell.disk)
      Shell.setDisk disk
      Shell.printAll (lines ++ [lastLine path result])
      let failed ← plan.scrapeAll rest
      return if result.isOk then failed else failed + 1

end ScrapePlan

end GigListings
