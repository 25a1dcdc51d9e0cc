import GigListings.Command.ConfigFiles
import GigListings.Command.Scrape

namespace GigListings

/-! What comes of a command line. -/

structure Outcome where
  code : UInt8
  /-- The lines on standard output. -/
  lines : List String
  /-- What is said on standard error, if anything. -/
  complaint : Option String
  disk : Disk

namespace Command

def helpLines : List String :=
  ["Configuration-driven scraper for live-music venue listings",
    "",
    "Usage:",
    "  gig_scraper config list [--dir <DIR>] [--detailed]",
    "  gig_scraper config validate <FILE> [--fix]",
    "  gig_scraper config create <SITE_NAME> <BASE_URL> [--source <SOURCE>]",
    "  gig_scraper scrape <CONFIGS>... [--webdriver <URL> | --static | --fixtures <DIR>]" ++
      " [--output <DIR>]",
    "  gig_scraper --help | --version"]

def carryOut (settings : Settings) (clock : Clock) : Command → Shell Bool
  | help => do
      Shell.printAll helpLines
      return true
  | version => do
      Shell.print "gig_scraper 0.1.0"
      return true
  | list folder detailed => ConfigFiles.list (folder.getD settings.configFolder) detailed
  | validate file fix => ConfigFiles.validate file fix
  | create name baseUrl source => ConfigFiles.create settings.configFolder name baseUrl source
  | scrape files pages output => do
      let plan : ScrapePlan :=
        ⟨clock, pages, settings.webDriver, output.getD settings.outputFolder,
          settings.captureFolder⟩
      match ← plan.scrapeAll files with
      | 0 => return true
      | count => throw (.failedJobs count)

end Command

namespace Outcome

def complaining (fault : CommandFault) (console : Console) : Outcome :=
  ⟨1, console.lines, some ("Error: " ++ fault.message), console.disk⟩

def ofShell (command : Shell Bool) (disk : Disk) : Outcome :=
  match command ⟨[], disk⟩ with
  | (.ok well, console) => ⟨if well then 0 else 1, console.lines, none, console.disk⟩
  | (.error fault, console) => complaining fault console

/-- Misused commands do nothing. -/
def misused (disk : Disk) : Outcome := ⟨2, [], none, disk⟩

/-- Settings and the folder of logs come before the command line. -/
def ofWords (words : List String) (environment : Environment) (clock : Clock) (disk : Disk) :
    Outcome :=
  match Settings.load disk environment with
  | .error _ => complaining .settings ⟨[], disk⟩
  | .ok settings =>
      match disk.makeFolders settings.logFolder with
      | .error _ => complaining .logging ⟨[], disk⟩
      | .ok disk =>
          match Command.ofWords? words with
          | some command => ofShell (command.carryOut settings clock) disk
          | none => misused disk

end Outcome

end GigListings
