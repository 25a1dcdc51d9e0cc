import GigListings.Environment
import GigListings.Toml.Parser

namespace GigListings

/-! Where configurations, results and captured pages are kept, and how to reach a browser. -/

structure Settings where
  configFolder : String
  outputFolder : String
  /-- Where to capture pages, whatever a configuration says. -/
  captureFolder : Option String
  webDriver : String
  logFolder : String
deriving DecidableEq

instance : Inhabited Settings := ⟨⟨"configs", "output", none, "http://localhost:4444", "logs"⟩⟩

inductive SettingsFault where
  | unreadable (fault : Disk.Fault)
  | malformed
  | notText (name : String)
deriving DecidableEq

namespace Settings

def fileName : String := "gig_scraper.toml"

end Settings

def SettingsFault.message : SettingsFault → String
  | unreadable fault =>
      "Configuration error: Failed to read settings file '" ++ Settings.fileName ++ "': " ++
        fault.message
  | malformed => "TOML deserialization failed: malformed text"
  | notText name => "TOML deserialization failed: " ++ name ++ " is not a text"

namespace Settings

def text? (entries : Toml.Entries) (name : String) : Except SettingsFault (Option String) :=
  match entries.lookup name with
  | none => .ok none
  | some (.value (.text text)) => .ok (some text)
  | some _ => .error (.notText name)

def ofEntries (entries : Toml.Entries) : Except SettingsFault Settings := do
  let absent : Settings := default
  return {
    configFolder := (← text? entries "config_dir").getD absent.configFolder
    outputFolder := (← text? entries "output_dir").getD absent.outputFolder
    captureFolder := ← text? entries "debug_dir"
    webDriver := (← text? entries "webdriver_url").getD absent.webDriver
    logFolder := (← text? entries "log_dir").getD absent.logFolder }

def ofFile (disk : Disk) : Except SettingsFault Settings :=
  if disk.exists? fileName then
    match disk.read fileName with
    | .error fault => .error (.unreadable fault)
    | .ok text =>
        match Toml.parse? text with
        | some entries => ofEntries entries
        | none => .error .malformed
  else .ok default

def variableNames : List String :=
  ["GIG_SCRAPER_CONFIG_DIR", "GIG_SCRAPER_OUTPUT_DIR", "GIG_SCRAPER_DEBUG_DIR",
    "GIG_SCRAPER_WEBDRIVER_URL", "GIG_SCRAPER_LOG_DIR"]

/-- Variables win over what the file says. -/
def override (settings : Settings) (environment : Environment) : Settings where
  configFolder := (environment.get? "GIG_SCRAPER_CONFIG_DIR").getD settings.configFolder
  outputFolder := (environment.get? "GIG_SCRAPER_OUTPUT_DIR").getD settings.outputFolder
  captureFolder := (environment.get? "GIG_SCRAPER_DEBUG_DIR").or settings.captureFolder
  webDriver := (environment.get? "GIG_SCRAPER_WEBDRIVER_URL").getD settings.webDriver
  logFolder := (environment.get? "GIG_SCRAPER_LOG_DIR").getD settings.logFolder

def load (disk : Disk) (environment : Environment) : Except SettingsFault Settings :=
  (ofFile disk).map fun settings => settings.override (environment.withFile disk)

end Settings

end GigListings
