import GigListings.Command.Shell
import GigListings.Config.File
import GigListings.Config.Scaffold
import GigListings.Json.Printer

namespace GigListings.ConfigFiles

/-! Commands on configurations in files. Each tells whether all is well. -/

def fixedExtension : String := "fixed.json"

/-- Fixed configurations are not listed. -/
def isListed (name : String) : Bool :=
  (DiskPath.splitExtension name).2 == some "json" &&
    !(("." ++ fixedExtension).toList.isSuffixOf name.toList)

def countText : Option UInt64 → String
  | some count => toString count.toNat
  | none => "-"

def details (path : String) (config : Config) : List String :=
  ["      file: " ++ path,
    "      workflow: " ++ " -> ".intercalate (config.workflow.map fun action => action.kind.name),
    "      timezone: " ++ config.site.timezone.getD "(UTC)",
    "      expected events: " ++ countText config.validation.minEventsExpected ++ " - " ++
      countText config.validation.maxEventsExpected,
    "      required: " ++ ", ".intercalate config.validation.required]

def listing (disk : Disk) (detailed : Bool) (path : String) : List String :=
  match Config.load disk path with
  | .ok config =>
      ("   " ++ config.site.name ++ " (" ++ config.site.source ++ ") - " ++ config.site.baseUrl) ::
        if detailed then details path config else []
  | .error fault => ["   ⚠️  " ++ path ++ ": " ++ fault.message]

def list (folder : String) (detailed : Bool) : Shell Bool := do
  let disk ← Shell.disk
  let names ← Shell.orFail (fun _ => .unreadableFolder folder) (disk.names folder)
  let paths := (names.filter isListed).map (DiskPath.join folder)
  if paths.isEmpty then Shell.print ("No configs found in " ++ folder)
  else
    Shell.print ("📋 " ++ toString paths.length ++ " config(s) in " ++ folder ++ ":")
    Shell.printAll (paths.flatMap (listing disk detailed))
  return true

def printProblems (fault : ConfigFault) : Shell Unit :=
  Shell.printAll (fault.messages.map fun problem => "   - " ++ problem)

/-- Writes the configuration with the blocks that it lacks beside its file. -/
def fix (file : String) (value : Json) : Shell Bool := do
  let fixed := Scaffold.complete value
  let added := Scaffold.added value
  let path := DiskPath.withExtension file fixedExtension
  Shell.write path fixed.pretty fun _ => .unwritable path
  Shell.print ("🔧 Wrote " ++ path ++ " (added: " ++
    (if added.isEmpty then "nothing" else ", ".intercalate added) ++ ")")
  match Config.parse fixed.compact with
  | .ok _ =>
      Shell.print "✅ Fixed config is valid"
      return true
  | .error fault =>
      Shell.print "❌ Fixed config is still invalid:"
      printProblems fault
      return false

/-- With `mends`, a fixed configuration that is valid will do as well. -/
def validate (file : String) (mends : Bool) : Shell Bool := do
  let text ← Shell.orFail (fun _ => .unreadable file) ((← Shell.disk).read file)
  match Config.parse text with
  | .ok config =>
      Shell.print ("✅ " ++ file ++ " is valid (" ++ config.site.source ++ ")")
      return true
  | .error fault =>
      Shell.print ("❌ " ++ file ++ " is invalid:")
      printProblems fault
      if !mends then return false
      match Json.parse? text with
      | some value => fix file value
      | none =>
          Shell.print "   Cannot fix a file that is not valid JSON"
          return false

/-- Writes a configuration to start from. It is named for its source. -/
def create (folder name baseUrl : String) (source : Option String) : Shell Bool := do
  let stem := source.getD (String.ofList (Text.slug name.toList))
  let path := DiskPath.join folder (stem ++ ".json")
  if (← Shell.disk).exists? path then throw (.alreadyThere path)
  Shell.setDisk (← Shell.orFail .disk ((← Shell.disk).makeFolders folder))
  Shell.write path (Scaffold.template name baseUrl source).pretty .disk
  Shell.print ("✨ Created " ++ path)
  Shell.print
    ("   Replace the placeholder selectors, then run `gig_scraper config validate " ++ path ++ "`")
  return true

end GigListings.ConfigFiles
