import GigListings.Config.Check
import GigListings.Config.Reader
import GigListings.Config.Schema
import GigListings.Json.Parser
import GigListings.Storage.Disk

namespace GigListings.Config

/-! Reading configurations. -/

def ofJson (value : Json) : Except ConfigFault Config :=
  match ConfigSchema.config value with
  | [] =>
      match Config.reader value with
      | .error fault => .error (.unreadable fault)
      | .ok config =>
          match config.check with
          | [] => .ok config
          | problems => .error (.problems problems)
  | violations => .error (.shape violations)

def parse (text : String) : Except ConfigFault Config :=
  match Json.parse? text with
  | none => .error .notJson
  | some value => ofJson value

end GigListings.Config

namespace GigListings

/-! Configurations in files. -/

inductive LoadFault where
  | unreadable (path : String) (fault : Disk.Fault)
  | invalid (fault : ConfigFault)

def ConfigFault.message (fault : ConfigFault) : String :=
  let messages := fault.messages
  "Configuration is invalid (" ++ toString messages.length ++ " problem(s)): " ++
    "; ".intercalate messages

def LoadFault.message : LoadFault → String
  | unreadable path fault =>
      "Configuration error: Failed to read config file '" ++ path ++ "': " ++ fault.message
  | invalid fault => fault.message

def Config.load (disk : Disk) (path : String) : Except LoadFault Config :=
  match disk.read path with
  | .error fault => .error (.unreadable path fault)
  | .ok text => (Config.parse text).mapError LoadFault.invalid

end GigListings
