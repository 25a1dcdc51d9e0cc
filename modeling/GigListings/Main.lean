import GigListings.Command.Outcome
import Std.Time.DateTime.Timestamp

namespace GigListings.Program

/-! The program. It learns from standard input which files there are below the working folder: one
path on a line. -/

partial def readPaths (input : IO.FS.Stream) : IO (List String) := do
  let line ← input.getLine
  if line.isEmpty then return []
  let path := line.trimAscii.copy
  let rest ← readPaths input
  return if path.isEmpty then rest else path :: rest

def addFile (disk : Disk) (path text : String) : Disk :=
  let folder := DiskPath.text (path.splitOn "/").dropLast
  match (disk.makeFolders folder).bind fun disk => disk.write path text with
  | .ok disk => disk
  | .error _ => disk

/-- Files that cannot be read as texts are left out. -/
def readDisk (paths : List String) : IO Disk :=
  paths.foldlM (fun disk (path : String) => do
    try return addFile disk path (← IO.FS.readFile path)
    catch _ => return disk) Disk.empty

def readEnvironment : IO Environment :=
  Settings.variableNames.foldlM (fun environment name => do
    match ← IO.getEnv name with
    | some value => return environment.add name value
    | none => return environment) []

/-- Makes the folders and writes the files in which two states of a disk differ. -/
def writeChanges (before after : Disk) : IO Unit := do
  for folder in after.folders do
    if !before.isFolder folder then IO.FS.createDirAll (DiskPath.text folder)
  for (path, text) in after.files do
    if before.file? path != some text then IO.FS.writeFile (DiskPath.text path) text

end GigListings.Program

open GigListings GigListings.Program

def main (words : List String) : IO UInt32 := do
  let disk ← readDisk (← readPaths (← IO.getStdin))
  let start ← Std.Time.Timestamp.now
  let outcome := Outcome.ofWords words (← readEnvironment)
    (.steady start.toMillisecondsSinceUnixEpoch.val) disk
  writeChanges disk outcome.disk
  for line in outcome.lines do
    IO.println line
  for complaint in outcome.complaint do
    IO.eprintln complaint
  return outcome.code.toUInt32
