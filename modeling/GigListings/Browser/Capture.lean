import GigListings.Browser.Session
import GigListings.Calendar.Instant
import GigListings.Config.Basic
import GigListings.Text.Basic

namespace GigListings

open Text

/-! What is kept of a page for looking into failures. Nothing that goes wrong here shows in the
run itself. -/

structure Capture where
  source : String
  folder : String
  screenshots : Bool
  html : Bool

namespace Capture

/-- A given folder wins over that of the site's options. -/
def ofOptions (source : String) (options : DebugOptions) (folder : Option String) : Capture where
  source
  folder := (folder <|> options.outputDir).getD "."
  screenshots := options.screenshots
  html := options.html

def isEnabled (capture : Capture) : Bool := capture.screenshots || capture.html

def isStemChar (c : Char) : Bool := isAsciiAlphanumeric c || c == '-'

/-- At most six runs of the letters, digits and dashes of a selector. -/
def selectorPart (selector : String) : String :=
  let runs := (splitOn (fun c => !isStemChar c) selector.toList).filter (· ≠ [])
  String.ofList (intercalate ['-'] (runs.take 6))

/-- The names of files without their extensions. -/
def stem (capture : Capture) (stage action : String) (selector : Option String) (moment : Instant) :
    String :=
  let selector := (selector.map selectorPart).filter (· ≠ "")
  "_".intercalate ([capture.source, stage, action] ++ selector.toList ++ [moment.milliStamp])

def write (capture : Capture) (name text : String) : Run (List String) := do
  let path := DiskPath.join capture.folder name
  return if ← Run.writeFile path text then [path] else []

def writeMarkup (capture : Capture) (page : Page) (stem : String) : Run (List String) := do
  match ← page.call .content with
  | .ok html => capture.write (stem ++ ".html") html
  | .error _ => return []

def writePicture (capture : Capture) (page : Page) (stem : String) : Run (List String) := do
  match ← page.call .screenshot with
  | .ok (some picture) => capture.write (stem ++ ".png") picture
  | .ok none => return []
  | .error _ => return []

/-- Captures what the options ask for; gives the files that were written. -/
def take (capture : Capture) (page : Page) (stage action : String) (selector : Option String) :
    Run (List String) := do
  if !capture.isEnabled then return []
  if !(← Run.makeFolders capture.folder) then return []
  let stem := capture.stem stage action selector (← Run.now)
  let markup ← if capture.html then capture.writeMarkup page stem else pure []
  let picture ← if capture.screenshots then capture.writePicture page stem else pure []
  return markup ++ picture

end Capture

end GigListings
