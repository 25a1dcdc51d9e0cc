import GigListings.Text.Ranges

namespace GigListings

/-! Paths to files and folders, seen from a working folder. -/

/-- The names that lead to a file or folder. From the working folder they lead up by `..` and down
by other names; from the root of all folders they begin with `/`. -/
abbrev DiskPath := List String

namespace DiskPath

def root : DiskPath := ["/"]

def isUpward (path : DiskPath) : Bool := path.all (· == "..")

/-- Where the name of a folder above leads. -/
def parent (path : DiskPath) : DiskPath :=
  if path.isUpward then path ++ [".."] else if path = root then root else path.dropLast

def step (path : DiskPath) (name : String) : DiskPath :=
  if name = "" ∨ name = "." then path else if name = ".." then path.parent else path ++ [name]

def start (text : String) : DiskPath × List String :=
  match text.toList with
  | '/' :: rest => (root, (Text.splitOn (· == '/') rest).map String.ofList)
  | chars => ([], (Text.splitOn (· == '/') chars).map String.ofList)

def join (folder name : String) : String :=
  if name.toList.head? = some '/' ∨ folder = "" then name
  else if folder.toList.getLast? = some '/' then folder ++ name
  else folder ++ "/" ++ name

/-- Names have at most 255 bytes and no null character. -/
def isName (name : String) : Bool := name.utf8ByteSize ≤ 255 && !name.toList.contains '\x00'

def text (path : DiskPath) : String := "/".intercalate path

/-- A file's name up to its last point, and what follows the point, if it has an extension. A
point that begins a name begins no extension. -/
def splitExtension (name : String) : String × Option String :=
  let reversed := name.toList.reverse
  let extension := reversed.takeWhile (· != '.')
  match reversed.drop extension.length with
  | [] => (name, none)
  | [_] => (name, none)
  | _ :: stem => (String.ofList stem.reverse, some (String.ofList extension.reverse))

def withExtension (path extension : String) : String :=
  let name := (path.toList.reverse.takeWhile (· != '/')).reverse
  let folder := path.toList.take (path.toList.length - name.length)
  String.ofList folder ++ (splitExtension (String.ofList name)).1 ++ "." ++ extension

end DiskPath

end GigListings
