import GigListings.Sorting
import GigListings.Storage.Path

namespace GigListings

/-! Files and folders. -/

/-- What is known to be there. The folders above the working folder are there, and the root. -/
structure Disk where
  folders : List DiskPath
  files : List (DiskPath × String)

namespace Disk

def empty : Disk := ⟨[], []⟩

instance : Inhabited Disk := ⟨empty⟩

def file? (disk : Disk) (path : DiskPath) : Option String := disk.files.lookup path

def isFolder (disk : Disk) (path : DiskPath) : Bool :=
  path.isUpward || path = DiskPath.root || disk.folders.contains path

def putFile (path : DiskPath) (text : String) :
    List (DiskPath × String) → List (DiskPath × String)
  | [] => [(path, text)]
  | (other, found) :: rest =>
      if other = path then (path, text) :: rest else (other, found) :: putFile path text rest

inductive Fault where
  | notFound
  | notAFolder
  | isAFolder
  | alreadyThere
  | nameTooLong
deriving DecidableEq

def Fault.message : Fault → String
  | notFound => "No such file or directory (os error 2)"
  | notAFolder => "Not a directory (os error 20)"
  | isAFolder => "Is a directory (os error 21)"
  | alreadyThere => "File exists (os error 17)"
  | nameTooLong => "File name too long (os error 36)"

/-- Follows names. All but the last one have to be those of folders that are there. -/
def follow (disk : Disk) (path : DiskPath) : List String → Except Fault DiskPath
  | [] => .ok path
  | name :: rest =>
      if disk.isFolder path then
        if DiskPath.isName name then disk.follow (path.step name) rest else .error .nameTooLong
      else if (disk.file? path).isSome then .error .notAFolder
      else .error .notFound

/-- Where a path leads. The empty text is no path. -/
def locate (disk : Disk) (path : String) : Except Fault DiskPath :=
  if path = "" then .error .notFound
  else
    let (start, names) := DiskPath.start path
    disk.follow start names

def exists? (disk : Disk) (path : String) : Bool :=
  match disk.locate path with
  | .ok path => disk.isFolder path || (disk.file? path).isSome
  | .error _ => false

def read (disk : Disk) (path : String) : Except Fault String := do
  let path ← disk.locate path
  match disk.file? path with
  | some text => return text
  | none => throw (if disk.isFolder path then .isAFolder else .notFound)

def write (disk : Disk) (path text : String) : Except Fault Disk := do
  let path ← disk.locate path
  if disk.isFolder path then throw .isAFolder
  else return { disk with files := putFile path text disk.files }

def makeFoldersFrom (disk : Disk) (path : DiskPath) : List String → Except Fault Disk
  | [] => .ok disk
  | name :: rest =>
      let path := path.step name
      if !DiskPath.isName name then .error .nameTooLong
      else if (disk.file? path).isSome then
        .error (if rest.isEmpty then .alreadyThere else .notAFolder)
      else if disk.isFolder path then disk.makeFoldersFrom path rest
      else { disk with folders := path :: disk.folders }.makeFoldersFrom path rest

def makeFolders (disk : Disk) (path : String) : Except Fault Disk :=
  let (start, names) := DiskPath.start path
  disk.makeFoldersFrom start names

def names (disk : Disk) (path : String) : Except Fault (List String) := do
  let path ← disk.locate path
  if disk.isFolder path then
    let inside := (disk.folders ++ disk.files.map Prod.fst).filterMap fun other =>
      if !other.isEmpty && other.dropLast = path then other.getLast? else none
    return sortBy (fun a b => a ≤ b) inside
  else throw (if (disk.file? path).isSome then .notAFolder else .notFound)

end Disk

end GigListings
