import GigListings.Calendar.Instant
import GigListings.Gig.Basic
import GigListings.Storage.Disk

namespace GigListings.GigFile

/-! Files with the gigs of a run. -/

/-- A file is named for the source of its gigs and the second at which it was written. -/
def path (source folder : String) (moment : Instant) : String :=
  DiskPath.join folder (source ++ "_" ++ moment.secondStamp ++ ".json")

def text (gigs : List Gig) : String := (Json.arr (gigs.map Gig.toJson)).pretty

/-- Writes gigs into a folder, which is made if it is not there; gives the path of the file. -/
def save (gigs : List Gig) (source folder : String) (moment : Instant) (disk : Disk) :
    Except Disk.Fault (String × Disk) := do
  let disk ← disk.makeFolders folder
  let path := path source folder moment
  return (path, ← disk.write path (text gigs))

end GigListings.GigFile
