import GigListings.Storage.Disk

namespace GigListings

/-! What commands do: they print lines and change files. -/

structure Console where
  lines : List String
  disk : Disk

inductive CommandFault where
  | settings
  | logging
  | unreadableFolder (path : String)
  | unreadable (path : String)
  | unwritable (path : String)
  | alreadyThere (path : String)
  | disk (fault : Disk.Fault)
  | failedJobs (count : Nat)
deriving DecidableEq

def CommandFault.message : CommandFault → String
  | settings => "Failed to load engine settings"
  | logging => "Failed to initialise logging"
  | unreadableFolder path => "Failed to read config directory " ++ path
  | unreadable path => "Failed to read " ++ path
  | unwritable path => "Failed to write " ++ path
  | alreadyThere path => path ++ " already exists"
  | disk fault => fault.message
  | failedJobs count => toString count ++ " scrape job(s) failed"

abbrev Shell := ExceptT CommandFault (StateM Console)

namespace Shell

def print (line : String) : Shell Unit :=
  modify fun console => { console with lines := console.lines ++ [line] }

def printAll (lines : List String) : Shell Unit :=
  modify fun console => { console with lines := console.lines ++ lines }

def disk : Shell Disk := return (← get).disk

def orFail (fault : Disk.Fault → CommandFault) : Except Disk.Fault α → Shell α
  | .ok value => pure value
  | .error found => throw (fault found)

def setDisk (disk : Disk) : Shell Unit := modify fun console => { console with disk }

def write (path text : String) (fault : Disk.Fault → CommandFault) : Shell Unit := do
  setDisk (← orFail fault ((← disk).write path text))

end Shell

end GigListings
