import GigListings.Browser.Basic
import GigListings.Calendar.Instant
import GigListings.Storage.Disk

namespace GigListings

/-! Runs: steps that call a browser, sleep and write files. Times are in microseconds. -/

structure Clock where
  /-- The start of the run, in milliseconds from the start of 1970. -/
  start : Int
  callTime : History → (time : Nat) → Call → Nat
  sleepTime : History → (time asked : Nat) → Nat
  /-- No sleep is cut short. -/
  asked_le_sleepTime : ∀ history time asked, asked ≤ sleepTime history time asked

/-- Calls take no time, and sleeps last whole milliseconds. -/
def Clock.steady (start : Int) : Clock where
  start
  callTime _ _ _ := 0
  sleepTime _ _ asked := (asked + 999) / 1000 * 1000
  asked_le_sleepTime _ _ asked := by omega

structure World where
  browser : Browser
  clock : Clock

structure Session where
  time : Nat
  history : History
  /-- How many pages the run has opened or tried to open. -/
  opened : Nat
  disk : Disk

def Session.start (disk : Disk) : Session := ⟨0, [], 0, disk⟩

abbrev Run := ReaderT World (StateM Session)

namespace Run

def now : Run Instant := fun world session =>
  (Instant.ofMillis (world.clock.start + session.time / 1000), session)

def time : Run Nat := return (← get).time

def sleep (micros : Nat) : Run Unit := fun world session =>
  ((), { session with
    time := session.time + world.clock.sleepTime session.history session.time micros })

def sleepMillis (millis : Nat) : Run Unit := sleep (1000 * millis)

def call (call : Call) : Run (Except PageFault call.Answer) := fun world session =>
  let answer := world.browser.answer session.history session.time call
  (answer, { session with
    time := session.time + world.clock.callTime session.history session.time call
    history := ⟨session.time, call, answer⟩ :: session.history })

def writeFile (path text : String) : Run Bool := do
  let session ← get
  match session.disk.write path text with
  | .ok disk =>
      set { session with disk }
      return true
  | .error _ => return false

def makeFolders (path : String) : Run Bool := do
  let session ← get
  match session.disk.makeFolders path with
  | .ok disk =>
      set { session with disk }
      return true
  | .error _ => return false

end Run

structure Page where
  number : Nat
deriving DecidableEq

namespace Page

def call (page : Page) (call : PageCall) : Run (Except PageFault call.Answer) :=
  Run.call (.onPage page.number call)

def openNext (options : BrowserOptions) : Run (Except PageFault Page) := do
  let number := (← get).opened + 1
  modify fun session => { session with opened := number }
  match ← Run.call (.openPage number options) with
  | .ok () => return .ok ⟨number⟩
  | .error fault => return .error fault

end Page

end GigListings
