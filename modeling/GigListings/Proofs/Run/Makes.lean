import GigListings.Proofs.Run.Together

namespace GigListings

/-! Captures do nothing but look at a page and write files. -/

namespace PageCall

/-- Whether a call asks for what a page shows. -/
def isLook : PageCall → Bool
  | content => true
  | screenshot => true
  | _ => false

end PageCall

def Call.isLook : Call → Bool
  | .onPage _ call => call.isLook
  | .openPage _ _ => false

namespace Run

/-- A run that looks at a page and writes files. -/
inductive Inspects (page : Page) : {α : Type} → Run α → Prop where
  | pure (a : α) : Inspects page (Pure.pure a)
  | bind {step : Run α} {next : α → Run β} (start : Inspects page step)
      (rest : ∀ a, Inspects page (next a)) : Inspects page (step >>= next)
  | look {call : PageCall} (isLook : call.isLook = true) : Inspects page (page.call call)
  | now : Inspects page Run.now
  | makeFolders (path : String) : Inspects page (Run.makeFolders path)
  | writeFile (path text : String) : Inspects page (Run.writeFile path text)

namespace Inspects

variable (capture : Capture) (page : Page)

theorem write (name text : String) : Inspects page (capture.write name text) := by
  refine bind (writeFile _ _) fun written => ?_
  cases written with
  | true => exact pure _
  | false => exact pure _

theorem writeMarkup (stem : String) : Inspects page (capture.writeMarkup page stem) := by
  refine bind (look rfl) fun answer => ?_
  cases answer with
  | ok html => exact write capture page _ _
  | error fault => exact pure _

theorem writePicture (stem : String) : Inspects page (capture.writePicture page stem) := by
  refine bind (look rfl) fun answer => ?_
  match answer with
  | .ok (some picture) => exact write capture page _ _
  | .ok none => exact pure _
  | .error fault => exact pure _

theorem captured (stem : String) : Inspects page (capture.captured page stem) := by
  have markup : Inspects page
      (if capture.html then capture.writeMarkup page stem else Pure.pure []) := by
    split
    · exact writeMarkup capture page stem
    · exact pure _
  have picture : Inspects page
      (if capture.screenshots then capture.writePicture page stem else Pure.pure []) := by
    split
    · exact writePicture capture page stem
    · exact pure _
  exact bind markup fun _ => bind picture fun _ => pure _

theorem take (stage action : String) (selector : Option String) :
    Inspects page (capture.take page stage action selector) := by
  rw [Capture.take_eq]
  split
  · exact pure _
  · refine bind (makeFolders _) fun made => ?_
    split
    · exact pure _
    · exact bind now fun moment => captured capture page _

end Inspects

end Run

/-! Which calls a run makes, whatever is answered. What each of its steps keeps, the run keeps. -/

namespace Call

def isLoad : Call → Bool
  | .onPage _ (.goto _ _) => true
  | _ => false

def closes : Call → Bool
  | .onPage _ .close => true
  | _ => false

/-- A call that neither loads a page nor closes one. -/
structure IsQuiet (call : Call) : Prop where
  isLoad : call.isLoad = false
  closes : call.closes = false

theorem IsQuiet.of_isLook {call : Call} (isLook : call.isLook = true) : call.IsQuiet := by
  cases call with
  | openPage number options => cases isLook
  | onPage number call => cases call <;> first | exact ⟨rfl, rfl⟩ | cases isLook

end Call

namespace Run

/-- A run of steps that make such calls only. -/
inductive Makes (allowed : Call → Prop) : {α : Type} → Run α → Prop where
  | pure (a : α) : Makes allowed (Pure.pure a)
  | bind {step : Run α} {next : α → Run β} (start : Makes allowed step)
      (rest : ∀ a, Makes allowed (next a)) : Makes allowed (step >>= next)
  | call {call : Call} (isAllowed : allowed call) : Makes allowed (Run.call call)
  | openNext {options : BrowserOptions} (isAllowed : ∀ number, allowed (.openPage number options)) :
      Makes allowed (Page.openNext options)
  | sleep (micros : Nat) : Makes allowed (Run.sleep micros)
  | now : Makes allowed Run.now
  | time : Makes allowed Run.time
  | makeFolders (path : String) : Makes allowed (Run.makeFolders path)
  | writeFile (path text : String) : Makes allowed (Run.writeFile path text)

namespace Makes

variable {allowed : Call → Prop}

theorem discard {step : Run α} (makes : Makes allowed step) : Makes allowed (discard step) :=
  bind makes fun _ => pure ()

theorem of_inspects (quiet : ∀ call : Call, call.IsQuiet → allowed call) {page : Page}
    {step : Run α} (inspects : Inspects page step) : Makes allowed step := by
  induction inspects with
  | pure a => exact pure a
  | bind _ _ start rest => exact bind start rest
  | look isLook => exact call (quiet _ (.of_isLook isLook))
  | now => exact now
  | makeFolders path => exact makeFolders path
  | writeFile path text => exact writeFile path text

theorem take (quiet : ∀ call : Call, call.IsQuiet → allowed call) (capture : Capture)
    (page : Page) (stage action : String) (selector : Option String) :
    Makes allowed (capture.take page stage action selector) :=
  of_inspects quiet (Inspects.take capture page stage action selector)

/-- A run with captures makes the calls that it is allowed, and the quiet ones of its captures. -/
theorem of_beside (quiet : ∀ call : Call, call.IsQuiet → allowed call) {capture other : Capture}
    {step step' : Run α} (beside : Beside allowed capture other step step') :
    Makes allowed step := by
  induction beside with
  | pure a => exact pure a
  | bind _ _ start rest => exact bind start rest
  | call isAllowed => exact call isAllowed
  | openNext isAllowed => exact openNext isAllowed
  | sleep micros => exact sleep micros
  | time => exact time
  | take page stage action selector => exact discard (take quiet _ page stage action selector)

end Makes

end Run

/-! What lasts throughout a run as long as no page is loaded. -/

/-- A property of sessions that nothing but loading a page can end. -/
structure Lasting (world : World) (holds : Session → Prop) : Prop where
  call : ∀ {session} (call : Call), call.isLoad = false → holds session →
    holds ((Run.call call).outcome world session).2
  sleep : ∀ {session} (micros : Nat), holds session →
    holds ((Run.sleep micros).outcome world session).2
  disk : ∀ {session} (disk : Disk), holds session → holds { session with disk }
  opened : ∀ {session} (opened : Nat), holds session → holds { session with opened }

namespace Run

/-- A run that begins where `before` holds leaves off where `after` holds of its result. -/
def Leads (world : World) (before : Session → Prop) (step : Run α)
    (after : α → Session → Prop) : Prop :=
  ∀ session, before session →
    after (step.outcome world session).1 (step.outcome world session).2

namespace Leads

variable {world : World} {before : Session → Prop}

theorem pure {a : α} {after : α → Session → Prop}
    (implies : ∀ session, before session → after a session) :
    Leads world before (Pure.pure a) after :=
  implies

theorem bind {step : Run α} {next : α → Run β} {between : α → Session → Prop}
    {after : β → Session → Prop} (start : Leads world before step between)
    (rest : ∀ a, Leads world (between a) (next a) after) :
    Leads world before (step >>= next) after := by
  intro session holds
  rw [outcome_bind]
  exact rest _ _ (start session holds)

theorem mono {step : Run α} {stronger : Session → Prop} {after weaker : α → Session → Prop}
    (leads : Leads world before step after)
    (requires : ∀ session, stronger session → before session)
    (implies : ∀ a session, after a session → weaker a session) :
    Leads world stronger step weaker :=
  fun session holds => implies _ _ (leads session (requires session holds))

end Leads

/-- A run throughout which something holds. -/
def Preserves (world : World) (holds : Session → Prop) (step : Run α) : Prop :=
  Leads world holds step fun _ => holds

namespace Preserves

variable {world : World} {holds : Session → Prop}

theorem pure (a : α) : Preserves world holds (Pure.pure a) := fun _ held => held

theorem bind {step : Run α} {next : α → Run β} (start : Preserves world holds step)
    (rest : ∀ a, Preserves world holds (next a)) : Preserves world holds (step >>= next) :=
  Leads.bind start rest

end Preserves

end Run

namespace Lasting

open Run

variable {world : World} {holds : Session → Prop} (lasting : Lasting world holds)
include lasting

theorem preserves_makeFolders (path : String) : Preserves world holds (Run.makeFolders path) := by
  intro session held
  rw [outcome_makeFolders]
  cases session.disk.makeFolders path with
  | ok disk => exact lasting.disk disk held
  | error _ => exact held

theorem preserves_writeFile (path text : String) :
    Preserves world holds (Run.writeFile path text) := by
  intro session held
  rw [outcome_writeFile]
  cases session.disk.write path text with
  | ok disk => exact lasting.disk disk held
  | error _ => exact held

theorem preserves_openNext (options : BrowserOptions) :
    Preserves world holds (Page.openNext options) := by
  intro session held
  have called := lasting.call (.openPage (session.opened + 1) options) rfl
    (lasting.opened (session.opened + 1) held)
  rw [Page.outcome_openNext, Page.openNumbered, outcome_bind]
  cases ((Run.call (.openPage (session.opened + 1) options)).outcome world
    { session with opened := session.opened + 1 }).1 with
  | ok _ => exact called
  | error _ => exact called

theorem preserves {step : Run α} (makes : Makes (fun call => call.isLoad = false) step) :
    Preserves world holds step := by
  induction makes with
  | pure a => exact Preserves.pure a
  | bind _ _ start rest => exact Preserves.bind start rest
  | call unloading => exact fun _ held => lasting.call _ unloading held
  | openNext => exact lasting.preserves_openNext _
  | sleep micros => exact fun _ held => lasting.sleep micros held
  | now => exact fun _ held => held
  | time => exact fun _ held => held
  | makeFolders path => exact lasting.preserves_makeFolders path
  | writeFile path text => exact lasting.preserves_writeFile path text

end Lasting

/-! Runs with captures beside runs without any. Where looking at a page takes no time and leaves the
page as it is, captures show in nothing but in the looks that they take. -/

/-- The calls that were made, but for looks at a page. -/
def History.withoutLooks (history : History) : History :=
  history.filter fun event => !event.call.isLook

/-- A world that goes on alike whether or not its pages are looked at. Looks take no time; they may
fail, and pictures may be different whenever they are taken. -/
structure World.UnmovedByLooks (world : World) : Prop where
  look : ∀ history time (call : Call), call.isLook = true →
    world.clock.callTime history time call = 0
  answer : ∀ history other time (call : Call), call.takesPicture = false →
    History.withoutLooks history = History.withoutLooks other →
    world.browser.answer history time call = world.browser.answer other time call
  callTime : ∀ history other time (call : Call),
    History.withoutLooks history = History.withoutLooks other →
    world.clock.callTime history time call = world.clock.callTime other time call
  sleepTime : ∀ history other time asked,
    History.withoutLooks history = History.withoutLooks other →
    world.clock.sleepTime history time asked = world.clock.sleepTime other time asked

def World.startingAt (world : World) (start : Int) : World :=
  { world with clock := { world.clock with start } }

theorem World.UnmovedByLooks.startingAt {world : World} (unmoved : world.UnmovedByLooks)
    (start : Int) : (world.startingAt start).UnmovedByLooks :=
  ⟨unmoved.look, unmoved.answer, unmoved.callTime, unmoved.sleepTime⟩

/-- A history and the same history with further looks in it. -/
inductive WithLooks : History → History → Prop where
  | same (history : History) : WithLooks history history
  | event {history more : History} (event : Event) (later : WithLooks history more) :
      WithLooks (event :: history) (event :: more)
  | look {history more : History} (event : Event) (isLook : event.call.isLook = true)
      (later : WithLooks history more) : WithLooks history (event :: more)

theorem WithLooks.withoutLooks_eq {history more : History} (looks : WithLooks history more) :
    History.withoutLooks history = History.withoutLooks more := by
  induction looks with
  | same history => rfl
  | event event _ same => simp only [History.withoutLooks, List.filter_cons] at same ⊢; rw [same]
  | look event isLook _ same =>
      rw [same, History.withoutLooks, History.withoutLooks,
        List.filter_cons_of_neg (by simp [isLook])]

/-- A session and one that has come as far with further looks. -/
structure InStep (s t : Session) : Prop where
  time : s.time = t.time
  opened : s.opened = t.opened
  looks : WithLooks s.history t.history

namespace InStep

open Run

theorem withDisk (session : Session) (disk : Disk) : InStep session { session with disk } :=
  ⟨rfl, rfl, .same _⟩

variable {world : World} {page : Page}

theorem of_inspects (unmoved : world.UnmovedByLooks) {step : Run α}
    (inspects : Inspects page step) {s t : Session} (inStep : InStep s t) :
    InStep s (step.outcome world t).2 := by
  induction inspects generalizing t with
  | pure a => exact inStep
  | bind _ _ start rest =>
      rw [outcome_bind]
      exact rest _ (start inStep)
  | @look call isLook =>
      refine ⟨?_, inStep.opened, .look _ isLook inStep.looks⟩
      change s.time = t.time + world.clock.callTime t.history t.time (.onPage page.number call)
      rw [unmoved.look _ _ (.onPage page.number call) isLook, Nat.add_zero, inStep.time]
  | now => exact inStep
  | makeFolders path =>
      rw [outcome_makeFolders]
      cases t.disk.makeFolders path with
      | ok disk => exact ⟨inStep.time, inStep.opened, inStep.looks⟩
      | error fault => exact inStep
  | writeFile path text =>
      rw [outcome_writeFile]
      cases t.disk.write path text with
      | ok disk => exact ⟨inStep.time, inStep.opened, inStep.looks⟩
      | error fault => exact inStep

theorem take_disabled {capture : Capture} (disabled : capture.isEnabled = false) (page : Page)
    (stage action : String) (selector : Option String) :
    capture.take page stage action selector = pure [] := by
  rw [Capture.take_eq, disabled]
  rfl

theorem keeps (unmoved : world.UnmovedByLooks) (start : Int) {capture : Capture}
    (disabled : capture.isEnabled = false) (other : Capture) :
    KeepsRelated capture other world (world.startingAt start) InStep where
  time := fun _ _ inStep => inStep.time
  opened := fun _ _ inStep => inStep.opened
  opening := fun _ _ _ inStep => ⟨inStep.time, rfl, inStep.looks⟩
  call := by
    intro call step s t inStep
    have answers : world.browser.answer s.history s.time call =
        world.browser.answer t.history t.time call := by
      rw [inStep.time]
      exact unmoved.answer _ _ _ _ step inStep.looks.withoutLooks_eq
    have lasts : world.clock.callTime s.history s.time call =
        world.clock.callTime t.history t.time call := by
      rw [inStep.time]
      exact unmoved.callTime _ _ _ _ inStep.looks.withoutLooks_eq
    refine ⟨answers, ⟨?_, inStep.opened, ?_⟩⟩
    · change s.time + world.clock.callTime s.history s.time call =
        t.time + world.clock.callTime t.history t.time call
      rw [lasts, inStep.time]
    · have events : (⟨s.time, call, world.browser.answer s.history s.time call⟩ : Event) =
          ⟨t.time, call, world.browser.answer t.history t.time call⟩ := by
        rw [answers, inStep.time]
      change WithLooks (⟨s.time, call, _⟩ :: s.history) (⟨t.time, call, _⟩ :: t.history)
      rw [events]
      exact .event _ inStep.looks
  sleep := by
    intro micros s t inStep
    refine ⟨?_, inStep.opened, inStep.looks⟩
    have lasts : world.clock.sleepTime s.history s.time micros =
        world.clock.sleepTime t.history t.time micros := by
      rw [inStep.time]
      exact unmoved.sleepTime _ _ _ _ inStep.looks.withoutLooks_eq
    change s.time + world.clock.sleepTime s.history s.time micros =
      t.time + world.clock.sleepTime t.history t.time micros
    rw [lasts, inStep.time]
  take := by
    intro page stage action selector s t inStep
    rw [take_disabled disabled]
    exact of_inspects (unmoved.startingAt start) (Inspects.take other page stage action selector)
      inStep

end InStep

end GigListings
