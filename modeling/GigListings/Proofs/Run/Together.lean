import GigListings.Browser.Capture
import GigListings.Browser.Session
import GigListings.Proofs.Storage.Folders

namespace GigListings

namespace Run

/-! Runs taken from every session, one alone and two side by side. -/

/-- What a run comes to in a world: its result and the session it leaves. -/
def outcome (step : Run α) (world : World) (session : Session) : α × Session := step world session

theorem outcome_bind (step : Run α) (next : α → Run β) (world : World) (session : Session) :
    outcome (step >>= next) world session =
      outcome (next (step.outcome world session).1) world (step.outcome world session).2 := rfl

theorem outcome_get (world : World) (session : Session) :
    outcome get world session = (session, session) := rfl

theorem outcome_makeFolders (path : String) (world : World) (session : Session) :
    (makeFolders path).outcome world session =
      match session.disk.makeFolders path with
      | .ok disk => (true, { session with disk })
      | .error _ => (false, session) := by
  rw [makeFolders, outcome_bind, outcome_get]
  dsimp only
  cases session.disk.makeFolders path <;> rfl

theorem outcome_writeFile (path text : String) (world : World) (session : Session) :
    (writeFile path text).outcome world session =
      match session.disk.write path text with
      | .ok disk => (true, { session with disk })
      | .error _ => (false, session) := by
  rw [writeFile, outcome_bind, outcome_get]
  dsimp only
  cases session.disk.write path text <;> rfl

/-- Two runs, each in a world of its own, that begin with related sessions come to related
outcomes. -/
def Together (first second : World) (before : Session → Session → Prop) (step : Run α)
    (other : Run β) (after : α → β → Session → Session → Prop) : Prop :=
  ∀ s t, before s t →
    after (step.outcome first s).1 (other.outcome second t).1 (step.outcome first s).2
      (other.outcome second t).2

namespace Together

variable {first second : World} {before : Session → Session → Prop}

theorem pure {a : α} {b : β} {after : α → β → Session → Session → Prop}
    (related : ∀ s t, before s t → after a b s t) :
    Together first second before (Pure.pure a) (Pure.pure b) after :=
  related

theorem bind {step : Run α} {other : Run β} {next : α → Run γ} {otherNext : β → Run δ}
    {between : α → β → Session → Session → Prop} {after : γ → δ → Session → Session → Prop}
    (start : Together first second before step other between)
    (rest : ∀ a b, Together first second (between a b) (next a) (otherNext b) after) :
    Together first second before (step >>= next) (other >>= otherNext) after := by
  intro s t related
  rw [outcome_bind, outcome_bind]
  exact rest _ _ _ _ (start s t related)

theorem mono {step : Run α} {other : Run β} {after weaker : α → β → Session → Session → Prop}
    (together : Together first second before step other after)
    (implies : ∀ a b s t, after a b s t → weaker a b s t) :
    Together first second before step other weaker :=
  fun s t related => implies _ _ _ _ (together s t related)

theorem discard {step other : Run α} {after : Session → Session → Prop}
    (together : Together first second before step other fun _ _ => after) :
    Together first second before (discard step) (discard other) fun _ _ => after :=
  together

end Together

end Run

namespace Page

def openNumbered (options : BrowserOptions) (number : Nat) : Run (Except PageFault Page) := do
  match ← Run.call (.openPage number options) with
  | .ok () => return .ok ⟨number⟩
  | .error fault => return .error fault

theorem outcome_openNext (options : BrowserOptions) (world : World) (session : Session) :
    Run.outcome (openNext options) world session =
      Run.outcome (openNumbered options (session.opened + 1)) world
        { session with opened := session.opened + 1 } := rfl

end Page

namespace Capture

/-! A capture in two parts: finding its folder, and what is written there. -/

def captured (capture : Capture) (page : Page) (stem : String) : Run (List String) := do
  let markup ← (if capture.html then capture.writeMarkup page stem else pure [] :)
  let picture ← (if capture.screenshots then capture.writePicture page stem else pure [] :)
  return markup ++ picture

theorem take_eq (capture : Capture) (page : Page) (stage action : String)
    (selector : Option String) :
    capture.take page stage action selector =
      if !capture.isEnabled then pure []
      else Run.makeFolders capture.folder >>= fun made =>
        if !made then pure []
        else Run.now >>= fun moment =>
          capture.captured page (capture.stem stage action selector moment) := by
  unfold take captured
  cases capture.html <;> cases capture.screenshots <;> rfl

end Capture

/-! Two runs of the same steps that capture different things along the way. -/

def Call.takesPicture : Call → Bool
  | .onPage _ .screenshot => true
  | _ => false

namespace Run

/-- Runs that ask and do the same, step by step, each with captures of its own. Apart from their
captures they make such calls only. -/
inductive Beside (allowed : Call → Prop) (capture other : Capture) :
    {α : Type} → Run α → Run α → Prop where
  | pure (a : α) : Beside allowed capture other (Pure.pure a) (Pure.pure a)
  | bind {step step' : Run α} {next next' : α → Run β}
      (start : Beside allowed capture other step step')
      (rest : ∀ a, Beside allowed capture other (next a) (next' a)) :
      Beside allowed capture other (step >>= next) (step' >>= next')
  | call {call : Call} (isAllowed : allowed call) :
      Beside allowed capture other (Run.call call) (Run.call call)
  | openNext {options : BrowserOptions} (isAllowed : ∀ number, allowed (.openPage number options)) :
      Beside allowed capture other (Page.openNext options) (Page.openNext options)
  | sleep (micros : Nat) : Beside allowed capture other (Run.sleep micros) (Run.sleep micros)
  | time : Beside allowed capture other Run.time Run.time
  | take (page : Page) (stage action : String) (selector : Option String) :
      Beside allowed capture other (discard (capture.take page stage action selector))
        (discard (other.take page stage action selector))

def Equally (related : Session → Session → Prop) (a b : α) (s t : Session) : Prop :=
  a = b ∧ related s t

/-- What single steps keep of a relation between the sessions of two runs. -/
structure KeepsRelated (capture other : Capture) (first second : World)
    (related : Session → Session → Prop) : Prop where
  time : ∀ s t, related s t → s.time = t.time
  opened : ∀ s t, related s t → s.opened = t.opened
  opening : ∀ s t number, related s t →
    related { s with opened := number } { t with opened := number }
  call : ∀ call : Call, call.takesPicture = false →
    Together first second related (Run.call call) (Run.call call) (Equally related)
  sleep : ∀ micros,
    Together first second related (Run.sleep micros) (Run.sleep micros) fun _ _ => related
  take : ∀ page stage action selector,
    Together first second related (capture.take page stage action selector)
      (other.take page stage action selector) fun _ _ => related

namespace KeepsRelated

variable {capture other : Capture} {first second : World} {related : Session → Session → Prop}
  (keeps : KeepsRelated capture other first second related)
include keeps

theorem openNext (options : BrowserOptions) :
    Together first second related (Page.openNext options) (Page.openNext options)
      (Equally related) := by
  intro s t before
  rw [Page.outcome_openNext, Page.outcome_openNext, keeps.opened s t before]
  refine Together.bind (keeps.call _ rfl) (fun answer other => ?_) _ _
    (keeps.opening s t (t.opened + 1) before)
  rintro s t ⟨rfl, after⟩
  cases answer with
  | ok _ => exact ⟨rfl, after⟩
  | error fault => exact ⟨rfl, after⟩

/-- What single steps keep, runs of the same steps keep, and they come to the same results. -/
theorem together {step step' : Run α}
    (beside : Beside (fun call => call.takesPicture = false) capture other step step') :
    Together first second related step step' (Equally related) := by
  induction beside with
  | pure a => exact Together.pure fun _ _ before => ⟨rfl, before⟩
  | bind _ _ start rest =>
      refine Together.bind start fun a b s t equally => ?_
      obtain ⟨rfl, between⟩ := equally
      exact rest a s t between
  | call withoutPicture => exact keeps.call _ withoutPicture
  | openNext => exact keeps.openNext _
  | sleep micros => exact fun s t before => ⟨rfl, keeps.sleep micros s t before⟩
  | time => exact fun s t before => ⟨keeps.time s t before, before⟩
  | take page stage action selector =>
      exact fun s t before => ⟨rfl, keeps.take page stage action selector s t before⟩

end KeepsRelated

end Run

/-! What runs add to the history of calls. -/

open Run

/-- A run that begins when the pages up to the number `known` have been asked for adds such
events, the latest first, and gives such a result. -/
def Yields (known : Nat) (world : World) (step : Run α) (result : α → List Event → Prop) : Prop :=
  ∀ session, known ≤ session.opened → ∃ events,
    (step.outcome world session).2.history = events ++ session.history ∧
      known ≤ (step.outcome world session).2.opened ∧ result (step.outcome world session).1 events

namespace Yields

variable {known : Nat} {world : World}

theorem pure {a : α} {result : α → List Event → Prop} (holds : result a []) :
    Yields known world (Pure.pure a) result :=
  fun _ opened => ⟨[], rfl, opened, holds⟩

theorem bind {step : Run α} {next : α → Run β} {between : α → List Event → Prop}
    {result : β → List Event → Prop} (start : Yields known world step between)
    (rest : ∀ a early, between a early →
      Yields known world (next a) fun b late => result b (late ++ early)) :
    Yields known world (step >>= next) result := by
  intro session opened
  obtain ⟨early, history, stillOpened, holds⟩ := start session opened
  obtain ⟨late, laterHistory, atLast, result⟩ :=
    rest _ early holds (step.outcome world session).2 stillOpened
  refine ⟨late ++ early, ?_, atLast, result⟩
  rw [outcome_bind, laterHistory, history, List.append_assoc]

theorem mono {step : Run α} {result weaker : α → List Event → Prop}
    (yields : Yields known world step result)
    (implies : ∀ a events, result a events → weaker a events) :
    Yields known world step weaker := by
  intro session opened
  obtain ⟨events, history, still, holds⟩ := yields session opened
  exact ⟨events, history, still, implies _ events holds⟩

theorem discard {step : Run α} {result : List Event → Prop}
    (yields : Yields known world step fun _ => result) :
    Yields known world (discard step) fun _ => result :=
  yields

theorem call (call : Call) :
    Yields known world (Run.call call) fun answer events =>
      ∃ time, events = [⟨time, call, answer⟩] :=
  fun session opened => ⟨[_], rfl, opened, session.time, rfl⟩

/-- What opening a page comes to. Its number is that of no page before. -/
def Opens (known : Nat) (options : BrowserOptions) : Except PageFault Page → List Event → Prop
  | .ok page, events =>
      known < page.number ∧ ∃ time, events = [⟨time, .openPage page.number options, .ok ()⟩]
  | .error fault, events =>
      ∃ time number, known < number ∧ events = [⟨time, .openPage number options, .error fault⟩]

theorem openNumbered (options : BrowserOptions) {number : Nat} (fresh : known < number) :
    Yields known world (Page.openNumbered options number) (Opens known options) := by
  refine Yields.bind (call (.openPage number options)) ?_
  rintro answer events ⟨time, rfl⟩
  cases answer with
  | ok _ => exact Yields.pure ⟨fresh, time, rfl⟩
  | error fault => exact Yields.pure ⟨time, number, fresh, rfl⟩

theorem openNext (options : BrowserOptions) :
    Yields known world (Page.openNext options) (Opens known options) := by
  intro session opened
  rw [Page.outcome_openNext]
  exact openNumbered options (Nat.lt_succ_of_le opened)
    { session with opened := session.opened + 1 } (Nat.le_succ_of_le opened)

def Silent (known : Nat) (world : World) (step : Run α) : Prop :=
  Yields known world step fun _ events => events = []

theorem sleep (micros : Nat) : Silent known world (Run.sleep micros) :=
  fun _ opened => ⟨[], rfl, opened, rfl⟩

theorem time : Silent known world Run.time := fun _ opened => ⟨[], rfl, opened, rfl⟩

theorem now : Silent known world Run.now := fun _ opened => ⟨[], rfl, opened, rfl⟩

theorem makeFolders (path : String) : Silent known world (Run.makeFolders path) := by
  intro session opened
  refine ⟨[], ?_, ?_, rfl⟩
  · rw [outcome_makeFolders]
    cases session.disk.makeFolders path <;> rfl
  · rw [outcome_makeFolders]
    cases session.disk.makeFolders path <;> exact opened

theorem writeFile (path text : String) : Silent known world (Run.writeFile path text) := by
  intro session opened
  refine ⟨[], ?_, ?_, rfl⟩
  · rw [outcome_writeFile]
    cases session.disk.write path text <;> rfl
  · rw [outcome_writeFile]
    cases session.disk.write path text <;> exact opened

theorem after_silent {step : Run α} {next : α → Run β} {result : β → List Event → Prop}
    (silent : Silent known world step) (rest : ∀ a, Yields known world (next a) result) :
    Yields known world (step >>= next) result := by
  refine Yields.bind silent fun a events none => ?_
  cases none
  refine (rest a).mono fun b late holds => ?_
  rw [List.append_nil]
  exact holds

end Yields

/-! The same captures in two runs. Their files may have different names, but as long as they find
their folder alike, the same page is looked at as often. -/

/-- Captures find their folder alike: nothing was written yet, or the folder is there. -/
def DisksAlike (folder : String) (s t : Disk) : Prop :=
  s = t ∨ s.HasFolders folder ∧ t.HasFolders folder

/-- A relation between two sessions that knows nothing of their disks but that captures find their
folder alike. -/
structure AlikeUpToFiles (folder : String) (related : Session → Session → Prop) : Prop where
  disks : ∀ s t, related s t → DisksAlike folder s.disk t.disk
  replace : ∀ s t d e, related s t → DisksAlike folder d e →
    related { s with disk := d } { t with disk := e }

def Ready (folder : String) (related : Session → Session → Prop) (s t : Session) : Prop :=
  related s t ∧ s.disk.HasFolders folder ∧ t.disk.HasFolders folder

namespace AlikeUpToFiles

variable {folder : String} {first second : World} {related : Session → Session → Prop}

theorem makeFolders (alike : AlikeUpToFiles folder related) :
    Together first second related (Run.makeFolders folder) (Run.makeFolders folder)
      fun a b s t => a = b ∧ related s t ∧ (a = true → Ready folder related s t) := by
  intro s t before
  rw [Run.outcome_makeFolders, Run.outcome_makeFolders]
  rcases alike.disks s t before with equal | ⟨firstThere, secondThere⟩
  · rw [equal]
    cases made : t.disk.makeFolders folder with
    | error fault => exact ⟨rfl, before, fun absurd => by cases absurd⟩
    | ok disk =>
        have there := Disk.hasFolders_of_makeFolders made
        have still := alike.replace s t disk disk before (.inl rfl)
        exact ⟨rfl, still, fun _ => ⟨still, there, there⟩⟩
  · rw [Disk.makeFolders_of_hasFolders firstThere, Disk.makeFolders_of_hasFolders secondThere]
    exact ⟨rfl, before, fun _ => ⟨before, firstThere, secondThere⟩⟩

theorem exists_outcome_writeFile {disk : Disk} (there : disk.HasFolders folder)
    (path text : String) (world : World) (session : Session) :
    ∃ written, ((Run.writeFile path text).outcome world { session with disk }).2 =
        { session with disk := written } ∧
      written.HasFolders folder := by
  rw [Run.outcome_writeFile]
  dsimp only
  cases made : disk.write path text with
  | error fault => exact ⟨disk, rfl, there⟩
  | ok written => exact ⟨written, rfl, there.write made⟩

theorem writeFile (alike : AlikeUpToFiles folder related)
    (path text otherPath otherText : String) :
    Together first second (Ready folder related) (Run.writeFile path text)
      (Run.writeFile otherPath otherText) fun _ _ => Ready folder related := by
  rintro s t ⟨before, firstThere, secondThere⟩
  obtain ⟨firstDisk, firstLeft, firstStill⟩ :=
    exists_outcome_writeFile firstThere path text first s
  obtain ⟨secondDisk, secondLeft, secondStill⟩ :=
    exists_outcome_writeFile secondThere otherPath otherText second t
  rw [firstLeft, secondLeft]
  exact ⟨alike.replace s t _ _ before (.inr ⟨firstStill, secondStill⟩), firstStill, secondStill⟩

theorem write (alike : AlikeUpToFiles folder related) (capture : Capture)
    (name text otherName otherText : String) :
    Together first second (Ready folder related) (capture.write name text)
      (capture.write otherName otherText) fun _ _ => Ready folder related := by
  refine Together.bind (alike.writeFile _ _ _ _) fun a b => ?_
  cases a <;> cases b <;> exact Together.pure fun _ _ ready => ready

theorem now : Together first second (Ready folder related) Run.now Run.now
    fun _ _ => Ready folder related :=
  fun _ _ ready => ready

variable {page : Page} (alike : AlikeUpToFiles folder related)
  (answers : ∀ call, Together first second related (page.call call) (page.call call)
    fun a b s t => a = b ∧ related s t)
include alike answers

omit alike in
theorem call (call : PageCall) :
    Together first second (Ready folder related) (page.call call) (page.call call)
      fun a b s t => a = b ∧ Ready folder related s t := by
  rintro s t ⟨before, firstThere, secondThere⟩
  obtain ⟨same, still⟩ := answers call s t before
  exact ⟨same, still, firstThere, secondThere⟩

theorem writeMarkup (capture : Capture) (stem otherStem : String) :
    Together first second (Ready folder related) (capture.writeMarkup page stem)
      (capture.writeMarkup page otherStem) fun _ _ => Ready folder related := by
  refine Together.bind (call answers .content) fun a b s t same => ?_
  obtain ⟨rfl, ready⟩ := same
  cases a with
  | error fault => exact ready
  | ok html => exact alike.write capture _ _ _ _ s t ready

theorem writePicture (capture : Capture) (stem otherStem : String) :
    Together first second (Ready folder related) (capture.writePicture page stem)
      (capture.writePicture page otherStem) fun _ _ => Ready folder related := by
  refine Together.bind (call answers .screenshot) fun a b s t same => ?_
  obtain ⟨rfl, ready⟩ := same
  match a with
  | .error fault => exact ready
  | .ok none => exact ready
  | .ok (some picture) => exact alike.write capture _ _ _ _ s t ready

theorem captured (capture : Capture) (stem otherStem : String) :
    Together first second (Ready folder related) (capture.captured page stem)
      (capture.captured page otherStem) fun _ _ => Ready folder related := by
  have markup : Together first second (Ready folder related)
      (if capture.html then capture.writeMarkup page stem else pure [])
      (if capture.html then capture.writeMarkup page otherStem else pure [])
      fun _ _ => Ready folder related := by
    split
    · exact alike.writeMarkup answers capture stem otherStem
    · exact Together.pure fun _ _ ready => ready
  have picture : Together first second (Ready folder related)
      (if capture.screenshots then capture.writePicture page stem else pure [])
      (if capture.screenshots then capture.writePicture page otherStem else pure [])
      fun _ _ => Ready folder related := by
    split
    · exact alike.writePicture answers capture stem otherStem
    · exact Together.pure fun _ _ ready => ready
  exact Together.bind markup fun _ _ => Together.bind picture fun _ _ =>
    Together.pure fun _ _ ready => ready

end AlikeUpToFiles

theorem AlikeUpToFiles.take {capture : Capture} {first second : World}
    {related : Session → Session → Prop} (alike : AlikeUpToFiles capture.folder related)
    {page : Page} (answers : ∀ call, Together first second related (page.call call)
      (page.call call) fun a b s t => a = b ∧ related s t)
    (stage action : String) (selector : Option String) :
    Together first second related (capture.take page stage action selector)
      (capture.take page stage action selector) fun _ _ => related := by
  rw [Capture.take_eq]
  split
  · exact Together.pure fun _ _ before => before
  · refine Together.bind alike.makeFolders fun a b => ?_
    rintro s t ⟨rfl, before, ready⟩
    cases a with
    | false => exact before
    | true =>
        have taken : Together first second (Ready capture.folder related)
            (Run.now >>= fun moment =>
              capture.captured page (capture.stem stage action selector moment))
            (Run.now >>= fun moment =>
              capture.captured page (capture.stem stage action selector moment))
            fun _ _ => Ready capture.folder related :=
          Together.bind now fun _ _ => alike.captured answers capture _ _
        exact (taken s t (ready rfl)).1

end GigListings
