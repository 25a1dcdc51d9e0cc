import GigListings.Proofs.Run.Together
import GigListings.Workflow.Wait

namespace GigListings

/-! Two browsers that behave alike on one page, the listing. Whatever else they were asked before,
what a workflow does on the listing is the same in both. -/

def History.callsOn (history : History) (page : Nat) : List PageCall :=
  history.filterMap fun event =>
    match event.call with
    | .onPage number call => if number = page then some call else none
    | .openPage _ _ => none

/-- What a page answers, given the calls before on it. -/
abbrev Behaviour := List PageCall → (call : PageCall) → Except PageFault call.Answer

/-- Answers on a page depend only on the calls made on it, not on the time. -/
def Browser.Behaves (browser : Browser) (page : Nat) (behaviour : Behaviour) : Prop :=
  ∀ history time call,
    browser.answer history time (.onPage page call) =
      behaviour (History.callsOn history page) call

/-- Only sleeps take time, and a sleep as long as what was asked says. -/
structure Clock.OnlySleeps (clock : Clock) (nap : Nat → Nat) : Prop where
  callTime : ∀ history time call, clock.callTime history time call = 0
  sleepTime : ∀ history time asked, clock.sleepTime history time asked = nap asked

/-- Two worlds that may differ in everything but the listing page and the clock. -/
structure SameListing (page : Page) (first second : World) (behaviour : Behaviour)
    (nap : Nat → Nat) : Prop where
  first_behaves : first.browser.Behaves page.number behaviour
  second_behaves : second.browser.Behaves page.number behaviour
  first_sleeps : first.clock.OnlySleeps nap
  second_sleeps : second.clock.OnlySleeps nap

/-- Two sessions that have come equally far on the listing. -/
structure Abreast (page : Page) (folder : String) (s t : Session) : Prop where
  calls : s.history.callsOn page.number = t.history.callsOn page.number
  first_opened : page.number ≤ s.opened
  second_opened : page.number ≤ t.opened
  disks : DisksAlike folder s.disk t.disk

def Alike (page : Page) (folder : String) (a b : α) (s t : Session) : Prop :=
  a = b ∧ Abreast page folder s t

open Run

variable {page : Page} {folder : String} {first second : World} {behaviour : Behaviour}
  {nap : Nat → Nat}

namespace Alike

theorem pure (a : α) :
    Together first second (Abreast page folder) (Pure.pure a) (Pure.pure a)
      (Alike page folder) :=
  Together.pure fun _ _ abreast => ⟨rfl, abreast⟩

theorem bind {step other : Run α} {next otherNext : α → Run β}
    {before : Session → Session → Prop} {after : β → β → Session → Session → Prop}
    (start : Together first second before step other (Alike page folder))
    (rest : ∀ a, Together first second (Abreast page folder) (next a) (otherNext a) after) :
    Together first second before (step >>= next) (other >>= otherNext) after := by
  refine Together.bind start fun a b s t alike => ?_
  obtain ⟨rfl, abreast⟩ := alike
  exact rest a s t abreast

end Alike

namespace SameListing

theorem call (same : SameListing page first second behaviour nap) (call : PageCall) :
    Together first second (Abreast page folder) (page.call call) (page.call call)
      (Alike page folder) := by
  intro s t abreast
  refine ⟨?_, ?_, abreast.first_opened, abreast.second_opened, abreast.disks⟩
  · change first.browser.answer _ _ _ = second.browser.answer _ _ _
    rw [same.first_behaves, same.second_behaves, abreast.calls]
  · change History.callsOn (_ :: s.history) _ = History.callsOn (_ :: t.history) _
    have calls := abreast.calls
    simp only [History.callsOn, List.filterMap_cons, if_true] at calls ⊢
    rw [calls]

theorem sleep (micros : Nat) :
    Together first second (Abreast page folder) (Run.sleep micros) (Run.sleep micros)
      (Alike page folder) :=
  fun _ _ abreast =>
    ⟨rfl, abreast.calls, abreast.first_opened, abreast.second_opened, abreast.disks⟩

theorem pause (millis : Option UInt64) :
    Together first second (Abreast page folder) (Executor.pause millis) (Executor.pause millis)
      (Alike page folder) := by
  cases millis with
  | none => exact Alike.pure ()
  | some millis => exact sleep _

theorem rest (executor : Executor) :
    Together first second (Abreast page folder) executor.rest executor.rest
      (Alike page folder) := by
  unfold Executor.rest
  split
  · split
    · exact Alike.pure ()
    · exact sleep _
  · exact Alike.pure ()

theorem alikeUpToFiles : AlikeUpToFiles folder (Abreast page folder) where
  disks := fun _ _ abreast => abreast.disks
  replace := fun _ _ _ _ abreast disks =>
    ⟨abreast.calls, abreast.first_opened, abreast.second_opened, disks⟩

theorem take (same : SameListing page first second behaviour nap) (capture : Capture)
    (stage action : String) (selector : Option String) :
    Together first second (Abreast page capture.folder) (capture.take page stage action selector)
      (capture.take page stage action selector) fun _ _ => Abreast page capture.folder :=
  alikeUpToFiles.take same.call stage action selector

theorem fail (same : SameListing page first second behaviour nap) (executor : Executor)
    (kind : Action.Kind) (selector : Option String) (cause : StepFault) :
    Together first second (Abreast page executor.capture.folder)
      (executor.fail kind selector page cause : Run (Except StepFault α))
      (executor.fail kind selector page cause) (Alike page executor.capture.folder) := by
  exact Together.bind (Together.discard (same.take executor.capture _ _ _)) fun _ _ => Alike.pure _

/-! Waiting. The times of two runs may differ, but not what is left until a deadline. -/

def OnTime (page : Page) (folder : String) (deadline otherDeadline : Nat) (s t : Session) : Prop :=
  Abreast page folder s t ∧ deadline + t.time = otherDeadline + s.time

variable {deadline otherDeadline : Nat}

theorem call_onTime (same : SameListing page first second behaviour nap) (call : PageCall) :
    Together first second (OnTime page folder deadline otherDeadline) (page.call call)
      (page.call call) fun a b s t => a = b ∧ OnTime page folder deadline otherDeadline s t := by
  rintro s t ⟨abreast, left⟩
  obtain ⟨answers, still⟩ := same.call call s t abreast
  refine ⟨answers, still, ?_⟩
  change deadline + (t.time + second.clock.callTime _ _ _) =
    otherDeadline + (s.time + first.clock.callTime _ _ _)
  rw [same.first_sleeps.callTime, same.second_sleeps.callTime]
  exact left

theorem sleep_onTime (same : SameListing page first second behaviour nap) (micros : Nat) :
    Together first second (OnTime page folder deadline otherDeadline) (Run.sleep micros)
      (Run.sleep micros) fun _ _ => OnTime page folder deadline otherDeadline := by
  rintro s t ⟨abreast, left⟩
  refine ⟨(sleep micros s t abreast).2, ?_⟩
  change deadline + (t.time + second.clock.sleepTime _ _ _) =
    otherDeadline + (s.time + first.clock.sleepTime _ _ _)
  rw [same.first_sleeps.sleepTime, same.second_sleeps.sleepTime]
  omega

theorem time_onTime :
    Together first second (OnTime page folder deadline otherDeadline) Run.time Run.time
      fun a b s t => (deadline ≤ a ↔ otherDeadline ≤ b) ∧
        OnTime page folder deadline otherDeadline s t := by
  rintro s t ⟨abreast, left⟩
  refine ⟨?_, abreast, left⟩
  change deadline ≤ s.time ↔ otherDeadline ≤ t.time
  omega

theorem poll (same : SameListing page first second behaviour nap) (selector : String)
    (condition : WaitCondition) (looks : Nat) :
    Together first second (OnTime page folder deadline otherDeadline)
      (page.poll selector condition deadline looks)
      (page.poll selector condition otherDeadline looks) (Alike page folder) := by
  induction looks with
  | zero => exact Together.pure fun _ _ onTime => ⟨rfl, onTime.1⟩
  | succ looks induction =>
      refine Together.bind (same.call_onTime (.state selector)) fun answer other => ?_
      rintro s t ⟨rfl, onTime⟩
      cases answer with
      | error fault => exact ⟨rfl, onTime.1⟩
      | ok state =>
          dsimp only
          split
          · exact ⟨rfl, onTime.1⟩
          · refine Together.bind time_onTime (fun now otherNow => ?_) s t onTime
            rintro s t ⟨agree, onTime⟩
            by_cases late : deadline ≤ now
            · rw [if_pos late, if_pos (agree.mp late)]
              exact ⟨rfl, onTime.1⟩
            · rw [if_neg late, if_neg (late ∘ agree.mpr)]
              exact Together.bind (same.sleep_onTime _) (fun _ _ => induction) s t onTime

theorem waitFor (same : SameListing page first second behaviour nap) (selector : String)
    (condition : WaitCondition) (millis : Nat) :
    Together first second (Abreast page folder) (page.waitFor selector condition millis)
      (page.waitFor selector condition millis) (Alike page folder) := by
  have begun : Together first second (Abreast page folder) Run.time Run.time
      fun a b => OnTime page folder (a + 1000 * millis) (b + 1000 * millis) := by
    intro s t abreast
    refine ⟨abreast, ?_⟩
    change s.time + 1000 * millis + t.time = t.time + 1000 * millis + s.time
    omega
  exact Together.bind begun fun _ _ => same.poll selector condition _

theorem recover (same : SameListing page first second behaviour nap) (executor : Executor)
    (selector : String) (millis : Nat) :
    Together first second (Abreast page executor.capture.folder)
      (executor.recover selector millis page) (executor.recover selector millis page)
      (Alike page executor.capture.folder) := by
  refine Together.bind (Together.discard (same.take executor.capture _ _ _)) fun _ _ => ?_
  refine Alike.bind (sleep _) fun _ => ?_
  refine Alike.bind (same.call (.state selector)) fun answer => ?_
  cases answer with
  | error fault => exact same.fail executor _ _ _
  | ok state =>
      dsimp only
      split
      · exact Alike.pure _
      · exact Together.bind (Together.discard (same.take executor.capture _ _ _)) fun _ _ =>
          Alike.pure _

theorem waitForIdle (same : SameListing page first second behaviour nap) (executor : Executor)
    (selector : Option String) (millis : Nat) :
    Together first second (Abreast page executor.capture.folder)
      (executor.waitForIdle selector millis page) (executor.waitForIdle selector millis page)
      (Alike page executor.capture.folder) := by
  refine Alike.bind (same.call (.idle millis)) fun answer => ?_
  cases answer with
  | error fault => exact same.fail executor _ _ _
  | ok _ => exact Alike.pure _

theorem waitForSelector (same : SameListing page first second behaviour nap)
    (executor : Executor) (selector : String) (condition : WaitCondition) (millis : Nat) :
    Together first second (Abreast page executor.capture.folder)
      (executor.waitForSelector selector condition millis page)
      (executor.waitForSelector selector condition millis page)
      (Alike page executor.capture.folder) := by
  refine Alike.bind (same.waitFor selector condition millis) fun answer => ?_
  match answer with
  | .error fault => exact same.fail executor _ _ _
  | .ok true => exact Alike.pure _
  | .ok false =>
      dsimp only
      split
      · exact same.recover executor selector millis
      · exact same.fail executor _ _ _

theorem wait (same : SameListing page first second behaviour nap) (executor : Executor)
    (action : WaitAction) :
    Together first second (Abreast page executor.capture.folder) (executor.wait action page)
      (executor.wait action page) (Alike page executor.capture.folder) := by
  unfold Executor.wait
  cases action.selector with
  | none => exact same.waitForIdle executor _ _
  | some selector =>
      dsimp only
      split
      · exact same.waitForIdle executor _ _
      · exact same.waitForSelector executor _ _ _

end SameListing

end GigListings
