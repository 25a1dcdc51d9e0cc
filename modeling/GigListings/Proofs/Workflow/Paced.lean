import GigListings.Proofs.Run.Makes
import GigListings.Proofs.Workflow.Makes
import Mathlib.Data.List.Chain

namespace GigListings

/-! Workflows keep the rest that their site asks for, between loads of pages and between
actions. -/

/-- When pages were loaded, or loading was tried, the latest time first. -/
def loadTimes (events : List Event) : List Nat :=
  (events.filter (·.call.isLoad)).map (·.time)

/-- Times, the latest first, of which no two are less than `gap` apart. -/
def AreApart (gap : Nat) (times : List Nat) : Prop :=
  times.Pairwise fun later earlier => earlier + gap ≤ later

/-- The rest that a site asks for, in microseconds. -/
def Executor.gap (executor : Executor) : Nat :=
  match executor.config.rateLimit.delayBetweenRequests with
  | some delay => 1000 * delay.toNat
  | none => 0

/-- The loads since `past` are `gap` apart, and the last one is at least `since` ago. -/
def Paced (gap : Nat) (past : History) (since : Nat) (session : Session) : Prop :=
  ∃ events, session.history = events ++ past ∧ AreApart gap (loadTimes events) ∧
    ∀ time ∈ loadTimes events, time + since ≤ session.time

open Run

section Steps

variable {world : World} {gap : Nat} {past : History} {since : Nat} {session : Session}

theorem Paced.start (gap since : Nat) (session : Session) :
    Paced gap session.history since session :=
  ⟨[], rfl, List.Pairwise.nil, by simp [loadTimes]⟩

theorem Paced.later {other : Session} (paced : Paced gap past since session)
    (sameHistory : other.history = session.history) {passed : Nat}
    (time : session.time + passed ≤ other.time) : Paced gap past (since + passed) other := by
  obtain ⟨events, history, apart, ago⟩ := paced
  refine ⟨events, sameHistory.trans history, apart, ?_⟩
  intro load member
  have := ago load member
  omega

theorem Paced.mono {less : Nat} (paced : Paced gap past since session) (weaker : less ≤ since) :
    Paced gap past less session := by
  obtain ⟨events, history, apart, ago⟩ := paced
  refine ⟨events, history, apart, ?_⟩
  intro load member
  have := ago load member
  omega

theorem Paced.sleep (paced : Paced gap past since session) (world : World) (micros : Nat) :
    Paced gap past (since + micros) ((Run.sleep micros).outcome world session).2 := by
  have slept := world.clock.asked_le_sleepTime session.history session.time micros
  have history : ((Run.sleep micros).outcome world session).2.history = session.history := rfl
  exact paced.later history (Nat.add_le_add_left slept session.time)

theorem Paced.call (paced : Paced gap past since session) (world : World) {call : Call}
    (unloading : call.isLoad = false) :
    Paced gap past since ((Run.call call).outcome world session).2 := by
  obtain ⟨events, history, apart, ago⟩ := paced
  have same : loadTimes (⟨session.time, call, world.browser.answer session.history session.time
      call⟩ :: events) = loadTimes events := by
    simp [loadTimes, unloading]
  refine ⟨_ :: events, congrArg (List.cons _) history, ?_, ?_⟩
  · rw [same]
    exact apart
  · intro load member
    rw [same] at member
    have := ago load member
    simp only [outcome, Run.call]
    omega

/-- A page may be loaded when the last load is long enough ago. -/
theorem Paced.load (paced : Paced gap past gap session) (world : World) (call : Call) :
    Paced gap past 0 ((Run.call call).outcome world session).2 := by
  cases loads : call.isLoad with
  | false => exact (paced.call world loads).mono (Nat.zero_le gap)
  | true =>
      obtain ⟨events, history, apart, ago⟩ := paced
      have added : loadTimes (⟨session.time, call, world.browser.answer session.history
          session.time call⟩ :: events) = session.time :: loadTimes events := by
        simp [loadTimes, loads]
      refine ⟨_ :: events, congrArg (List.cons _) history, ?_, ?_⟩
      · rw [added]
        exact List.pairwise_cons.mpr ⟨ago, apart⟩
      · intro load member
        rw [added] at member
        simp only [outcome, Run.call]
        rcases List.mem_cons.mp member with rfl | earlier
        · omega
        · have := ago load earlier
          omega

theorem Paced.lasting (world : World) (gap : Nat) (past : History) (since : Nat) :
    Lasting world (Paced gap past since) where
  call _ unloading paced := paced.call world unloading
  sleep micros paced := (paced.sleep world micros).mono (Nat.le_add_right since micros)
  disk _ paced := paced
  opened _ paced := paced

theorem Executor.gap_le_rest (executor : Executor) (world : World) (session : Session) :
    session.time + executor.gap ≤ (executor.rest.outcome world session).2.time ∧
      (executor.rest.outcome world session).2.history = session.history := by
  unfold Executor.gap Executor.rest
  cases executor.config.rateLimit.delayBetweenRequests with
  | none => exact ⟨Nat.le_refl _, rfl⟩
  | some delay =>
      dsimp only
      split
      · rename_i zero
        subst zero
        exact ⟨Nat.le_refl _, rfl⟩
      · exact ⟨Nat.add_le_add_left (world.clock.asked_le_sleepTime _ _ _) _, rfl⟩

end Steps

namespace Executor

variable (executor : Executor) (world : World) (past : History) (page : Page)

theorem rest_paced {since : Nat} :
    Leads world (Paced executor.gap past since) executor.rest
      fun _ => Paced executor.gap past executor.gap := by
  intro session paced
  obtain ⟨time, history⟩ := executor.gap_le_rest world session
  exact (paced.later history time).mono (Nat.le_add_left _ _)

/-! Visits rest before they load a page. -/

theorem visit_paced (visit : Visit) :
    Leads world (Paced executor.gap past executor.gap) (executor.visit page visit)
      fun _ => Paced executor.gap past 0 := by
  have lasting := Paced.lasting world executor.gap past 0
  have loading : Leads world (Paced executor.gap past executor.gap)
      (page.call (.goto visit.url true)) fun _ => Paced executor.gap past 0 :=
    fun _ paced => paced.load world _
  refine Leads.bind loading fun loaded => ?_
  cases loaded with
  | error fault => exact Preserves.pure none
  | ok _ =>
      refine Preserves.bind (lasting.preserves (.call rfl)) fun answer => ?_
      cases answer with
      | error fault => exact Preserves.pure none
      | ok html => exact Preserves.pure _

theorem visitAll_paced (item : Item) (visits : List Visit) :
    Preserves world (Paced executor.gap past 0) (executor.visitAll page item visits) := by
  induction visits generalizing item with
  | nil => exact Preserves.pure item
  | cons next later induction =>
      refine Leads.bind (executor.rest_paced world past) fun _ => ?_
      refine Leads.bind (executor.visit_paced world past page next) fun found => ?_
      cases found with
      | none => exact induction item
      | some found => exact induction (Dict.merge item found)

theorem complete_paced (extracted : Extracted) (followUps : FollowUpPage) :
    Preserves world (Paced executor.gap past 0) (executor.complete extracted followUps) := by
  have lasting := Paced.lasting world executor.gap past 0
  unfold complete
  split
  · exact Preserves.pure _
  · refine Preserves.bind
      (lasting.preserves (.followUpPage (fun _ quiet => quiet.isLoad) executor followUps))
      fun reached => ?_
    cases reached with
    | unopened => exact Preserves.pure _
    | unavailable => exact Preserves.pure _
    | opened page =>
        exact Preserves.bind (executor.visitAll_paced world past page _ _) fun _ => Preserves.pure _

theorem completeAll_paced (progress : Progress) (found : List Extracted) :
    Preserves world (Paced executor.gap past 0) (executor.completeAll progress found) := by
  induction found generalizing progress with
  | nil => exact Preserves.pure progress
  | cons extracted later induction =>
      exact Preserves.bind (executor.complete_paced world past extracted progress.followUpPage)
        fun _ => induction _

/-! An action that begins after a rest loads at most one page before it rests again. -/

theorem navigate_paced (action : NavigateAction) :
    Leads world (Paced executor.gap past executor.gap) (executor.navigate action page)
      fun _ => Paced executor.gap past 0 := by
  have lasting := Paced.lasting world executor.gap past 0
  have loading : Leads world (Paced executor.gap past executor.gap)
      (page.call (.goto (executor.target action) (action.waitForLoad.getD true)))
      fun _ => Paced executor.gap past 0 :=
    fun _ paced => paced.load world _
  refine Leads.bind loading fun answer => ?_
  cases answer with
  | ok _ => exact Preserves.pure _
  | error fault => exact lasting.preserves (.fail (fun _ quiet => quiet.isLoad) executor page _ _ _)

theorem extract_paced (action : ExtractAction) (progress : Progress) :
    Preserves world (Paced executor.gap past 0) (executor.extract action page progress) := by
  have lasting := Paced.lasting world executor.gap past 0
  unfold extract
  cases progress.navigated with
  | false => exact Preserves.pure _
  | true =>
      refine Preserves.bind (lasting.preserves (.call rfl)) fun answer => ?_
      cases answer with
      | error fault =>
          exact lasting.preserves (.fail (fun _ quiet => quiet.isLoad) executor page _ _ _)
      | ok html =>
          dsimp only
          split
          · exact Preserves.pure _
          · exact Preserves.bind (executor.completeAll_paced world past progress _)
              fun _ => Preserves.pure _

theorem keeping_paced {progress : Progress} {step : Run (Except StepFault Unit)}
    {before : Session → Prop}
    (leads : Leads world before step fun _ => Paced executor.gap past 0) :
    Leads world before (keeping progress step) fun _ => Paced executor.gap past 0 := by
  refine Leads.bind leads fun result => ?_
  cases result with
  | ok _ => exact Preserves.pure _
  | error cause => exact Preserves.pure _

theorem perform_paced (action : Action) (progress : Progress) :
    Leads world (Paced executor.gap past executor.gap) (executor.perform action page progress)
      fun _ => Paced executor.gap past 0 := by
  have lasting := Paced.lasting world executor.gap past 0
  have rested : ∀ session, Paced executor.gap past executor.gap session →
      Paced executor.gap past 0 session := fun _ paced => paced.mono (Nat.zero_le _)
  have quietly {step : Run (Except StepFault Unit)}
      (makes : Makes (fun call => call.isLoad = false) step) :
      Leads world (Paced executor.gap past executor.gap) step fun _ => Paced executor.gap past 0 :=
    Leads.mono (lasting.preserves makes) rested fun _ _ paced => paced
  cases action with
  | navigate action =>
      exact executor.keeping_paced world past (executor.navigate_paced world past page action)
  | wait action =>
      exact executor.keeping_paced world past
        (quietly (.wait (fun _ quiet => quiet.isLoad) executor page action))
  | click action =>
      exact executor.keeping_paced world past
        (quietly (.click (fun _ quiet => quiet.isLoad) executor page action))
  | scroll action =>
      exact executor.keeping_paced world past
        (quietly (.scroll (fun _ quiet => quiet.isLoad) executor page action))
  | extract action =>
      exact Leads.mono (executor.extract_paced world past page action progress) rested
        fun _ _ paced => paced

/-! Actions rest before they begin, but for the first one. -/

def restBefore (executor : Executor) (index : Nat) : Run Unit :=
  if index ≠ 0 then executor.rest else pure ()

theorem restBefore_paced (index : Nat) :
    Leads world (Paced executor.gap past (if index = 0 then executor.gap else 0))
      (executor.restBefore index) fun _ => Paced executor.gap past executor.gap := by
  unfold restBefore
  cases index with
  | zero => exact Leads.pure fun _ paced => paced
  | succ index => exact executor.rest_paced world past

theorem performAll_paced (index : Nat) (progress : Progress) (actions : List Action) :
    Leads world (Paced executor.gap past (if index = 0 then executor.gap else 0))
      (executor.performAll page index progress actions)
      fun _ => Paced executor.gap past 0 := by
  induction actions generalizing index progress with
  | nil => exact Leads.pure fun _ paced => paced.mono (Nat.zero_le _)
  | cons action later induction =>
      rw [performAll_cons]
      refine Leads.bind (executor.restBefore_paced world past index) fun _ => ?_
      refine Leads.bind (executor.perform_paced world past page action (progress.pending index))
        fun result => ?_
      cases result with
      | ok progress => exact induction (index + 1) progress
      | error cause => exact Preserves.pure _

theorem run_loads_apart (session : Session) :
    Paced executor.gap session.history 0 ((executor.run page).outcome world session).2 := by
  have lasting := Paced.lasting world executor.gap session.history 0
  have run : Leads world (Paced executor.gap session.history executor.gap) (executor.run page)
      fun _ => Paced executor.gap session.history 0 := by
    rw [run_eq]
    refine Leads.bind (executor.performAll_paced world session.history page 0 .start _)
      fun done => ?_
    refine Preserves.bind (lasting.preserves
      (.closeFollowUps (fun _ quiet => quiet.isLoad) executor (fun _ => rfl) _)) fun _ => ?_
    cases done.2 with
    | none => exact Preserves.pure _
    | some fault => exact Preserves.pure _
  exact run session (Paced.start _ _ _)

/-- The session in which an action began, and the one that it left. -/
structure Turn where
  began : Session
  left : Session

/-- The turns of the actions from an index on, as far as they are carried out. -/
def turns (executor : Executor) (world : World) (page : Page) (index : Nat)
    (progress : Progress) (session : Session) : List Action → List Turn
  | [] => []
  | action :: later =>
      let began := ((executor.restBefore index).outcome world session).2
      let done := (executor.perform action page (progress.pending index)).outcome world began
      ⟨began, done.2⟩ ::
        match done.1 with
        | .ok progress => executor.turns world page (index + 1) progress done.2 later
        | .error _ => []

theorem outcome_performAll_eq_turns (index : Nat) (progress : Progress) (session : Session)
    (actions : List Action) :
    ((executor.performAll page index progress actions).outcome world session).2 =
      ((executor.turns world page index progress session actions).getLast?.map (·.left)).getD
        session := by
  induction actions generalizing index progress session with
  | nil => rfl
  | cons action later induction =>
      rw [performAll_cons, outcome_bind, outcome_bind, turns]
      dsimp only [restBefore]
      generalize Run.outcome (executor.perform action page (progress.pending index)) world _ = done
      obtain ⟨result, left⟩ := done
      cases result with
      | error cause => rfl
      | ok progress =>
          have rest := induction (index + 1) progress left
          dsimp only [proceed]
          rw [rest, List.getLast?_cons]
          cases (executor.turns world page (index + 1) progress left later).getLast? <;> rfl

/-- One action begins `gap` or more after another one has ended. -/
def Turn.Apart (gap : Nat) (earlier later : Turn) : Prop :=
  earlier.left.time + gap ≤ later.began.time

theorem turns_apart (index : Nat) (progress : Progress) (session : Session)
    (actions : List Action) :
    (executor.turns world page index progress session actions).IsChain
      (Turn.Apart executor.gap) := by
  induction actions generalizing index progress session with
  | nil => exact List.IsChain.nil
  | cons action later induction =>
      rw [turns]
      generalize Run.outcome (executor.perform action page (progress.pending index)) world _ = done
      obtain ⟨result, left⟩ := done
      cases result with
      | error cause => exact List.IsChain.singleton _
      | ok progress =>
          refine List.isChain_cons.mpr ⟨?_, induction (index + 1) progress left⟩
          intro next first
          cases later with
          | nil => cases first
          | cons action later =>
              cases first
              exact (executor.gap_le_rest world left).1

/-- However long calls take, the loads of a run are as far apart as the site asks, and so is the
beginning of every action from the end of the one before. The turns are all that the actions
do. -/
theorem run_paced (session : Session) :
    let turns := executor.turns world page 0 .start session executor.config.workflow
    (∃ events, ((executor.run page).outcome world session).2.history =
        events ++ session.history ∧ AreApart executor.gap (loadTimes events)) ∧
      turns.IsChain (Turn.Apart executor.gap) ∧
      ((executor.performAll page 0 .start executor.config.workflow).outcome world session).2 =
        (turns.getLast?.map (·.left)).getD session := by
  obtain ⟨events, history, apart, -⟩ := executor.run_loads_apart world page session
  exact ⟨⟨events, history, apart⟩, executor.turns_apart world page 0 .start session _,
    executor.outcome_performAll_eq_turns world page 0 .start session _⟩

end Executor

end GigListings
