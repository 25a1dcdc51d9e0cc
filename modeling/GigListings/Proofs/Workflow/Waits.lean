import GigListings.Proofs.Workflow.Stages
import GigListings.Proofs.Workflow.Undisturbed

namespace GigListings

/-! When a wait looks at its page. On a clock that only sleeping advances, the looks come at fixed
moments, as far as what they find does not end the wait. -/

def Call.isQuery : Call → Bool
  | .onPage _ (.state _) => true
  | _ => false

def History.queries (history : History) : List Event := history.filter (·.call.isQuery)

/-- What a selector finds on a page at each moment. -/
abbrev Display := Nat → Except PageFault SelectorState

/-- A look that finds what is displayed then. -/
def Display.look (display : Display) (page : Page) (selector : String) (time : Nat) : Event :=
  ⟨time, .onPage page.number (.state selector), display time⟩

/-- A world in which only sleeping takes time, whole milliseconds exactly as long as they are, and
in which a selector finds on a page what the moment decides. -/
structure World.Displays (world : World) (page : Page) (selector : String) (display : Display)
    (nap : Nat → Nat) : Prop where
  onlySleeps : world.clock.OnlySleeps nap
  nap_millis : ∀ millis, nap (1000 * millis) = 1000 * millis
  answer : ∀ history time,
    world.browser.answer history time (.onPage page.number (.state selector)) = display time

namespace Run

/-- A step that takes such looks, the latest first, comes to such a result and ends at such a
time. -/
structure Takes (world : World) (step : Run α) (session : Session) (looks : List Event)
    (result : α) (time : Nat) : Prop where
  queries : (step.outcome world session).2.history.queries = looks ++ session.history.queries
  result : (step.outcome world session).1 = result
  ends : (step.outcome world session).2.time = time

namespace Takes

variable {world : World} {page : Page} {selector : String} {display : Display} {nap : Nat → Nat}
  {session : Session}

theorem pure (a : α) : Takes world (Pure.pure a) session [] a session.time := ⟨rfl, rfl, rfl⟩

theorem now : Takes world Run.time session [] session.time session.time := ⟨rfl, rfl, rfl⟩

theorem bind {step : Run α} {next : α → Run β} {early late : List Event} {a : α} {b : β}
    {between time : Nat} (first : Takes world step session early a between)
    (second : ∀ after : Session, after.time = between → Takes world (next a) after late b time) :
    Takes world (step >>= next) session (late ++ early) b time := by
  obtain ⟨queries, result, timed⟩ := second _ first.ends
  rw [← first.result] at queries result timed
  refine ⟨?_, result, timed⟩
  rw [outcome_bind, queries, first.queries, List.append_assoc]

theorem after {step : Run α} {next : α → Run β} {looks : List Event} {a : α} {b : β}
    {between time : Nat} (first : Takes world step session [] a between)
    (second : ∀ after : Session, after.time = between → Takes world (next a) after looks b time) :
    Takes world (step >>= next) session looks b time := by
  have whole := bind first second
  rwa [List.append_nil] at whole

theorem before {step : Run α} {next : α → Run β} {looks : List Event} {a : α} {b : β}
    {between time : Nat} (first : Takes world step session looks a between)
    (second : ∀ after : Session, after.time = between → Takes world (next a) after [] b time) :
    Takes world (step >>= next) session looks b time :=
  bind first second

section Displays

variable (displays : world.Displays page selector display nap)
include displays

theorem look :
    Takes world (page.call (.state selector)) session [display.look page selector session.time]
      (display session.time) session.time := by
  have answer := displays.answer session.history session.time
  refine ⟨?_, answer, ?_⟩
  · rw [Display.look, ← answer]
    rfl
  · change session.time + world.clock.callTime _ _ _ = session.time
    rw [displays.onlySleeps.callTime, Nat.add_zero]

theorem sleep (micros : Nat) :
    Takes world (Run.sleep micros) session [] () (session.time + nap micros) := by
  refine ⟨rfl, rfl, ?_⟩
  change session.time + world.clock.sleepTime _ _ _ = _
  rw [displays.onlySleeps.sleepTime]

theorem discard_of_inspects {other : Page} {step : Run α} (inspects : Inspects other step)
    (session : Session) : Takes world (discard step) session [] () session.time := by
  have unseen : ∀ session,
      (step.outcome world session).2.history.queries = session.history.queries ∧
      (step.outcome world session).2.time = session.time := by
    induction inspects with
    | pure a => exact fun session => ⟨rfl, rfl⟩
    | bind _ _ start rest =>
        intro session
        obtain ⟨queries, timed⟩ := start session
        obtain ⟨later, ends⟩ := rest _ (Run.outcome _ world session).2
        exact ⟨later.trans queries, ends.trans timed⟩
    | @look call isLook =>
        intro session
        have noQuery : (Call.onPage other.number call).isQuery = false := by
          cases call <;> first | rfl | cases isLook
        refine ⟨List.filter_cons_of_neg (by simp [noQuery]), ?_⟩
        change session.time + world.clock.callTime _ _ _ = session.time
        rw [displays.onlySleeps.callTime, Nat.add_zero]
    | now => exact fun session => ⟨rfl, rfl⟩
    | makeFolders path =>
        intro session
        rw [outcome_makeFolders]
        cases session.disk.makeFolders path <;> exact ⟨rfl, rfl⟩
    | writeFile path text =>
        intro session
        rw [outcome_writeFile]
        cases session.disk.write path text <;> exact ⟨rfl, rfl⟩
  obtain ⟨queries, timed⟩ := unseen session
  exact ⟨queries, rfl, timed⟩

theorem take (capture : Capture) (other : Page) (stage action : String)
    (name : Option String) :
    Takes world (discard (capture.take other stage action name)) session [] () session.time :=
  discard_of_inspects displays (Inspects.take capture other stage action name) session

theorem fail (executor : Executor) (kind : Action.Kind) (name : Option String) (cause : StepFault) :
    Takes world (executor.fail kind name page cause : Run (Except StepFault α)) session []
      (.error cause) session.time :=
  after (take displays executor.capture page _ _ _) fun _ timed => timed ▸ pure _

end Displays

end Takes

end Run

/-! Polling. -/

/-- The elements up to the first of a kind, that one included. -/
def upToFirst (p : α → Bool) : List α → List α
  | [] => []
  | a :: rest => if p a then [a] else a :: upToFirst p rest

theorem length_upToFirst_le (p : α → Bool) (list : List α) :
    (upToFirst p list).length ≤ list.length := by
  induction list with
  | nil => exact Nat.le_refl 0
  | cons a rest induction =>
      rw [upToFirst]
      split
      · simp
      · simpa using induction

theorem upToFirst_of_none {p : α → Bool} {list : List α} (none : list.find? p = none) :
    upToFirst p list = list := by
  induction list with
  | nil => rfl
  | cons a rest induction =>
      cases holds : p a with
      | true => simp [holds] at none
      | false =>
          rw [List.find?_cons_of_neg (by simp [holds])] at none
          simp [upToFirst, holds, induction none]

/-- Whether what is found ends the polling. A failure does, and so does an element that has become
visible, or one that is hidden or gone where this is waited for. -/
def WaitCondition.settles : WaitCondition → Except PageFault SelectorState → Bool
  | _, .error _ => true
  | .visible, .ok .visible => true
  | .visible, .ok .hidden => false
  | .visible, .ok .absent => false
  | .hidden, .ok .visible => false
  | .hidden, .ok .hidden => true
  | .hidden, .ok .absent => true
  | .networkIdle, .ok _ => true

theorem WaitCondition.settles_error (condition : WaitCondition) (fault : PageFault) :
    condition.settles (.error fault) = true := by
  cases condition <;> rfl

theorem WaitCondition.settles_ok (condition : WaitCondition) (state : SelectorState) :
    condition.settles (.ok state) = condition.holds state := by
  cases condition <;> cases state <;> rfl

/-- After how many intervals a wait is over. -/
def intervals (millis : Nat) : Nat := (millis + (pollInterval - 1)) / pollInterval

/-- The moments of the looks, if none of them ends the polling: at once, and in intervals up to the
first one at which the time is over. Moments are in microseconds. -/
def pollTimes (start millis : Nat) : List Nat :=
  List.range' start (intervals millis + 1) (1000 * pollInterval)

def lastPoll (start millis : Nat) : Nat := start + 1000 * pollInterval * intervals millis

/-- What comes of the last look for an element that has not become visible. -/
def rechecked (selector : String) (millis : Nat) :
    Except PageFault SelectorState → Except StepFault Unit
  | .ok .visible => .ok ()
  | .ok .hidden => .ok ()
  | .ok .absent => .error (.didNotAppear selector millis)
  | .error fault => .error (.page fault)

namespace Run.Takes

variable {world : World} {page : Page} {selector : String} {display : Display} {nap : Nat → Nat}
  {session : Session} (displays : world.Displays page selector display nap)
include displays

theorem poll_settled {condition : WaitCondition}
    (settled : condition.settles (display session.time) = true) (deadline looks : Nat) :
    Takes world (page.poll selector condition deadline (looks + 1)) session
      [display.look page selector session.time] ((display session.time).map fun _ => true)
      session.time := by
  refine before (look displays) fun after timed => ?_
  cases found : display session.time with
  | error fault => exact timed ▸ pure _
  | ok state =>
      rw [found, condition.settles_ok] at settled
      simp only [settled, if_true]
      exact timed ▸ pure _

theorem poll_over {condition : WaitCondition}
    (unsettled : condition.settles (display session.time) = false) {deadline : Nat}
    (late : deadline ≤ session.time) (looks : Nat) :
    Takes world (page.poll selector condition deadline (looks + 1)) session
      [display.look page selector session.time] (.ok false) session.time := by
  refine before (look displays) fun after timed => ?_
  cases found : display session.time with
  | error fault =>
      rw [found, condition.settles_error] at unsettled
      cases unsettled
  | ok state =>
      rw [found, condition.settles_ok] at unsettled
      simp only [unsettled, Bool.false_eq_true, if_false]
      refine Takes.after now fun later same => ?_
      rw [if_pos (timed ▸ late), ← timed, ← same]
      exact pure _

theorem poll_again {condition : WaitCondition}
    (unsettled : condition.settles (display session.time) = false) {deadline : Nat}
    (early : session.time < deadline) {looks : Nat} {later : List Event}
    {result : Except PageFault Bool} {time : Nat}
    (others : ∀ after : Session, after.time = session.time + 1000 * pollInterval →
      Takes world (page.poll selector condition deadline looks) after later result time) :
    Takes world (page.poll selector condition deadline (looks + 1)) session
      (later ++ [display.look page selector session.time]) result time := by
  refine bind (look displays) fun after timed => ?_
  cases found : display session.time with
  | error fault =>
      rw [found, condition.settles_error] at unsettled
      cases unsettled
  | ok state =>
      rw [found, condition.settles_ok] at unsettled
      simp only [unsettled, Bool.false_eq_true, if_false]
      refine Takes.after now fun after same => ?_
      rw [if_neg (by omega)]
      refine Takes.after (sleep displays _) fun after slept => others after ?_
      rw [slept, same, timed, displays.nap_millis]

theorem poll (condition : WaitCondition) {deadline looks polls : Nat} (enough : polls < looks)
    (early : ∀ k < polls, session.time + 1000 * pollInterval * k < deadline)
    (late : deadline ≤ session.time + 1000 * pollInterval * polls) :
    let times := List.range' session.time (polls + 1) (1000 * pollInterval)
    let settled := times.find? fun time => condition.settles (display time)
    Takes world (page.poll selector condition deadline looks) session
      ((upToFirst (fun time => condition.settles (display time)) times).map
        (display.look page selector)).reverse
      (match settled with
        | some time => (display time).map fun _ => true
        | none => .ok false)
      (settled.getD (session.time + 1000 * pollInterval * polls)) := by
  obtain ⟨looks, rfl⟩ := Nat.exists_eq_succ_of_ne_zero (Nat.ne_zero_of_lt enough)
  induction polls generalizing looks session with
  | zero =>
      rw [List.range'_succ]
      cases settles : condition.settles (display session.time) with
      | true =>
          simp only [List.find?_cons, settles, upToFirst, if_true]
          exact poll_settled displays settles deadline looks
      | false =>
          simp only [List.find?_cons, settles, upToFirst]
          exact poll_over displays settles late looks
  | succ polls induction =>
      rw [List.range'_succ]
      cases settles : condition.settles (display session.time) with
      | true =>
          simp only [List.find?_cons, settles, upToFirst, if_true]
          exact poll_settled displays settles deadline looks
      | false =>
          obtain ⟨looks, rfl⟩ := Nat.exists_eq_succ_of_ne_zero (n := looks) (by omega)
          simp only [List.find?_cons, settles, upToFirst, Bool.false_eq_true, if_false,
            List.map_cons, List.reverse_cons]
          refine poll_again displays settles (early 0 (Nat.succ_pos polls)) fun after timed => ?_
          have period : ∀ k, after.time + 1000 * pollInterval * k =
              session.time + 1000 * pollInterval * (k + 1) := by
            intro k
            rw [timed, Nat.mul_succ, Nat.add_assoc, Nat.add_comm (1000 * pollInterval)]
          have others := @induction after
            (fun k small => (period k).symm ▸ early (k + 1) (Nat.succ_lt_succ small))
            ((period polls).symm ▸ late) looks (Nat.lt_of_succ_lt_succ enough)
          rw [period] at others
          rw [timed] at others
          exact others

theorem waitFor (condition : WaitCondition) (millis : Nat) :
    let times := pollTimes session.time millis
    let settled := times.find? fun time => condition.settles (display time)
    Takes world (page.waitFor selector condition millis) session
      ((upToFirst (fun time => condition.settles (display time)) times).map
        (display.look page selector)).reverse
      (match settled with
        | some time => (display time).map fun _ => true
        | none => .ok false)
      (settled.getD (lastPoll session.time millis)) := by
  refine Takes.after now fun after timed => ?_
  have period : ∀ k, 1000 * pollInterval * k = 100000 * k := fun _ => rfl
  have polls : intervals millis < millis / pollInterval + 2 := by
    simp only [intervals, pollInterval]
    omega
  have polled := @poll world page selector display nap after displays condition
    (session.time + 1000 * millis) (millis / pollInterval + 2) (intervals millis) polls ?_ ?_
  · rw [timed] at polled
    exact polled
  · intro k small
    rw [timed, period]
    simp only [intervals, pollInterval] at small
    omega
  · rw [timed, period]
    simp only [intervals, pollInterval]
    omega

theorem recover (executor : Executor) (millis : Nat) :
    let recheck := session.time + nap (500 * millis)
    Takes world (executor.recover selector millis page) session
      [display.look page selector recheck] (rechecked selector millis (display recheck))
      recheck := by
  refine Takes.after (take displays executor.capture page _ _ _) fun after timed => ?_
  refine Takes.after (sleep displays _) fun after slept => ?_
  have moment : after.time = session.time + nap (500 * millis) := by rw [slept, timed]
  rw [← moment]
  refine before (look displays) fun later same => ?_
  rw [← same]
  cases display later.time with
  | error fault => exact fail displays executor _ _ _
  | ok state =>
      cases state with
      | visible => exact pure _
      | hidden => exact pure _
      | absent =>
          exact Takes.after (take displays executor.capture page _ _ _) fun _ ends => ends ▸ pure _

section Selector

variable (executor : Executor) {condition : WaitCondition} {millis : Nat}

theorem waitForSelector_settled {time : Nat}
    (found : (pollTimes session.time millis).find? (fun time => condition.settles (display time)) =
      some time) :
    Takes world (executor.waitForSelector selector condition millis page) session
      ((upToFirst (fun time => condition.settles (display time))
        (pollTimes session.time millis)).map (display.look page selector)).reverse
      (((display time).map fun _ => ()).mapError .page) time := by
  have polled := @waitFor world page selector display nap session displays condition millis
  simp only [found, Option.getD_some] at polled
  refine before polled fun after timed => ?_
  cases display time with
  | error fault => exact timed ▸ fail displays executor _ _ _
  | ok state => exact timed ▸ pure _

theorem waitForSelector_unsettled
    (none : (pollTimes session.time millis).find? (fun time => condition.settles (display time)) =
      none) {looks : List Event} {result : Except StepFault Unit} {ends : Nat}
    (unmet : ∀ after : Session, after.time = lastPoll session.time millis →
      Takes world
        (if condition = .visible then executor.recover selector millis page
          else executor.fail .wait (some selector) page (.stillVisible selector millis))
        after looks result ends) :
    Takes world (executor.waitForSelector selector condition millis page) session
      (looks ++ ((pollTimes session.time millis).map (display.look page selector)).reverse)
      result ends := by
  have polled := @waitFor world page selector display nap session displays condition millis
  simp only [none, Option.getD_none, upToFirst_of_none none] at polled
  exact bind polled unmet

end Selector

end Run.Takes

open Run

/-- When a wait for a selector looks at the page, and what comes of it. It ends with the first look
that is a failure or finds what is waited for. If there is none until the time is over, a wait for
something to be visible takes one more look after half as long again, as exactly as the clock can
tell half a millisecond, and is content with what is there; any other wait fails. -/
theorem Executor.wait_looks {world : World} {page : Page} {selector : String} {display : Display}
    {nap : Nat → Nat} (displays : world.Displays page selector display nap) {action : WaitAction}
    (looksFor : action.LooksFor selector) (executor : Executor) (session : Session) :
    let millis := executor.patience action
    let times := pollTimes session.time millis
    let recheck := lastPoll session.time millis + nap (500 * millis)
    let settles := fun time => action.condition.settles (display time)
    let waited := (executor.wait action page).outcome world session
    (millis % 2 = 0 → recheck = lastPoll session.time millis + 500 * millis) ∧
    ∃ looks : List Nat,
      waited.2.history.queries =
        (looks.map (display.look page selector)).reverse ++ session.history.queries ∧
      looks.length ≤ intervals millis + 2 ∧
      match times.find? settles, action.condition with
      | some time, _ => looks = upToFirst settles times ∧
          waited.1 = ((display time).map fun _ => ()).mapError .page
      | none, .visible => looks = times ++ [recheck] ∧
          waited.1 = rechecked selector millis (display recheck)
      | none, _ => looks = times ∧ waited.1 = .error (.stillVisible selector millis) := by
  intro millis times recheck settles waited
  refine ⟨fun even => ?_, ?_⟩
  · have whole : 500 * millis = 1000 * (millis / 2) := by omega
    change _ + nap (500 * millis) = _
    rw [whole, displays.nap_millis]
  obtain ⟨named, notIdle⟩ := looksFor
  have steps : executor.wait action page =
      executor.waitForSelector selector action.condition millis page := by
    rw [wait, named]
    exact if_neg notIdle
  have count : times.length = intervals millis + 1 := List.length_range'
  cases found : times.find? settles with
  | some time =>
      have taken := @Takes.waitForSelector_settled world page selector display nap session displays
        executor action.condition millis time found
      rw [← steps] at taken
      have short := length_upToFirst_le settles times
      rw [count] at short
      refine ⟨_, taken.queries, ?_, rfl, taken.result⟩
      exact Nat.le_succ_of_le short
  | none =>
      have unsettled {looks : List Event} {result : Except StepFault Unit} {ends : Nat} :=
        @Takes.waitForSelector_unsettled world page selector display nap session displays executor
          action.condition millis found looks result ends
      cases forVisible : action.condition with
      | networkIdle => exact absurd forVisible notIdle
      | visible =>
          have taken := unsettled fun after timed => by
            rw [if_pos forVisible]
            exact timed ▸ Takes.recover displays executor millis
          rw [← steps] at taken
          refine ⟨times ++ [recheck], ?_, ?_, rfl, taken.result⟩
          · rw [taken.queries, List.map_append, List.reverse_append]
            rfl
          · rw [List.length_append, count]
            exact Nat.le_refl _
      | hidden =>
          have taken := unsettled fun after timed => by
            rw [if_neg (by simp [forVisible])]
            exact timed ▸ Takes.fail displays executor .wait (some selector) _
          rw [← steps] at taken
          refine ⟨times, taken.queries, ?_, rfl, taken.result⟩
          rw [count]
          exact Nat.le_succ _

/-- An element that is there from a certain time on, but is not shown. -/
def lateDisplay : Display := fun time => .ok (if time < 400000 then .absent else .hidden)

def lateWorld : World where
  browser :=
    { answer := fun _ time call =>
        match call with
        | .onPage _ (.state _) => lateDisplay time
        | .onPage _ call => stillPage "" call
        | .openPage _ _ => .ok () }
  clock := .steady 0

/-- A quarter of a second is over at the fourth look, and the element is there at the fifth. -/
theorem Executor.wait_looks_late :
    let waited := (ticketsExecutor.wait ⟨some ".late", .visible, some 250⟩ ⟨1⟩).outcome lateWorld
      listingOpened
    waited.1 = .ok () ∧
      waited.2.history.queries.map (·.time) = [425000, 300000, 200000, 100000, 0] := by
  have displays : lateWorld.Displays ⟨1⟩ ".late" lateDisplay
      (fun asked => (asked + 999) / 1000 * 1000) :=
    { onlySleeps := ⟨fun _ _ _ => rfl, fun _ _ _ => rfl⟩
      nap_millis := by omega
      answer := fun _ _ => rfl }
  have looksFor : WaitAction.LooksFor ⟨some ".late", .visible, some 250⟩ ".late" :=
    ⟨rfl, by decide⟩
  obtain ⟨-, looks, queries, -, ends⟩ := wait_looks displays looksFor ticketsExecutor listingOpened
  have patience : ticketsExecutor.patience ⟨some ".late", .visible, some 250⟩ = 250 := rfl
  have start : listingOpened.time = 0 := rfl
  have unsettled : (pollTimes 0 250).find? (fun time =>
      WaitCondition.visible.settles (lateDisplay time)) = none := by decide
  simp only [patience, start, unsettled] at ends
  obtain ⟨rfl, result⟩ := ends
  refine ⟨result, ?_⟩
  rw [queries]
  decide

end GigListings
