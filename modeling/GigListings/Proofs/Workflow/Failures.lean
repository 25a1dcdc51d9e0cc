import GigListings.Proofs.Config.Checked
import GigListings.Proofs.Workflow.InOrder

namespace GigListings

/-! Why a workflow can fail. An action without problems fails only if a call on the page was
answered with a failure, or if a condition that it waits for was never met. -/

/-- What a look at a page for a selector has found, if the event is one. -/
def look? (page : Page) (selector : String) : Event → Option SelectorState
  | ⟨_, .onPage number (.state name), .ok state⟩ =>
      if number = page.number ∧ name = selector then some state else none
  | _ => none

def looks (page : Page) (selector : String) (events : List Event) : List SelectorState :=
  events.filterMap (look? page selector)

/-- The calls that an action makes on its page for itself. -/
def Action.Asks : Action → PageCall → Prop
  | .navigate _, .goto _ _ => True
  | .wait action, .state selector => action.selector = some selector
  | .wait _, .idle _ => True
  | .click action, .click selector => selector = action.selector
  | .scroll _, .scroll _ _ => True
  | .extract _, .content => True
  | _, _ => False

/-- A failure of an action that the events of the action bear out. -/
inductive FailsWith (page : Page) (events : List Event) : Action → StepFault → Prop where
  /-- The page could not be loaded. -/
  | notLoaded {action : NavigateAction} {time : Nat} {url : String} {waitForLoad : Bool}
      {fault : PageFault}
      (event : ⟨time, .onPage page.number (.goto url waitForLoad), .error fault⟩ ∈ events) :
      FailsWith page events (.navigate action) (.notLoaded url fault)
  /-- A call that the action asks for failed. -/
  | refused {action : Action} {time : Nat} {call : PageCall} {fault : PageFault}
      (asks : action.Asks call)
      (event : ⟨time, .onPage page.number call, .error fault⟩ ∈ events) :
      FailsWith page events action (.page fault)
  /-- Every look found the element visible. -/
  | stillVisible {action : WaitAction} {selector : String} {millis : Nat}
      (waits : action.selector = some selector) (forHidden : action.condition = .hidden)
      (unmet : ∀ state ∈ looks page selector events, state = .visible)
      (looked : looks page selector events ≠ []) :
      FailsWith page events (.wait action) (.stillVisible selector millis)
  /-- No look found the element visible, and the last one did not find it at all. -/
  | didNotAppear {action : WaitAction} {selector : String} {millis : Nat}
      (waits : action.selector = some selector) (forVisible : action.condition = .visible)
      (unmet : ∀ state ∈ looks page selector events, state ≠ .visible)
      (absent : (looks page selector events).head? = some .absent) :
      FailsWith page events (.wait action) (.didNotAppear selector millis)

theorem looks_append (page : Page) (selector : String) (late early : List Event) :
    looks page selector (late ++ early) = looks page selector late ++ looks page selector early :=
  List.filterMap_append

theorem looks_look (page : Page) (selector : String) (time : Nat) (state : SelectorState) :
    looks page selector [⟨time, .onPage page.number (.state selector), .ok state⟩] = [state] := by
  simp [looks, look?]

theorem looks_of_capturesOnly {page : Page} {events : List Event}
    (captures : CapturesOnly page events) (selector : String) :
    looks page selector events = [] :=
  captures.filterMap_eq_nil (fun _ _ => rfl) fun _ _ => rfl

section Unmet

variable {page : Page} {selector : String} {condition : WaitCondition} {events : List Event}

theorem Unmet.holds_eq_false (unmet : Unmet page selector condition events) :
    ∀ state ∈ looks page selector events, condition.holds state = false := by
  intro state member
  obtain ⟨event, isEvent, looked⟩ := List.mem_filterMap.mp member
  obtain ⟨time, found, rfl, fails⟩ := unmet event isEvent
  have same : found = state := by simpa [look?] using looked
  rwa [← same]

theorem Unmet.ne_visible (unmet : Unmet page selector .visible events) :
    ∀ state ∈ looks page selector events, state ≠ .visible := by
  intro state member
  simpa [WaitCondition.holds] using unmet.holds_eq_false state member

theorem Unmet.eq_visible (unmet : Unmet page selector .hidden events) :
    ∀ state ∈ looks page selector events, state = .visible := by
  intro state member
  simpa [WaitCondition.holds] using unmet.holds_eq_false state member

theorem Unmet.looks_ne_nil (unmet : Unmet page selector condition events)
    (nonempty : events ≠ []) : looks page selector events ≠ [] := by
  obtain ⟨event, member⟩ := List.exists_mem_of_ne_nil events nonempty
  obtain ⟨time, state, rfl, -⟩ := unmet event member
  have looked : state ∈ looks page selector events :=
    List.mem_filterMap.mpr ⟨_, member, by simp [look?]⟩
  exact List.ne_nil_of_mem looked

end Unmet

theorem asks_click (action : ClickAction) : (Action.click action).Asks (.click action.selector) :=
  rfl

theorem asks_idle (action : WaitAction) (millis : Nat) : (Action.wait action).Asks (.idle millis) :=
  trivial

theorem asks_state {action : WaitAction} {selector : String}
    (looksFor : action.LooksFor selector) : (Action.wait action).Asks (.state selector) :=
  looksFor.1

theorem WaitAction.LooksFor.eq_hidden {action : WaitAction} {selector : String}
    (looksFor : action.LooksFor selector) (notVisible : action.condition ≠ .visible) :
    action.condition = .hidden := by
  cases condition : action.condition with
  | visible => exact absurd condition notVisible
  | hidden => rfl
  | networkIdle => exact absurd condition looksFor.2

theorem asks_scroll (action : ScrollAction) (direction : ScrollDirection) (amount : Int64) :
    (Action.scroll action).Asks (.scroll direction amount) :=
  trivial

theorem asks_content (action : ExtractAction) : (Action.extract action).Asks .content := trivial

namespace Executor

variable {executor : Executor} {page : Page} {known : Nat}

/-- An action without problems fails as its events bear out. -/
theorem Fails.failsWith {before : Progress} {action : Action} {events : List Event}
    {cause : StepFault} (fails : executor.Fails page before action events cause)
    (sound : action.IsSound before.navigated) : FailsWith page events action cause := by
  cases fails with
  | notLoaded => exact .notLoaded List.mem_append_cons_self
  | @notClicked action => exact .refused (asks_click action) List.mem_append_cons_self
  | @notScrolled action => exact .refused (asks_scroll action _ _) List.mem_append_cons_self
  | @notIdle action => exact .refused (asks_idle action _) List.mem_append_cons_self
  | lookFailed looksFor => exact .refused (asks_state looksFor) List.mem_append_cons_self
  | notRecovered looksFor => exact .refused (asks_state looksFor) List.mem_append_cons_self
  | @unread action => exact .refused (asks_content action) List.mem_append_cons_self
  | @stillVisible action selector captured looked looksFor notVisible unmet nonempty captures =>
      have forHidden := looksFor.eq_hidden notVisible
      rw [forHidden] at unmet
      have all : looks page selector (captured ++ looked) = looks page selector looked := by
        rw [looks_append, looks_of_capturesOnly captures]
        rfl
      refine .stillVisible looksFor.1 forHidden ?_ ?_
      · rw [all]
        exact unmet.eq_visible
      · rw [all]
        exact unmet.looks_ne_nil nonempty
  | @didNotAppear action selector time captured capturedBefore looked looksFor forVisible unmet
      captures capturesBefore =>
      have all : looks page selector
          (captured ++ ⟨time, .onPage page.number (.state selector), .ok .absent⟩ ::
            (capturedBefore ++ looked)) = .absent :: looks page selector looked := by
        rw [looks_append, looks_of_capturesOnly captures, ← List.singleton_append, looks_append,
          looks_look, looks_append, looks_of_capturesOnly capturesBefore]
        rfl
      rw [forVisible] at unmet
      refine .didNotAppear looksFor.1 forVisible ?_ ?_
      · rw [all, List.forall_mem_cons]
        exact ⟨nofun, unmet.ne_visible⟩
      · rw [all]
        rfl
  | notNavigated notYet => exact absurd (sound.1.symm.trans notYet) (by decide)
  | @malformed _ _ html _ _ read =>
      obtain ⟨found, isFound⟩ := executor.extractor.exists_extractPage sound.2 html
      rw [read] at isFound
      cases isFound

/-! Soundness is passed on from action to action. -/

theorem Carried.navigated {before after : Progress} {stage : Stage}
    (carried : executor.Carried page known before stage after) :
    after.navigated = stage.action.navigatedAfter before.navigated := by
  cases carried with
  | loaded => exact (Action.navigatedAfter_navigate _ _).symm
  | _ => exact (Action.navigatedAfter_of_ne (by simp [Action.kind]) _).symm

theorem Follows.soundFrom {index : Nat} {before after : Progress} {stages : List Stage}
    {rest : List Action} (follows : executor.Follows page known index before stages after)
    (sound : SoundFrom before.navigated (stages.map (·.action) ++ rest)) :
    SoundFrom after.navigated rest := by
  induction follows with
  | nil => exact sound
  | cons first _ induction =>
      apply induction
      rw [first.navigated]
      exact sound.2

end Executor

/-- If a workflow without problems fails, then one of its actions failed as the events that it
added bear out. -/
theorem Yields.failsWith {world : World} {page : Page} (executor : Executor)
    (sound : SoundFrom false executor.config.workflow) (session : Session) :
    ∃ events, ((executor.run page).outcome world session).2.history =
        events ++ session.history ∧
      ∀ fault, ((executor.run page).outcome world session).1 = .error fault →
        ∃ action after during before, executor.config.workflow[fault.index]? = some action ∧
          fault.kind = action.kind ∧ events = after ++ during ++ before ∧
          FailsWith page during action fault.cause := by
  obtain ⟨events, history, -, stages, done, before, closing, left, ends, -, rfl, result⟩ :=
    Yields.run executor session (Nat.zero_le _)
  refine ⟨_, history, fun fault failed => ?_⟩
  rw [result] at failed
  have start : SoundFrom Progress.start.navigated executor.config.workflow := sound
  cases ends with
  | completed follows => cases failed
  | @aborted between action later during cause follows some fails =>
      cases failed
      rw [some] at start
      refine ⟨action, closing, during, log stages, ?_, rfl, (List.append_assoc _ _ _).symm,
        fails.failsWith (follows.soundFrom start).1⟩
      rw [some]
      simp

/-! Configurations that have been accepted do not fail for reasons of their own. -/

/-- An accepted configuration makes an engine. Carrying out its workflow fails only if an action's
call on the page was answered with a failure or a wait was never met, and all its extractions can
read every page with selectors that are no faults. -/
theorem run_of_accepted {text : String} {config : Config}
    (accepted : Config.parse text = .ok config) :
    (∃ engine, Engine.ofConfig config = .ok engine) ∧
    (∀ executor : Executor, executor.config = config → ∀ world page session fault,
      ((executor.run page).outcome world session).1 = .error fault →
        (fault.cause ≠ .notNavigated ∧ ∀ selector, fault.cause ≠ .selector selector) ∧
        ∃ action after during before, config.workflow[fault.index]? = some action ∧
          fault.kind = action.kind ∧
          ((executor.run page).outcome world session).2.history =
            after ++ during ++ before ++ session.history ∧
          FailsWith page during action fault.cause) ∧
    ∀ action ∈ extractions config.workflow,
      (∀ (extractor : Extractor) html, ∃ found, extractor.extractPage action html = .ok found) ∧
      ∀ rule, action.Reads rule → ∀ selector, rule.selector = some selector →
        (Css.Selector.parse? selector).isSome := by
  obtain ⟨value, -, made⟩ := Config.parse_eq_ok.mp accepted
  have checked := (Config.ofJson_eq_ok.mp made).2.2
  have sound := Config.soundFrom_of_check checked
  refine ⟨Engine.exists_ofConfig checked, ?_, ?_⟩
  · rintro executor rfl world page session fault failed
    obtain ⟨events, history, fails⟩ := Yields.failsWith executor sound session
    obtain ⟨action, after, during, before, found, kind, rfl, failing⟩ := fails fault failed
    refine ⟨?_, action, after, during, before, found, kind, history, failing⟩
    generalize fault.cause = cause at failing
    cases failing <;> simp
  · intro action member
    have readable := sound.isReadable action member
    exact ⟨fun extractor html => extractor.exists_extractPage readable html,
      fun rule reads selector declared => readable.fields rule reads selector declared⟩

/-- A listing whose buttons do nothing. -/
def deafWorld : World where
  browser :=
    { answer := fun _ _ call =>
        match call with
        | .openPage _ _ => .ok ()
        | .onPage _ (.click _) => .error (.reported "no button")
        | .onPage _ call => stillPage "" call }
  clock := .steady 0

theorem run_of_accepted_variedConfig :
    ∃ config action after during before,
      Config.parse variedConfig.compact = .ok config ∧
      (∃ engine, Engine.ofConfig config = .ok engine) ∧
      config.workflow[1]? = some action ∧ action.kind = .click ∧
      (({ ticketsExecutor with config }.run ⟨1⟩).outcome deafWorld listingOpened).2.history =
        after ++ during ++ before ++ listingOpened.history ∧
      FailsWith ⟨1⟩ during action (.page (.reported "no button")) ∧
      ∀ extraction ∈ extractions config.workflow, ∀ html,
        ∃ found, ticketsExecutor.extractor.extractPage extraction html = .ok found := by
  have ends : Config.accepts (fun config =>
      (({ ticketsExecutor with config }.run ⟨1⟩).outcome deafWorld listingOpened).1 =
        .error ⟨1, .click, .page (.reported "no button")⟩) variedConfig.compactChars = true := by
    decide +kernel
  obtain ⟨config, accepted, failed⟩ := Config.exists_parse_of_accepts ends
  obtain ⟨engine, fails, extracts⟩ := run_of_accepted accepted
  obtain ⟨-, action, after, during, before, found, kind, history, failing⟩ :=
    fails { ticketsExecutor with config } rfl deafWorld ⟨1⟩ listingOpened _
      (of_decide_eq_true failed)
  exact ⟨config, action, after, during, before, accepted, engine, found, kind.symm, history,
    failing, fun extraction member html => (extracts extraction member).1 _ html⟩

end GigListings
