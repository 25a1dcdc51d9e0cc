import GigListings.Proofs.Run.Makes
import GigListings.Proofs.Workflow.Visits

namespace GigListings

/-! What every action does on the listing, told by the calls that it makes: how it is carried
out, and how it fails. -/

/-- Calls on a page for what it shows. -/
def CapturesOnly (page : Page) (events : List Event) : Prop :=
  ∀ event ∈ events,
    event.call = .onPage page.number .content ∨ event.call = .onPage page.number .screenshot

theorem CapturesOnly.nil (page : Page) : CapturesOnly page [] := by
  intro event member
  cases member

theorem CapturesOnly.append {page : Page} {late early : List Event}
    (lateOnly : CapturesOnly page late)
    (earlyOnly : CapturesOnly page early) : CapturesOnly page (late ++ early) := by
  intro event member
  rcases List.mem_append.mp member with isLate | isEarly
  · exact lateOnly event isLate
  · exact earlyOnly event isEarly

/-- Nothing is picked out of captures that does not heed looks at a page. -/
theorem CapturesOnly.filterMap_eq_nil {page : Page} {events : List Event}
    (captures : CapturesOnly page events) {pick : Event → Option α}
    (content : ∀ time answer, pick ⟨time, .onPage page.number .content, answer⟩ = none)
    (screenshot : ∀ time answer, pick ⟨time, .onPage page.number .screenshot, answer⟩ = none) :
    events.filterMap pick = [] := by
  refine List.filterMap_eq_nil_iff.mpr ?_
  rintro ⟨time, call, answer⟩ member
  rcases captures _ member with isContent | isScreenshot
  · cases isContent
    exact content time answer
  · cases isScreenshot
    exact screenshot time answer

/-- Looks for a selector, none of which found what is waited for. -/
def Unmet (page : Page) (selector : String) (condition : WaitCondition) (events : List Event) :
    Prop :=
  ∀ event ∈ events, ∃ time state,
    event = ⟨time, .onPage page.number (.state selector), .ok state⟩ ∧
      condition.holds state = false

theorem Unmet.nil (page : Page) (selector : String) (condition : WaitCondition) :
    Unmet page selector condition [] := by
  intro event member
  cases member

theorem Unmet.snoc {page : Page} {selector : String} {condition : WaitCondition}
    {events : List Event} (unmet : Unmet page selector condition events) {state : SelectorState}
    (fails : condition.holds state = false) (time : Nat) :
    Unmet page selector condition
      (events ++ [⟨time, .onPage page.number (.state selector), .ok state⟩]) := by
  intro event member
  rcases List.mem_append.mp member with before | last
  · exact unmet event before
  · exact ⟨time, state, List.mem_singleton.mp last, fails⟩

def WaitAction.LooksFor (action : WaitAction) (selector : String) : Prop :=
  action.selector = some selector ∧ action.condition ≠ .networkIdle

def WaitAction.Idles (action : WaitAction) : Prop :=
  action.selector = none ∨ action.condition = .networkIdle

namespace Executor

def patience (executor : Executor) (action : WaitAction) : Nat :=
  (action.timeout.getD executor.config.browser.timeout).toNat

end Executor

/-- An action that was carried out: the calls that it made, the latest first, and what was
extracted. -/
structure Stage where
  action : Action
  events : List Event
  completions : List Completion

def Stage.items (stage : Stage) : List Item := stage.completions.map (·.item)

namespace Executor

/-- How an action is carried out. -/
inductive Carried (executor : Executor) (page : Page) (known : Nat) (before : Progress) :
    Stage → Progress → Prop where
  | loaded {action : NavigateAction} {time : Nat} :
      Carried executor page known before
        ⟨.navigate action, [⟨time, .onPage page.number
          (.goto (executor.target action) (action.waitForLoad.getD true)), .ok ()⟩], []⟩
        { before with navigated := true }
  | clicked {action : ClickAction} {time : Nat} :
      Carried executor page known before
        ⟨.click action, [⟨time, .onPage page.number (.click action.selector), .ok ()⟩], []⟩ before
  | passedOver {action : ClickAction} {time : Nat} {fault : PageFault}
      (optional : action.optional = true) :
      Carried executor page known before
        ⟨.click action, [⟨time, .onPage page.number (.click action.selector), .error fault⟩], []⟩
        before
  | scrolled {action : ScrollAction} {time : Nat} :
      Carried executor page known before
        ⟨.scroll action, [⟨time, .onPage page.number
          (.scroll action.direction (action.amount.getD defaultScroll)), .ok ()⟩], []⟩ before
  | idled {action : WaitAction} {time : Nat} (idles : action.Idles) :
      Carried executor page known before
        ⟨.wait action, [⟨time, .onPage page.number (.idle (executor.patience action)), .ok ()⟩], []⟩
        before
  | met {action : WaitAction} {selector : String} {time : Nat} {state : SelectorState}
      {looked : List Event} (looksFor : action.LooksFor selector)
      (unmet : Unmet page selector action.condition looked)
      (holds : action.condition.holds state = true) :
      Carried executor page known before
        ⟨.wait action, ⟨time, .onPage page.number (.state selector), .ok state⟩ :: looked, []⟩
        before
  | recovered {action : WaitAction} {selector : String} {time : Nat} {state : SelectorState}
      {captured looked : List Event} (looksFor : action.LooksFor selector)
      (forVisible : action.condition = .visible)
      (unmet : Unmet page selector action.condition looked) (captures : CapturesOnly page captured)
      (present : state.isPresent = true) :
      Carried executor page known before
        ⟨.wait action,
          ⟨time, .onPage page.number (.state selector), .ok state⟩ :: (captured ++ looked), []⟩
        before
  | extracted {action : ExtractAction} {time : Nat} {html : String} {visits : List Event}
      {completions : List Completion} {followUps : FollowUpPage}
      (navigated : before.navigated = true)
      (read : executor.extractor.extractPage action html =
        .ok (completions.map (·.extracted)))
      (completed : CompletedAll executor known before.followUpPage completions visits followUps) :
      Carried executor page known before
        ⟨.extract action, visits ++ [⟨time, .onPage page.number .content, .ok html⟩], completions⟩
        { before with
          items := before.items ++ completions.map (·.item), followUpPage := followUps }

/-- How an action fails, with the calls that it made and the cause. -/
inductive Fails (executor : Executor) (page : Page) (before : Progress) :
    Action → List Event → StepFault → Prop where
  | notLoaded {action : NavigateAction} {time : Nat} {fault : PageFault} {captured : List Event}
      (captures : CapturesOnly page captured) :
      Fails executor page before (.navigate action)
        (captured ++ [⟨time, .onPage page.number
          (.goto (executor.target action) (action.waitForLoad.getD true)), .error fault⟩])
        (.notLoaded (executor.target action) fault)
  | notClicked {action : ClickAction} {time : Nat} {fault : PageFault} {captured : List Event}
      (required : action.optional = false) (captures : CapturesOnly page captured) :
      Fails executor page before (.click action)
        (captured ++ [⟨time, .onPage page.number (.click action.selector), .error fault⟩])
        (.page fault)
  | notScrolled {action : ScrollAction} {time : Nat} {fault : PageFault} {captured : List Event}
      (captures : CapturesOnly page captured) :
      Fails executor page before (.scroll action)
        (captured ++ [⟨time, .onPage page.number
          (.scroll action.direction (action.amount.getD defaultScroll)), .error fault⟩])
        (.page fault)
  | notIdle {action : WaitAction} {time : Nat} {fault : PageFault} {captured : List Event}
      (idles : action.Idles) (captures : CapturesOnly page captured) :
      Fails executor page before (.wait action)
        (captured ++
          [⟨time, .onPage page.number (.idle (executor.patience action)), .error fault⟩])
        (.page fault)
  | lookFailed {action : WaitAction} {selector : String} {time : Nat} {fault : PageFault}
      {captured looked : List Event} (looksFor : action.LooksFor selector)
      (unmet : Unmet page selector action.condition looked)
      (captures : CapturesOnly page captured) :
      Fails executor page before (.wait action)
        (captured ++ ⟨time, .onPage page.number (.state selector), .error fault⟩ :: looked)
        (.page fault)
  | stillVisible {action : WaitAction} {selector : String} {captured looked : List Event}
      (looksFor : action.LooksFor selector) (forHidden : action.condition ≠ .visible)
      (unmet : Unmet page selector action.condition looked) (nonempty : looked ≠ [])
      (captures : CapturesOnly page captured) :
      Fails executor page before (.wait action) (captured ++ looked)
        (.stillVisible selector (executor.patience action))
  | notRecovered {action : WaitAction} {selector : String} {time : Nat} {fault : PageFault}
      {captured capturedBefore looked : List Event} (looksFor : action.LooksFor selector)
      (forVisible : action.condition = .visible)
      (unmet : Unmet page selector action.condition looked) (captures : CapturesOnly page captured)
      (capturesBefore : CapturesOnly page capturedBefore) :
      Fails executor page before (.wait action)
        (captured ++ ⟨time, .onPage page.number (.state selector), .error fault⟩ ::
          (capturedBefore ++ looked))
        (.page fault)
  | didNotAppear {action : WaitAction} {selector : String} {time : Nat}
      {captured capturedBefore looked : List Event} (looksFor : action.LooksFor selector)
      (forVisible : action.condition = .visible)
      (unmet : Unmet page selector action.condition looked) (captures : CapturesOnly page captured)
      (capturesBefore : CapturesOnly page capturedBefore) :
      Fails executor page before (.wait action)
        (captured ++ ⟨time, .onPage page.number (.state selector), .ok .absent⟩ ::
          (capturedBefore ++ looked))
        (.didNotAppear selector (executor.patience action))
  | notNavigated {action : ExtractAction} (notYet : before.navigated = false) :
      Fails executor page before (.extract action) [] .notNavigated
  | unread {action : ExtractAction} {time : Nat} {fault : PageFault} {captured : List Event}
      (navigated : before.navigated = true) (captures : CapturesOnly page captured) :
      Fails executor page before (.extract action)
        (captured ++ [⟨time, .onPage page.number .content, .error fault⟩]) (.page fault)
  | malformed {action : ExtractAction} {time : Nat} {html : String} {fault : Css.SelectorFault}
      (navigated : before.navigated = true)
      (read : executor.extractor.extractPage action html = .error fault) :
      Fails executor page before (.extract action)
        [⟨time, .onPage page.number .content, .ok html⟩] (.selector fault)

variable {executor : Executor} {page : Page} {known : Nat} {before after : Progress}
  {stage : Stage}

theorem Carried.items (carried : executor.Carried page known before stage after) :
    after.items = before.items ++ stage.items := by
  cases carried <;> simp [Stage.items]

/-- An action without an extraction leaves everything but navigations as it is. -/
def Stepped (executor : Executor) (page : Page) (known : Nat) (before : Progress)
    (action : Action) (after : Progress) : Except StepFault Unit → List Event → Prop
  | .ok (), events => executor.Carried page known before ⟨action, events, []⟩ after
  | .error cause, events => executor.Fails page before action events cause

def Performed (executor : Executor) (page : Page) (known : Nat) (before : Progress)
    (action : Action) : Except StepFault Progress → List Event → Prop
  | .ok after, events =>
      ∃ completions, executor.Carried page known before ⟨action, events, completions⟩ after
  | .error cause, events => executor.Fails page before action events cause

end Executor

/-! Every action of a run goes so. -/

namespace Yields

variable {known : Nat} {world : World} {page : Page}

/-- A run that takes what the page shows and makes no other call. -/
def CapturesOnly (known : Nat) (world : World) (page : Page) (step : Run α) : Prop :=
  Yields known world step fun _ events => GigListings.CapturesOnly page events

theorem Silent.captures {step : Run α} (silent : Silent known world step) :
    CapturesOnly known world page step :=
  silent.mono fun _ events none => by
    rw [none]
    exact .nil page

theorem CapturesOnly.pure (a : α) : CapturesOnly known world page (Pure.pure a) :=
  Yields.pure (.nil page)

theorem CapturesOnly.bind {step : Run α} {next : α → Run β}
    (start : CapturesOnly known world page step)
    (rest : ∀ a, CapturesOnly known world page (next a)) :
    CapturesOnly known world page (step >>= next) :=
  Yields.bind start fun a _ earlyOnly => (rest a).mono fun _ _ lateOnly => lateOnly.append earlyOnly

theorem CapturesOnly.look {call : PageCall} (isLook : call.isLook = true) :
    CapturesOnly known world page (page.call call) := by
  refine (Yields.call _).mono ?_
  rintro answer _ ⟨time, rfl⟩ event member
  rw [List.mem_singleton.mp member]
  cases call with
  | content => exact .inl rfl
  | screenshot => exact .inr rfl
  | _ => cases isLook

theorem CapturesOnly.of_inspects {step : Run α} (inspects : Run.Inspects page step) :
    CapturesOnly known world page step := by
  induction inspects with
  | pure a => exact CapturesOnly.pure a
  | bind _ _ start rest => exact CapturesOnly.bind start rest
  | look isLook => exact CapturesOnly.look isLook
  | now => exact Yields.now.captures
  | makeFolders path => exact (Yields.makeFolders path).captures
  | writeFile path text => exact (Yields.writeFile path text).captures

theorem take (capture : Capture) (stage action : String) (selector : Option String) :
    CapturesOnly known world page (capture.take page stage action selector) :=
  .of_inspects (Run.Inspects.take capture page stage action selector)

theorem fail (executor : Executor) (kind : Action.Kind) (selector : Option String)
    (cause : StepFault) :
    Yields known world (executor.fail kind selector page cause : Run (Except StepFault α))
      fun result events => result = .error cause ∧ GigListings.CapturesOnly page events :=
  Yields.bind (Yields.discard (take executor.capture _ _ _)) fun _ _ captures =>
    Yields.pure ⟨rfl, captures⟩

theorem pause (millis : Option UInt64) : Silent known world (Executor.pause millis) := by
  cases millis with
  | none => exact Yields.pure rfl
  | some millis => exact sleep _

variable (executor : Executor) {before : Progress}

theorem navigate (action : NavigateAction) :
    Yields known world (executor.navigate action page)
      (executor.Stepped page known before (.navigate action)
        { before with navigated := true }) := by
  refine Yields.bind (call _) ?_
  rintro answer _ ⟨time, rfl⟩
  cases answer with
  | ok _ => exact Yields.pure .loaded
  | error fault =>
      refine (fail executor _ _ _).mono ?_
      rintro _ late ⟨rfl, captures⟩
      exact .notLoaded captures

theorem click (action : ClickAction) :
    Yields known world (executor.click action page)
      (executor.Stepped page known before (.click action) before) := by
  refine Yields.bind (call _) ?_
  rintro answer _ ⟨time, rfl⟩
  cases answer with
  | ok _ => exact after_silent (pause _) fun _ => Yields.pure .clicked
  | error fault =>
      dsimp only
      split
      · rename_i optional
        exact Yields.pure (.passedOver optional)
      · rename_i required
        refine (fail executor _ _ _).mono ?_
        rintro _ late ⟨rfl, captures⟩
        exact .notClicked (Bool.not_eq_true _ ▸ required) captures

theorem scroll (action : ScrollAction) :
    Yields known world (executor.scroll action page)
      (executor.Stepped page known before (.scroll action) before) := by
  refine Yields.bind (call _) ?_
  rintro answer _ ⟨time, rfl⟩
  cases answer with
  | ok _ => exact after_silent (pause _) fun _ => Yields.pure .scrolled
  | error fault =>
      refine (fail executor _ _ _).mono ?_
      rintro _ late ⟨rfl, captures⟩
      exact .notScrolled captures

/-! Waiting. -/

/-- What polling a page comes to. -/
def Polled (page : Page) (selector : String) (condition : WaitCondition) (looks : Bool) :
    Except PageFault Bool → List Event → Prop
  | .error fault, events => ∃ time looked, Unmet page selector condition looked ∧
      events = ⟨time, .onPage page.number (.state selector), .error fault⟩ :: looked
  | .ok true, events => ∃ time state looked, Unmet page selector condition looked ∧
      condition.holds state = true ∧
      events = ⟨time, .onPage page.number (.state selector), .ok state⟩ :: looked
  | .ok false, events => Unmet page selector condition events ∧ (looks = true → events ≠ [])

theorem poll (selector : String) (condition : WaitCondition) (deadline looks : Nat) :
    Yields known world (page.poll selector condition deadline looks)
      (Polled page selector condition (0 < looks)) := by
  induction looks with
  | zero => exact Yields.pure ⟨.nil _ _ _, by simp⟩
  | succ looks induction =>
      refine Yields.bind (call _) ?_
      rintro answer _ ⟨time, rfl⟩
      cases answer with
      | error fault => exact Yields.pure ⟨time, [], .nil _ _ _, rfl⟩
      | ok state =>
          dsimp only
          split
          · rename_i holds
            exact Yields.pure ⟨time, state, [], .nil _ _ _, holds, rfl⟩
          · rename_i unmet
            rw [Bool.not_eq_true] at unmet
            refine after_silent Yields.time fun now => ?_
            split
            · exact Yields.pure ⟨(Unmet.nil _ _ _).snoc unmet time, by simp⟩
            · refine after_silent (sleep _) fun _ => ?_
              refine induction.mono fun result late polled => ?_
              match result, polled with
              | .error fault, ⟨failed, looked, others, isLate⟩ =>
                  exact ⟨failed, _, others.snoc unmet time, by rw [isLate]; rfl⟩
              | .ok true, ⟨seen, found, looked, others, holds, isLate⟩ =>
                  exact ⟨seen, found, _, others.snoc unmet time, holds, by rw [isLate]; rfl⟩
              | .ok false, ⟨others, _⟩ => exact ⟨others.snoc unmet time, by simp⟩

theorem waitFor (selector : String) (condition : WaitCondition) (millis : Nat) :
    Yields known world (page.waitFor selector condition millis)
      (Polled page selector condition true) := by
  refine after_silent Yields.time fun now => ?_
  have looks : decide (0 < millis / pollInterval + 2) = true := by simp
  refine (poll selector condition _ (millis / pollInterval + 2)).mono fun result events polled => ?_
  rw [looks] at polled
  exact polled

theorem waitForIdle {action : WaitAction} (idles : action.Idles) (selector : Option String) :
    Yields known world (executor.waitForIdle selector (executor.patience action) page)
      (executor.Stepped page known before (.wait action) before) := by
  refine Yields.bind (call _) ?_
  rintro answer _ ⟨time, rfl⟩
  cases answer with
  | ok _ => exact Yields.pure (.idled idles)
  | error fault =>
      refine (fail executor _ _ _).mono ?_
      rintro _ late ⟨rfl, captures⟩
      exact .notIdle idles captures

theorem recover {action : WaitAction} {selector : String} (looksFor : action.LooksFor selector)
    (forVisible : action.condition = .visible) {looked : List Event}
    (unmet : Unmet page selector action.condition looked) :
    Yields known world (executor.recover selector (executor.patience action) page)
      fun result late =>
        executor.Stepped page known before (.wait action) before result (late ++ looked) := by
  refine Yields.bind (Yields.discard (take executor.capture _ _ _)) fun _ early capturesBefore => ?_
  refine after_silent (sleep _) fun _ => ?_
  refine Yields.bind (call _) ?_
  rintro answer _ ⟨time, rfl⟩
  cases answer with
  | error fault =>
      refine (fail executor _ _ _).mono ?_
      rintro _ late ⟨rfl, captures⟩
      simp only [List.append_assoc, List.cons_append, List.nil_append]
      exact .notRecovered looksFor forVisible unmet captures capturesBefore
  | ok state =>
      dsimp only
      split
      · rename_i present
        exact Yields.pure (.recovered looksFor forVisible unmet capturesBefore present)
      · rename_i missing
        have isAbsent : state = .absent := by simpa [SelectorState.isPresent] using missing
        subst isAbsent
        refine Yields.bind (Yields.discard (take executor.capture _ _ _)) fun _ late captures => ?_
        refine Yields.pure ?_
        simp only [List.append_assoc, List.cons_append, List.nil_append]
        exact .didNotAppear looksFor forVisible unmet captures capturesBefore

theorem waitForSelector {action : WaitAction} {selector : String}
    (looksFor : action.LooksFor selector) :
    Yields known world
      (executor.waitForSelector selector action.condition (executor.patience action) page)
      (executor.Stepped page known before (.wait action) before) := by
  refine Yields.bind (waitFor selector action.condition _) fun result early polled => ?_
  match result, polled with
  | .error fault, ⟨time, looked, unmet, isEarly⟩ =>
      subst isEarly
      refine (fail executor _ _ _).mono ?_
      rintro _ late ⟨rfl, captures⟩
      exact .lookFailed looksFor unmet captures
  | .ok true, ⟨time, state, looked, unmet, holds, isEarly⟩ =>
      subst isEarly
      exact Yields.pure (.met looksFor unmet holds)
  | .ok false, ⟨unmet, nonempty⟩ =>
      dsimp only
      split
      · rename_i forVisible
        exact recover executor looksFor forVisible unmet
      · rename_i forHidden
        refine (fail executor _ _ _).mono ?_
        rintro _ late ⟨rfl, captures⟩
        exact .stillVisible looksFor forHidden unmet (nonempty rfl) captures

theorem wait (action : WaitAction) :
    Yields known world (executor.wait action page)
      (executor.Stepped page known before (.wait action) before) := by
  unfold Executor.wait
  cases waits : action.selector with
  | none => exact waitForIdle executor (.inl waits) _
  | some selector =>
      dsimp only
      split
      · rename_i idle
        exact waitForIdle executor (.inr idle) _
      · rename_i other
        exact waitForSelector executor ⟨waits, other⟩

/-! Actions. -/

theorem keeping {action : Action} {after : Progress} {step : Run (Except StepFault Unit)}
    (yields : Yields known world step (executor.Stepped page known before action after)) :
    Yields known world (Executor.keeping after step)
      (executor.Performed page known before action) := by
  refine Yields.bind yields fun result events stepped => ?_
  cases result with
  | ok _ => exact Yields.pure ⟨[], stepped⟩
  | error cause => exact Yields.pure stepped

theorem extract (action : ExtractAction) :
    Yields known world (executor.extract action page before)
      (executor.Performed page known before (.extract action)) := by
  unfold Executor.extract
  cases navigated : before.navigated with
  | false => exact Yields.pure (.notNavigated navigated)
  | true =>
      refine Yields.bind (call _) ?_
      rintro answer _ ⟨time, rfl⟩
      cases answer with
      | error fault =>
          refine (fail executor _ _ _).mono ?_
          rintro _ late ⟨rfl, captures⟩
          exact .unread navigated captures
      | ok html =>
          dsimp only
          split
          · rename_i fault read
            exact Yields.pure (.malformed navigated read)
          · rename_i found read
            refine Yields.bind (completeAll executor before found) ?_
            rintro _ visits ⟨completions, followUps, rfl, completed, rfl⟩
            exact Yields.pure ⟨completions, .extracted navigated read completed⟩

theorem perform (action : Action) :
    Yields known world (executor.perform action page before)
      (executor.Performed page known before action) := by
  cases action with
  | navigate action => exact keeping executor (navigate executor action)
  | wait action => exact keeping executor (wait executor action)
  | click action => exact keeping executor (click executor action)
  | scroll action => exact keeping executor (scroll executor action)
  | extract action => exact extract executor action

end Yields

end GigListings
