import GigListings.Proofs.Engine.Pages
import GigListings.Proofs.Gig.Consistent
import GigListings.Proofs.Run.Makes
import GigListings.Proofs.Workflow.Beside

namespace GigListings

open Run

/-! What a scrape comes to once its workflow has been carried out: the gigs of its items if these
satisfy the site's rules, and else the first fault that the rules find. -/

namespace Engine

variable (engine : Engine) (world : World) (session : Session)

def normalizer : Normalizer where
  config := engine.config
  transforms := engine.transforms
  formats := engine.formats
  dates := engine.dates (Run.now.outcome world session).1
  now := engine.run.endMoment world session

/-- What comes of opening the page of a scrape. -/
def opening : Except PageFault Page × Session :=
  (Page.openNext engine.config.browser).outcome world session

/-- The workflow of a scrape is carried out with these items, on the page that was opened for it. -/
def Completes (items : List Item) : Prop :=
  ∃ page done, (engine.opening world session).1 = .ok page ∧
    (((engine.executor (engine.dates (Run.now.outcome world session).1)).run page).outcome world
      (engine.opening world session).2).1 = .ok done ∧ done.items = items

variable {engine world session}

theorem outcome_run_of_completes {items : List Item}
    (completes : engine.Completes world session items) :
    (engine.run.outcome world session).1 =
      ((engine.config.validation.check ((engine.normalizer world session).gigs items)).map
        fun _ => (engine.normalizer world session).gigs items).mapError .batch := by
  obtain ⟨page, done, opened, completed, rfl⟩ := completes
  have moment : engine.run.endMoment world session =
      (engine.conclude (engine.dates (Run.now.outcome world session).1) page (.ok done)).endMoment
        world (((engine.executor (engine.dates (Run.now.outcome world session).1)).run page).outcome
          world (engine.opening world session).2).2 := by
    rw [run_eq, Run.endMoment_bind, Run.endMoment_bind]
    change (engine.scrape _ (engine.opening world session).1).endMoment world
      (engine.opening world session).2 = _
    rw [opened, scrape, Run.endMoment_bind, completed]
  rw [run_eq, outcome_bind, outcome_bind]
  change ((engine.scrape _ (engine.opening world session).1).outcome world
    (engine.opening world session).2).1 = _
  rw [opened, scrape, outcome_bind, completed, outcome_conclude, ← moment]
  rfl

/-- A scrape whose workflow has been carried out gives the gigs of its dated items, in their order,
exactly if they are as many as the rules demand and say something at every required path. If they
are too few it says so; else it names the first gig that lacks something, and the first path at
which it does. More gigs than expected are no fault. Every gig is consistent. -/
theorem run_eq_ok_iff {items : List Item} (completes : engine.Completes world session items) :
    let rules := engine.config.validation
    let gigs := (engine.normalizer world session).gigs items
    let result := (engine.run.outcome world session).1
    (result = .ok gigs ↔ rules.Enough gigs.length ∧ ∀ gig ∈ gigs, rules.Met gig) ∧
    (¬rules.Enough gigs.length → ∃ least, rules.minEventsExpected = some least ∧
      gigs.length < least.toNat ∧ result = .error (.batch (.tooFew least.toNat gigs.length))) ∧
    (rules.Enough gigs.length → (¬∀ gig ∈ gigs, rules.Met gig) → ∃ gig path,
      rules.FirstLack gigs gig path ∧ result = .error (.batch (.missing gig.id path))) ∧
    (∀ most, (rules.withMost most).check gigs = rules.check gigs) ∧
    List.Forall₂ (fun item gig => (engine.normalizer world session).gig? item = some gig)
      (items.filter (engine.normalizer world session).isDated) gigs ∧
    ∀ gig ∈ gigs, gig.IsConsistent := by
  intro rules gigs result
  have settled : result = ((rules.check gigs).map fun _ => gigs).mapError .batch :=
    outcome_run_of_completes completes
  refine ⟨?_, fun few => ?_, fun enough unmet => ?_,
    fun most => rules.check_withMost most gigs, Normalizer.gigs_forall₂ _ items,
    fun gig member => ?_⟩
  · rw [← ValidationRules.check_eq_ok_iff, settled]
    cases rules.check gigs with
    | ok passed => exact iff_of_true rfl rfl
    | error fault => exact iff_of_false nofun nofun
  · obtain ⟨least, demanded, short, checked⟩ := ValidationRules.exists_check_of_not_enough few
    rw [checked] at settled
    exact ⟨least, demanded, short, settled⟩
  · obtain ⟨gig, path, lack, checked⟩ := ValidationRules.exists_checkGigs_of_not_met unmet
    rw [ValidationRules.check_of_enough enough, checked] at settled
    exact ⟨gig, path, lack, settled⟩
  · obtain ⟨item, -, made⟩ := List.mem_filterMap.mp member
    exact Normalizer.isConsistent_of_gig? made

/-! A listing of one dated concert and one that is still to be dated. -/

def datesWorld : World where
  browser :=
    { answer := fun _ _ call =>
        match call with
        | .openPage _ _ => .ok ()
        | .onPage _ call => stillPage "<li>2025-08-13</li><li>Soon</li>" call }
  clock := .steady 0

/-- Takes dates for starts, and demands titles without reading any. -/
def datesEngine : Engine :=
  { ticketsEngine with
    config := { ticketsEngine.config with
      workflow := [.navigate ⟨"/", none⟩, .extract
        { containerSelector := "li"
          fields := [("start", FieldRule.plain)]
          followUp := none
          dateGroups := none }]
      validation := ⟨some 1, none, ["dateStart", "title"]⟩ } }

def datesItems : List Item := [[("start", .single "2025-08-13")], [("start", .single "Soon")]]

theorem completes_datesEngine :
    datesEngine.Completes datesWorld (.start .empty) datesItems :=
  ⟨⟨1⟩, ⟨.completed, datesItems, true, .unopened⟩, rfl, by decide +kernel, rfl⟩

/-- The dated item gives a gig, which is refused for the title that it lacks. -/
theorem run_eq_ok_iff_datesEngine :
    datesEngine.Completes datesWorld (.start .empty) datesItems ∧
    ∃ gig path, gig ∈ (datesEngine.normalizer datesWorld (.start .empty)).gigs datesItems ∧
      ¬gig.Says path ∧ (datesEngine.run.outcome datesWorld (.start .empty)).1 =
        .error (.batch (.missing gig.id path)) := by
  have enough : datesEngine.config.validation.Enough
      ((datesEngine.normalizer datesWorld (.start .empty)).gigs datesItems).length := by
    rintro least ⟨⟩
    decide +kernel
  have refused : datesEngine.config.validation.check
      ((datesEngine.normalizer datesWorld (.start .empty)).gigs datesItems) ≠ .ok () := by
    decide +kernel
  obtain ⟨-, -, incomplete, -⟩ := run_eq_ok_iff completes_datesEngine
  obtain ⟨gig, path, lack, result⟩ := incomplete enough fun met =>
    refused (ValidationRules.check_eq_ok_iff.mpr ⟨enough, met⟩)
  obtain ⟨before, after, split, -⟩ := lack.firstGig
  refine ⟨completes_datesEngine, gig, path, ?_, lack.lacks, result⟩
  rw [split]
  exact List.mem_append_right before List.mem_cons_self

end Engine

/-! A scrape with other rules for its results and other captures. As long as the rules settle every
batch alike, it takes the same steps and comes to the same result, at another moment perhaps. -/

namespace Engine

variable (engine : Engine)

def refitted (rules : ValidationRules) (debug : DebugOptions) (folder : Option String) : Engine :=
  { engine with
    config := { engine.config with validation := rules, debug }
    captureFolder := folder }

def capture : Capture :=
  .ofOptions engine.config.site.source engine.config.debug engine.captureFolder

variable {rules : ValidationRules} {debug : DebugOptions} {folder : Option String}
  {first second : World} {related : Session → Session → Prop}

/-- Rules that settle every batch of the engine's gigs as its own rules do. -/
def SettlesAlike (rules : ValidationRules) : Prop :=
  ∀ dates now items,
    (engine.refitted rules engine.config.debug engine.captureFolder).settle dates now items =
      engine.settle dates now items

variable {engine}

theorem conclude_refitted (alike : engine.SettlesAlike rules) (dates : DateContext) (page : Page)
    (outcome : Except ActionFault Progress) :
    (engine.refitted rules debug folder).conclude dates page outcome =
      engine.conclude dates page outcome := by
  cases outcome with
  | error fault => rfl
  | ok done =>
      have settles (now : Instant) :
          (engine.refitted rules debug folder).settle dates now done.items =
            engine.settle dates now done.items := alike dates now done.items
      unfold conclude
      simp only [settles]

/-- The same result but for the moment of its update, which is the second run's own. -/
def UpdatedAtEnd (second : World) (a b : Except ScrapeFault (List Gig)) (t : Session) : Prop :=
  b = a.map (List.map (·.updated (Run.now.outcome second t).1))

theorem outcome_run (engine : Engine) (world : World) (session : Session) :
    engine.run.outcome world session =
      (Page.openNext engine.config.browser >>=
        engine.scrape (engine.dates (Run.now.outcome world session).1)).outcome world session := by
  have unmoved : (Run.now.outcome world session).2 = session := rfl
  rw [run_eq, outcome_bind, unmoved]

theorem dates_refitted (engine : Engine) (now : Instant) :
    (engine.refitted rules debug folder).dates now = engine.dates now := rfl

section Together

variable
  (keeps : KeepsRelated engine.capture (engine.refitted rules debug folder).capture first second
    related)
include keeps

theorem conclude_together (dates : DateContext) (page : Page)
    (outcome : Except ActionFault Progress) :
    Together first second related (engine.conclude dates page outcome)
      (engine.conclude dates page outcome) fun _ _ => related := by
  have closing : Together first second related (discard (page.call .close))
      (discard (page.call .close)) fun _ _ => related :=
    Together.discard ((keeps.call _ rfl).mono fun _ _ _ _ equally => equally.2)
  refine Together.bind closing fun _ _ => ?_
  cases outcome with
  | error fault => exact Together.pure fun _ _ after => after
  | ok done => exact fun s t after => after

theorem scrape_together (alike : engine.SettlesAlike rules) (dates : DateContext)
    (answer : Except PageFault Page) :
    Together first second related (engine.scrape dates answer)
      ((engine.refitted rules debug folder).scrape dates answer) fun a b s t =>
        related s t ∧ UpdatedAtEnd second a b t := by
  cases answer with
  | error fault => exact Together.pure fun _ _ before => ⟨before, rfl⟩
  | ok page =>
      have running := keeps.together
        (Beside.run (engine.executor dates) rules debug _ page)
      refine Together.bind running fun outcome other => ?_
      rintro s t ⟨rfl, after⟩
      rw [conclude_refitted alike]
      exact ⟨conclude_together keeps dates page outcome s t after,
        engine.conclude_updated dates page outcome first second s t⟩

theorem run_together (alike : engine.SettlesAlike rules) {s t : Session} (before : related s t)
    (sameDates : engine.dates (Run.now.outcome first s).1 =
      engine.dates (Run.now.outcome second t).1) :
    related (engine.run.outcome first s).2
        ((engine.refitted rules debug folder).run.outcome second t).2 ∧
      UpdatedAtEnd second (engine.run.outcome first s).1
        ((engine.refitted rules debug folder).run.outcome second t).1
        ((engine.refitted rules debug folder).run.outcome second t).2 := by
  have scraping (dates : DateContext) : Together first second related
      (Page.openNext engine.config.browser >>= engine.scrape dates)
      (Page.openNext engine.config.browser >>=
        (engine.refitted rules debug folder).scrape dates)
      fun a b s t => related s t ∧ UpdatedAtEnd second a b t := by
    refine Together.bind (keeps.openNext engine.config.browser) fun answer other => ?_
    rintro s t ⟨rfl, after⟩
    exact scrape_together keeps alike dates answer s t after
  rw [outcome_run, outcome_run, dates_refitted, ← sameDates]
  exact scraping _ s t before

end Together

end Engine

/-! Looking into failures does not show. Whatever an engine captures, and wherever to, its scrape
goes as it would without captures, but for the looks at pages that these take. -/

namespace Gig

theorem updated_updated (gig : Gig) (moment later : Instant) :
    (gig.updated moment).updated later = gig.updated later := rfl

end Gig

namespace Engine

variable (engine : Engine)

def debugging (debug : DebugOptions) (folder : Option String) : Engine :=
  engine.refitted engine.config.validation debug folder

def withoutCaptures : Engine := engine.debugging ⟨false, false, none⟩ none

theorem UpdatedAtEnd.trans {first second : World} {a b c : Except ScrapeFault (List Gig)}
    {s t : Session} (here : UpdatedAtEnd first a b s) (there : UpdatedAtEnd second a c t) :
    UpdatedAtEnd second b c t := by
  unfold UpdatedAtEnd at *
  rw [here, there]
  cases a with
  | error fault => rfl
  | ok gigs =>
      simp only [Except.map, List.map_map, Function.comp_def, Gig.updated_updated]

theorem settlesAlike_withoutCaptures :
    engine.withoutCaptures.SettlesAlike engine.config.validation := fun _ _ _ => rfl

theorem withoutCaptures_together {world : World} (unmoved : world.UnmovedByLooks) (start : Int)
    (debug : DebugOptions) (folder : Option String) (session : Session) (disk : Disk)
    (sameDates : engine.dates (Run.now.outcome world session).1 =
      engine.dates (Run.now.outcome (world.startingAt start) session).1) :
    InStep (engine.withoutCaptures.run.outcome world session).2
        ((engine.debugging debug folder).run.outcome (world.startingAt start)
          { session with disk }).2 ∧
      UpdatedAtEnd (world.startingAt start) (engine.withoutCaptures.run.outcome world session).1
        ((engine.debugging debug folder).run.outcome (world.startingAt start)
          { session with disk }).1
        ((engine.debugging debug folder).run.outcome (world.startingAt start)
          { session with disk }).2 :=
  run_together (InStep.keeps unmoved start rfl _) engine.settlesAlike_withoutCaptures
    (InStep.withDisk session disk) sameDates

/-- Two scrapes whose engines differ in their options for looking into failures and in the folders
for captures only, on any two disks: each makes the calls of a scrape without captures at the same
times, with further looks among them, and they fail in the same way or have the same gigs, but for
the moment at which they were updated. -/
theorem run_debugging_unseen {world : World} (unmoved : world.UnmovedByLooks) (start : Int)
    (debug : DebugOptions) (folder : Option String) (session : Session) (disk : Disk)
    (sameDates : engine.dates (Run.now.outcome world session).1 =
      engine.dates (Run.now.outcome (world.startingAt start) session).1) :
    WithLooks (engine.withoutCaptures.run.outcome world session).2.history
        (engine.run.outcome world session).2.history ∧
      WithLooks (engine.withoutCaptures.run.outcome world session).2.history
        ((engine.debugging debug folder).run.outcome (world.startingAt start)
          { session with disk }).2.history ∧
      ((engine.debugging debug folder).run.outcome (world.startingAt start)
          { session with disk }).1 =
        (engine.run.outcome world session).1.map (List.map
          (·.updated ((engine.debugging debug folder).run.endMoment (world.startingAt start)
            { session with disk }))) := by
  obtain ⟨here, hereUpdated⟩ := engine.withoutCaptures_together unmoved world.clock.start
    engine.config.debug engine.captureFolder session session.disk rfl
  obtain ⟨there, thereUpdated⟩ :=
    engine.withoutCaptures_together unmoved start debug folder session disk sameDates
  exact ⟨here.looks, there.looks, UpdatedAtEnd.trans hereUpdated thereUpdated⟩

/-! A listing whose pages load but show nothing. -/

def blankWorld : World where
  browser :=
    { answer := fun _ _ call =>
        match call with
        | .onPage _ .content => .error (.reported "no content")
        | .onPage _ .screenshot => .error (.reported "no picture")
        | .onPage _ call => stillPage "" call
        | .openPage _ _ => .ok () }
  clock := .steady 0

theorem unmovedByLooks_blankWorld : blankWorld.UnmovedByLooks where
  look := fun _ _ _ _ => rfl
  answer := fun _ _ _ _ _ _ => rfl
  callTime := fun _ _ _ _ _ => rfl
  sleepTime := fun _ _ _ _ _ => rfl

theorem run_debugging_unseen_blankWorld :
    (datesEngine.dates (Run.now.outcome blankWorld (.start .empty)).1 =
      datesEngine.dates (Run.now.outcome (blankWorld.startingAt 1000) (.start .empty)).1) ∧
    WithLooks (datesEngine.withoutCaptures.run.outcome blankWorld (.start .empty)).2.history
      ((datesEngine.debugging ⟨true, true, none⟩ (some "captures")).run.outcome
        (blankWorld.startingAt 1000) (.start .empty)).2.history ∧
    ((datesEngine.debugging ⟨true, true, none⟩ (some "captures")).run.outcome
        (blankWorld.startingAt 1000) (.start .empty)).1 =
      .error (.action ⟨1, .extract, .page (.reported "no content")⟩) := by
  have sameDates : datesEngine.dates (Run.now.outcome blankWorld (.start .empty)).1 =
      datesEngine.dates (Run.now.outcome (blankWorld.startingAt 1000) (.start .empty)).1 := by
    have today : (Instant.ofMillis 0).utc.date = (Instant.ofMillis 1000).utc.date := by
      decide +kernel
    exact congrArg (fun today => DateContext.mk today none) today
  obtain ⟨-, looks, same⟩ := run_debugging_unseen datesEngine unmovedByLooks_blankWorld 1000
    ⟨true, true, none⟩ (some "captures") (.start .empty) .empty sameDates
  refine ⟨sameDates, looks, same.trans ?_⟩
  have fails : (datesEngine.run.outcome blankWorld (.start .empty)).1 =
      .error (.action ⟨1, .extract, .page (.reported "no content")⟩) := by decide +kernel
  rw [fails]
  rfl

end Engine

end GigListings
