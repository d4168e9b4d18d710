import BrowserScenario.Proofs.Run.Capture
import BrowserScenario.Proofs.Run.Refinement
import BrowserScenario.Proofs.Scenario.Fieldwise

/-!
# Logs of runs

What a run tells follows its course: that it starts, each click that a class suppresses, that it
passed, or that it failed and what became of the picture. All else that a run does is quiet. Main
statement: the log of every run is given event by event by how its parts end, so the run ends
without a failure exactly when the last event says that it passed.
-/

namespace BrowserScenario

variable {σ α β : Type}

/-- The event of a click that a class suppresses. -/
def skippedClick (click : String × String) : Event :=
  .skipped click.1 click.2

/-- The click that a step is, with its selector and its suppressing class, if the browser tells this
class in the state in which the step is performed. -/
def Step.suppressed? (browser : Browser σ) (state : σ) : Step → Option (String × String)
  | .click selector skipClass =>
    match filled? selector, filled? skipClass with
    | some selector, some skipClass =>
      match (browser.classList selector state).1 with
      | .ok classes => if classes.contains skipClass then some (selector, skipClass) else none
      | .error _ => none
    | _, _ => none
  | _ => none

/-- The clicks that classes suppress, in the order in which the steps are performed from a world up
to the first failure. -/
def suppressedClicks (browser : Browser σ) : List Step → World σ → List (String × String)
  | [], _ => []
  | step :: rest, world =>
    (step.suppressed? browser world.browser).toList ++
      match (step.perform browser).outcome world with
      | (.ok _, after) => suppressedClicks browser rest after
      | (.error _, _) => []

/-- The clicks of a resolved scenario that classes suppress once its address was visited. -/
def Scenario.suppressedClicks (browser : Browser σ) (scenario : Scenario) (world : World σ) :
    List (String × String) :=
  match (Run.interact browser (.navigate scenario.url)).outcome world with
  | (.ok _, after) => BrowserScenario.suppressedClicks browser scenario.steps after
  | (.error _, _) => []

/-- What is told of the picture of a failure: that none is taken of a closed page, where it is once
it was taken, and nothing if the page does not answer, the directory cannot be made or the picture
cannot be taken. -/
def pictureEvents (browser : Browser σ) (setting : Setting) (id : String) (world : World σ) :
    List Event :=
  match browser.isClosed world.browser with
  | (.error _, _) => []
  | (.ok true, _) => [.notCaptured id]
  | (.ok false, state) =>
    match world.tree.ensureDirectories setting.pictureDirectory with
    | (_, some _) => []
    | (tree, none) =>
      match (browser.screenshot (setting.picturePath id) true (state, tree)).1 with
      | .error _ => []
      | .ok _ => [.captured id (setting.picturePath id)]

/-- A run that tells nothing. -/
def Quiet (run : Run σ α) : Prop :=
  ∀ world, (run.outcome world).2.events = world.events

namespace Quiet

/-- A value that is given at once tells nothing. -/
theorem pure (value : α) : Quiet (Pure.pure value : Run σ α) := fun _ => rfl

/-- A refusal tells nothing. -/
theorem reject (rejection : Rejection) : Quiet (Run.reject rejection : Run σ α) := fun _ => rfl

/-- A call to the browser tells nothing. -/
theorem call (noted : Call) (attempt : Attempt σ α) : Quiet (Run.call noted attempt) := fun _ => rfl

/-- What goes on quietly adds nothing to what was told before. -/
theorem events_bind {first : Run σ α} {next : α → Run σ β} (hnext : ∀ value, Quiet (next value))
    (world : World σ) :
    ((first >>= next).outcome world).2.events = (first.outcome world).2.events := by
  rcases hrun : first.outcome world with ⟨failure | value, after⟩
  · rw [Run.outcome_bind_of_error hrun]
  · rw [Run.outcome_bind_of_ok hrun]
    exact hnext value after

/-- A sequence of quiet runs is quiet. -/
theorem bind {first : Run σ α} {next : α → Run σ β} (hfirst : Quiet first)
    (hnext : ∀ value, Quiet (next value)) : Quiet (first >>= next) :=
  fun world => (events_bind hnext world).trans (hfirst world)

/-- Quiet runs one after the other are quiet. -/
theorem forM {perform : β → Run σ Unit} (h : ∀ item, Quiet (perform item)) (items : List β) :
    Quiet (items.forM perform) := by
  induction items with
  | nil => exact pure ()
  | cons item rest ih => exact (h item).bind fun _ => ih

/-- A selector that is needed is asked for quietly. -/
theorem neededSelector (action : String) (field : Option String) :
    Quiet (neededSelector action field : Run σ String) := by
  unfold BrowserScenario.neededSelector
  cases filled? field with
  | some text => exact pure text
  | none => exact reject _

/-- A part that is needed is asked for quietly. -/
theorem neededPart (part : NeededPart) (kind : String) (field : Option String) :
    Quiet (neededPart part kind field : Run σ String) := by
  unfold BrowserScenario.neededPart
  cases filled? field with
  | some text => exact pure text
  | none => exact reject _

/-- A field that may be missing is passed over quietly. -/
theorem passingOver {next : String → Run σ Unit} (field : Option String)
    (h : ∀ text, Quiet (next text)) : Quiet (Run.passingOver field next) := by
  unfold Run.passingOver
  cases filled? field with
  | some text => exact h text
  | none => exact pure ()

/-- A number is read quietly. -/
theorem ofExcept (value : Except Rejection α) : Quiet (Run.ofExcept value : Run σ α) := by
  cases value with
  | ok value => exact pure value
  | error rejection => exact reject rejection

end Quiet

section Performed

variable (browser : Browser σ)

/-- Expectations are checked quietly. -/
theorem Expectation.quiet_perform (expectation : Expectation) :
    Quiet (expectation.perform browser) := by
  cases expectation with
  | url value => exact .call _ _
  | text selector value =>
    exact (Quiet.neededPart _ _ selector).bind fun _ =>
      (Quiet.neededPart _ _ value).bind fun _ => .call _ _
  | notText selector value =>
    exact (Quiet.neededPart _ _ selector).bind fun _ =>
      (Quiet.neededPart _ _ value).bind fun _ => .call _ _
  | visible selector => exact .passingOver selector fun _ => .call _ _
  | hidden selector => exact .passingOver selector fun _ => .call _ _
  | hasAttribute selector name value =>
    rw [Expectation.perform_hasAttribute]
    exact .passingOver selector fun _ => .passingOver name fun _ => .call _ _
  | count selector value =>
    exact .passingOver selector fun _ => (Quiet.ofExcept _).bind fun _ => .call _ _

/-- A click tells that it is suppressed, if it is. -/
theorem events_perform_click (selector skipClass : Option String) (world : World σ) :
    (((Step.click selector skipClass).perform browser).outcome world).2.events =
      world.events ++ (((Step.click selector skipClass).suppressed? browser
        world.browser).map skippedClick).toList := by
  simp only [Step.perform, Step.suppressed?, neededSelector, performClick]
  cases filled? selector with
  | none => exact (List.append_nil _).symm
  | some element =>
    cases filled? skipClass with
    | none => exact (List.append_nil _).symm
    | some word =>
      change ((Run.classList browser element >>= fun classes =>
        if classes.contains word then Run.tell (.skipped element word)
        else Run.interact browser (.click element)).outcome world).2.events = _
      rcases htold : browser.classList element world.browser with ⟨incident | classes, state⟩
      · rw [Run.outcome_bind_of_error (Run.outcome_classList htold)]
        simp only [htold]
        exact (List.append_nil _).symm
      · rw [Run.outcome_bind_of_ok (Run.outcome_classList htold)]
        by_cases hskip : classes.contains word = true
        · simp only [htold, if_pos hskip]
          rfl
        · simp only [htold, if_neg hskip]
          exact (List.append_nil _).symm

/-- A step tells that it is suppressed, if it is, and nothing else. -/
theorem Step.events_perform (step : Step) (world : World σ) :
    ((step.perform browser).outcome world).2.events =
      world.events ++ ((step.suppressed? browser world.browser).map skippedClick).toList := by
  have hquiet : ∀ run : Run σ Unit, Quiet run → (run.outcome world).2.events = world.events ++ [] := by
    intro run hrun
    rw [hrun world, List.append_nil]
  have hneeding : ∀ action selector (next : String → Run σ Unit), (∀ text, Quiet (next text)) →
      ((neededSelector action selector >>= next).outcome world).2.events = world.events ++ [] :=
    fun action selector next hnext => hquiet _ ((Quiet.neededSelector action selector).bind hnext)
  cases step with
  | click selector skipClass => exact events_perform_click browser selector skipClass world
  | fill selector value => exact hneeding _ selector _ fun _ => .call _ _
  | type selector value delay => exact hneeding _ selector _ fun _ => .call _ _
  | select selector value => exact hneeding _ selector _ fun _ => .call _ _
  | check selector => exact hneeding _ selector _ fun _ => .call _ _
  | uncheck selector => exact hneeding _ selector _ fun _ => .call _ _
  | hover selector => exact hneeding _ selector _ fun _ => .call _ _
  | wait value => exact hquiet _ ((Quiet.ofExcept _).bind fun _ => .call _ _)

/-- Steps tell the clicks that are suppressed, in order. -/
theorem events_forM_steps (steps : List Step) (world : World σ) :
    ((steps.forM (Step.perform browser)).outcome world).2.events =
      world.events ++ (suppressedClicks browser steps world).map skippedClick := by
  induction steps generalizing world with
  | nil => exact (List.append_nil _).symm
  | cons step rest ih =>
    have hstep := step.events_perform browser world
    change ((step.perform browser >>= fun _ => rest.forM (Step.perform browser)).outcome
      world).2.events = _
    rw [suppressedClicks, List.map_append, ← List.append_assoc, ← Option.toList_map]
    rcases hrun : (step.perform browser).outcome world with ⟨failure | _, after⟩
    · rw [hrun] at hstep
      rw [Run.outcome_bind_of_error hrun]
      simp only [List.map_nil, List.append_nil]
      exact hstep
    · rw [hrun] at hstep
      rw [Run.outcome_bind_of_ok hrun, ih]
      exact congrArg (· ++ _) hstep

/-- The performance of a scenario tells the clicks that are suppressed, and nothing else. -/
theorem Scenario.events_perform (scenario : Scenario) (world : World σ) :
    ((scenario.perform browser).outcome world).2.events =
      world.events ++ (scenario.suppressedClicks browser world).map skippedClick := by
  have hchecks : Quiet (scenario.expectations.forM (Expectation.perform browser)) :=
    .forM (Expectation.quiet_perform browser) scenario.expectations
  unfold Scenario.perform Scenario.suppressedClicks
  have hvisit : ((Run.interact browser (.navigate scenario.url)).outcome world).2.events =
      world.events := rfl
  rcases hrun : (Run.interact browser (.navigate scenario.url)).outcome world with
    ⟨failure | _, after⟩
  · rw [hrun] at hvisit
    rw [Run.outcome_bind_of_error hrun]
    exact hvisit.trans (List.append_nil _).symm
  · rw [hrun] at hvisit
    rw [Run.outcome_bind_of_ok hrun, Quiet.events_bind fun _ => hchecks]
    exact (events_forM_steps browser scenario.steps after).trans (congrArg (· ++ _) hvisit)

/-- A diagnosis tells what became of the picture, and nothing else. -/
theorem events_captureFailure (setting : Setting) (id : String) (world : World σ) :
    ((captureFailure browser setting id).outcome world).2.events =
      world.events ++ pictureEvents browser setting id world := by
  unfold pictureEvents
  cases captureCase browser setting id world with
  | unanswered incident state hclosed =>
    rw [captureFailure_of_unanswered browser setting id hclosed, hclosed]
    exact (List.append_nil _).symm
  | closed state hclosed =>
    rw [captureFailure_of_closed browser setting id hclosed, hclosed]
    rfl
  | noDirectory error state tree hclosed hdirectory =>
    rw [captureFailure_of_noDirectory browser setting id hclosed hdirectory]
    simp only [hclosed, hdirectory, List.append_nil]
  | noPicture incident state after tree written hclosed hdirectory hpicture =>
    rw [captureFailure_of_noPicture browser setting id hclosed hdirectory hpicture]
    simp only [hclosed, hdirectory, hpicture, List.append_nil]
  | picture content state after tree written hclosed hdirectory hpicture =>
    rw [captureFailure_of_picture browser setting id hclosed hdirectory hpicture]
    simp only [hclosed, hdirectory, hpicture]
    rfl

end Performed

/-- The events of the clicks that are suppressed in the performance of a resolved scenario. -/
def Scenario.skips (browser : Browser σ) (scenario : Scenario) (world : World σ) : List Event :=
  (scenario.suppressedClicks browser (world.started scenario)).map skippedClick

/-- What a run tells, by its course: nothing of a scenario that cannot be resolved; otherwise that it
starts and which clicks are suppressed, and then that it passed, or nothing more after an interrupt,
or that it failed and what became of the picture. -/
inductive Logged (browser : Browser σ) (setting : Setting) (values : Variables) (scenario : Scenario)
    (world : World σ) : List Event → Prop
  | unresolved {name : String} (hresolve : scenario.resolve values = .error name) :
    Logged browser setting values scenario world []
  | passed {resolved : Scenario} {reached : World σ}
    (hresolve : scenario.resolve values = .ok resolved)
    (hperform : (resolved.perform browser).outcome (world.started resolved) = (.ok (), reached)) :
    Logged browser setting values scenario world
      (.started scenario.summary resolved.url ::
        (resolved.skips browser world ++ [.passed scenario.summary]))
  | interrupted {resolved : Scenario} {reached : World σ} {failure : Failure}
    (hresolve : scenario.resolve values = .ok resolved)
    (hperform : (resolved.perform browser).outcome (world.started resolved) =
      (.error failure, reached))
    (hinterrupt : failure.isInterrupt = true) :
    Logged browser setting values scenario world
      (.started scenario.summary resolved.url :: resolved.skips browser world)
  | failed {resolved : Scenario} {reached : World σ} {failure : Failure}
    (hresolve : scenario.resolve values = .ok resolved)
    (hperform : (resolved.perform browser).outcome (world.started resolved) =
      (.error failure, reached))
    (hinterrupt : failure.isInterrupt = false) :
    Logged browser setting values scenario world
      (.started scenario.summary resolved.url ::
        (resolved.skips browser world ++
          .failed scenario.summary failure.message failure.kind ::
            pictureEvents browser setting scenario.id reached))

/-- An event whose entry, if it is one of a scenario, starts with what identifies the scenario. -/
def Event.Identifies (summary : Summary) (event : Event) : Prop :=
  event.entry.event ∈ ["scenario.start", "scenario.passed", "scenario.failed"] →
    summary.fields <+: event.entry.fields

/-- The last of some events says that a scenario passed. -/
def EndsPassed (told : List Event) : Prop :=
  ∃ event, told.getLast? = some event ∧ event.entry.event = "scenario.passed"

/-- Events of which none is a pass do not end with one. -/
theorem not_endsPassed {told : List Event}
    (h : ∀ event ∈ told, event.entry.event ≠ "scenario.passed") : ¬ EndsPassed told := by
  rintro ⟨event, hlast, hpassed⟩
  exact h event (List.mem_of_getLast? hlast) hpassed

/-- The events of suppressed clicks are none of a scenario. -/
theorem entry_of_mem_skips {browser : Browser σ} {scenario : Scenario} {world : World σ}
    {event : Event} (h : event ∈ scenario.skips browser world) :
    event.entry.event = "step.skipped" := by
  obtain ⟨click, -, rfl⟩ := List.mem_map.1 h
  rfl

/-- What is told of a picture is none of a scenario. -/
theorem entry_of_mem_pictureEvents {browser : Browser σ} {setting : Setting} {id : String}
    {world : World σ} {event : Event} (h : event ∈ pictureEvents browser setting id world) :
    event.entry.event ∈ ["failure.screenshot_skipped", "failure.screenshot"] := by
  cases captureCase browser setting id world with
  | unanswered incident state hclosed => simp [pictureEvents, hclosed] at h
  | closed state hclosed =>
    obtain rfl : event = .notCaptured id := by simpa [pictureEvents, hclosed] using h
    exact List.mem_cons_self
  | noDirectory error state tree hclosed hdirectory =>
    simp [pictureEvents, hclosed, hdirectory] at h
  | noPicture incident state after tree written hclosed hdirectory hpicture =>
    simp [pictureEvents, hclosed, hdirectory, hpicture] at h
  | picture content state after tree written hclosed hdirectory hpicture =>
    obtain rfl : event = .captured id (setting.picturePath id) := by
      simpa [pictureEvents, hclosed, hdirectory, hpicture] using h
    exact List.mem_cons_of_mem _ List.mem_cons_self

section Run

variable {browser : Browser σ} {setting : Setting} {values : Variables} {scenario resolved : Scenario}
  {world reached : World σ}

/-- Once a resolved scenario was performed, its start and its suppressed clicks were told. -/
theorem events_of_performed {answer : Except Failure Unit}
    (hperform : (resolved.perform browser).outcome (world.started resolved) = (answer, reached)) :
    reached.events =
      world.events ++ .started resolved.summary resolved.url :: resolved.skips browser world := by
  have hevents := resolved.events_perform browser (world.started resolved)
  rw [hperform] at hevents
  exact hevents.trans (List.append_assoc _ _ _)

/-- Every run is logged by its course. -/
theorem exists_logged (browser : Browser σ) (setting : Setting) (values : Variables)
    (scenario : Scenario) (world : World σ) :
    ∃ told, ((scenario.run browser setting values).outcome world).2.events = world.events ++ told ∧
      Logged browser setting values scenario world told := by
  cases hresolve : scenario.resolve values with
  | error name =>
    refine ⟨[], ?_, .unresolved hresolve⟩
    rw [outcome_run_of_unresolved browser setting hresolve, List.append_nil]
  | ok resolved =>
    have hid := id_resolve hresolve
    have hsummary := summary_resolve hresolve
    rcases hperform : (resolved.perform browser).outcome (world.started resolved) with
      ⟨failure | _, reached⟩
    · have hreached := events_of_performed hperform
      rw [hsummary] at hreached
      cases hinterrupt : failure.isInterrupt with
      | true =>
        refine ⟨_, ?_, .interrupted hresolve hperform hinterrupt⟩
        rw [outcome_run_of_interrupt browser setting hresolve hperform hinterrupt]
        exact hreached
      | false =>
        refine ⟨_, ?_, .failed hresolve hperform hinterrupt⟩
        rw [outcome_run_of_failed browser setting hresolve hperform hinterrupt]
        refine (events_captureFailure browser setting resolved.id _).trans ?_
        simp only [World.failed, World.told, hreached, hsummary, hid]
        simp only [List.append_assoc, List.cons_append, List.nil_append]
        rfl
    · have hreached := events_of_performed hperform
      rw [hsummary] at hreached
      refine ⟨_, ?_, .passed hresolve hperform⟩
      rw [outcome_run_of_passed browser setting hresolve hperform]
      simp only [World.told, hreached, hsummary, List.append_assoc, List.cons_append]

/-- Every event of a run that is one of a scenario identifies the scenario that is run. -/
theorem Logged.identifies {told : List Event} (h : Logged browser setting values scenario world told) :
    ∀ event ∈ told, event.Identifies scenario.summary := by
  have hskips : ∀ resolved : Scenario, ∀ event ∈ resolved.skips browser world,
      event.Identifies scenario.summary := by
    intro resolved event hevent
    simp [Event.Identifies, entry_of_mem_skips hevent]
  have hpicture : ∀ reached, ∀ event ∈ pictureEvents browser setting scenario.id reached,
      event.Identifies scenario.summary := by
    intro reached event hevent hname
    have hentry := entry_of_mem_pictureEvents hevent
    simp only [List.mem_cons, List.not_mem_nil, or_false] at hentry hname
    rcases hentry with hentry | hentry <;> simp [hentry] at hname
  have hstart : ∀ url, (Event.started scenario.summary url).Identifies scenario.summary :=
    fun url _ => List.prefix_append _ _
  have hpassed : (Event.passed scenario.summary).Identifies scenario.summary :=
    fun _ => List.prefix_rfl
  have hfailed : ∀ message kind,
      (Event.failed scenario.summary message kind).Identifies scenario.summary :=
    fun message kind _ => List.prefix_append _ _
  cases h with
  | unresolved hresolve => simp
  | passed hresolve hperform =>
    simp only [List.forall_mem_cons, List.forall_mem_append]
    exact ⟨hstart _, hskips _, hpassed, by simp⟩
  | interrupted hresolve hperform hinterrupt =>
    simp only [List.forall_mem_cons]
    exact ⟨hstart _, hskips _⟩
  | failed hresolve hperform hinterrupt =>
    simp only [List.forall_mem_cons, List.forall_mem_append]
    exact ⟨hstart _, hskips _, hfailed _ _, hpicture _⟩

/-- A run ends without a failure exactly when the last thing it tells is that it passed. -/
theorem Logged.endsPassed_iff {told : List Event}
    (h : Logged browser setting values scenario world told) :
    ((scenario.run browser setting values).outcome world).1 = .ok () ↔ EndsPassed told := by
  have hskips : ∀ resolved : Scenario, ∀ event ∈ resolved.skips browser world,
      event.entry.event ≠ "scenario.passed" := by
    intro resolved event hevent
    simp [entry_of_mem_skips hevent]
  cases h with
  | unresolved hresolve =>
    rw [outcome_run_of_unresolved browser setting hresolve]
    exact iff_of_false (fun h => nomatch h) (not_endsPassed (by simp))
  | passed hresolve hperform =>
    rw [outcome_run_of_passed browser setting hresolve hperform]
    refine iff_of_true rfl ⟨.passed scenario.summary, ?_, rfl⟩
    rw [← List.cons_append]
    exact List.getLast?_concat
  | interrupted hresolve hperform hinterrupt =>
    refine iff_of_false (outcome_run_of_failure hresolve hperform).2.1 (not_endsPassed ?_)
    simp only [List.forall_mem_cons]
    exact ⟨by simp [Event.entry], hskips _⟩
  | failed hresolve hperform hinterrupt =>
    refine iff_of_false (outcome_run_of_failure hresolve hperform).2.1 (not_endsPassed ?_)
    simp only [List.forall_mem_cons, List.forall_mem_append]
    refine ⟨by simp [Event.entry], hskips _, by simp [Event.entry], fun event hevent => ?_⟩
    have hentry := entry_of_mem_pictureEvents hevent
    simp only [List.mem_cons, List.not_mem_nil, or_false] at hentry
    rcases hentry with hentry | hentry <;> simp [hentry]

end Run

/-- What a run tells is given by its course, event by event. Every event of a scenario carries what
identifies it, and the run ends without a failure exactly when the last event says that the scenario
passed. -/
theorem run_tells_outcome (browser : Browser σ) (setting : Setting) (values : Variables)
    (scenario : Scenario) (world : World σ) :
    let run := (scenario.run browser setting values).outcome world
    ∃ told, run.2.events = world.events ++ told ∧
      Logged browser setting values scenario world told ∧
      (∀ event ∈ told, event.Identifies scenario.summary) ∧ (run.1 = .ok () ↔ EndsPassed told) := by
  intro run
  obtain ⟨told, hevents, hlogged⟩ := exists_logged browser setting values scenario world
  exact ⟨told, hevents, hlogged, hlogged.identifies, hlogged.endsPassed_iff⟩

end BrowserScenario
