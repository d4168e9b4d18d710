import BrowserScenario.Proofs.Run.Capture
import BrowserScenario.Proofs.Run.Conduct

/-!
# Runs refine their plans

On every browser a scenario carries out its plan: each step and each expectation does, and a
scenario is their sequence after the visit of its address. A run of a scenario adds nothing but
the screenshot of a failure. Main statement: the calls of a run are those that are carried out of
the plan of the resolved scenario, it succeeds exactly when nothing fails, and otherwise it fails
as the plan does unless the diagnosis of the failure fails in turn.
-/

namespace BrowserScenario

variable {σ : Type} {browser : Browser σ}

/-- A question for classes meets the incident of its answer. -/
theorem Browser.incidents_classList {state : σ} {selector : String} {incident : Incident}
    (h : (browser.classList selector state).1 = .error incident) :
    browser.incidents state [] (.classList selector) = some incident := by
  simp only [incidents, stateAfter, respond, List.foldl_nil, h]

/-- A question for classes that is answered meets no incident. -/
theorem Browser.incidents_classList_of_ok {state : σ} {selector : String} {told : List String}
    (h : (browser.classList selector state).1 = .ok told) :
    browser.incidents state [] (.classList selector) = none := by
  simp only [incidents, stateAfter, respond, List.foldl_nil, h]

/-- The event of a suppressed click is no call. -/
theorem CarriesOut.tell (event : Event) :
    CarriesOut browser (Run.tell event) fun _ => .nothing := by
  intro world classes htells
  refine ⟨[], none, .whole (undisturbed_nil _) rfl, ⟨rfl, ?_, rfl, rfl⟩, rfl⟩
  exact (List.append_nil world.calls).symm

/-- A run that goes on after the classes of an element were asked for carries out the plan that
goes on after this call. -/
theorem CarriesOut.asking (selector : String) {run : List String → Run σ Unit}
    {plan : List String → Plan}
    (h : ∀ told, CarriesOut browser (run told) fun _ => plan told) :
    CarriesOut browser (Run.classList browser selector >>= run) fun classes =>
      (Plan.make (.classList selector)).followedBy (plan (classes [] selector)) := by
  intro world classes htells
  let asked := ((Run.classList browser selector).outcome world).2
  have hprogress : Progress browser world asked [.classList selector] := ⟨rfl, rfl, rfl, rfl⟩
  have hanswer : ((Run.classList browser selector).outcome world).1 =
      (browser.classList selector world.browser).1.mapError Failure.raised := rfl
  cases htold : (browser.classList selector world.browser).1 with
  | error incident =>
    have hincident := Browser.incidents_classList htold
    rw [htold] at hanswer
    have houtcome : (Run.classList browser selector >>= run).outcome world =
        (.error (.raised incident), asked) :=
      Run.outcome_bind_of_error (Prod.ext hanswer rfl)
    refine ⟨[.classList selector], some (.raised incident), ?_, ?_, ?_⟩
    · apply Plan.Carried.followedBy_of_failed
      exact .cut (rfl : (Plan.make _).calls = [] ++ .classList selector :: [])
        (undisturbed_nil _) hincident
    · rw [houtcome]
      exact hprogress
    · rw [houtcome]
      rfl
  | ok told =>
    obtain rfl := htells [] selector told htold
    have hincident := Browser.incidents_classList_of_ok htold
    rw [htold] at hanswer
    have houtcome : (Run.classList browser selector >>= run).outcome world =
        (run (classes [] selector)).outcome asked :=
      Run.outcome_bind_of_ok (Prod.ext hanswer rfl)
    obtain ⟨made, failure, hcarried, hprogress', hanswer'⟩ :=
      h (classes [] selector) asked (classes.after [.classList selector])
        (hprogress.browser_eq ▸ htells.after _)
    rw [hprogress.browser_eq, ← Browser.incidents_after] at hcarried
    rw [← houtcome] at hprogress' hanswer'
    refine ⟨.classList selector :: made, failure, ?_, hprogress.trans hprogress', hanswer'⟩
    exact Plan.Carried.followedBy_of_whole
      (.whole (undisturbed_singleton hincident) rfl) hcarried

/-- A click is made unless the classes that were told have the suppressing one among them. -/
theorem CarriesOut.unlessSkipped (selector skipClass : String) (told : List String) :
    CarriesOut browser
      (if told.contains skipClass then Run.tell (.skipped selector skipClass)
        else Run.interact browser (.click selector))
      fun _ => ⟨if skipClass ∈ told then [] else [.interact (.click selector)], none⟩ := by
  by_cases hskip : skipClass ∈ told
  · rw [if_pos (List.contains_iff_mem.mpr hskip), if_pos hskip]
    exact .tell (.skipped selector skipClass)
  · rw [if_neg (fun h => hskip (List.contains_iff_mem.mp h)), if_neg hskip]
    exact .interact (.click selector)

/-- A click carries out its plan, whatever classes the browser tells. -/
theorem CarriesOut.click (selector : String) (skipClass : Option String) :
    CarriesOut browser (performClick browser selector skipClass) fun classes =>
      .click classes selector skipClass := by
  cases hskip : filled? skipClass with
  | none =>
    simp only [performClick, Plan.click, hskip]
    exact .interact (.click selector)
  | some skipClass =>
    simp only [performClick, Plan.click, hskip]
    exact .asking selector fun told => .unlessSkipped selector skipClass told

/-- Every step carries out its plan. -/
theorem Step.carriesOut (step : Step) : CarriesOut browser (step.perform browser) step.plan := by
  cases step with
  | fill selector value =>
    exact .needing rfl fun selector => .interact (.fill selector (value.getD ""))
  | click selector skipClass => exact .needing rfl fun selector => .click selector skipClass
  | type selector value delay =>
    exact .needing rfl fun selector =>
      .interact (.typeText selector (value.getD "") (Time.Duration.orZero delay))
  | select selector value =>
    exact .needing rfl fun selector => .interact (.selectOption selector (value.getD ""))
  | check selector => exact .needing rfl fun selector => .interact (.check selector)
  | uncheck selector => exact .needing rfl fun selector => .interact (.uncheck selector)
  | hover selector => exact .needing rfl fun selector => .interact (.hover selector)
  | wait value => exact .counting fun pause => .interact (.wait (max 0 pause))

/-- Every expectation carries out its plan. -/
theorem Expectation.carriesOut (expectation : Expectation) :
    CarriesOut browser (expectation.perform browser) fun _ => expectation.plan := by
  cases expectation with
  | url value => exact .expect (.url (value.getD ""))
  | text selector value =>
    exact .needing rfl fun selector => .needing rfl fun value => .expect (.text selector value)
  | notText selector value =>
    exact .needing rfl fun selector => .needing rfl fun value => .expect (.notText selector value)
  | visible selector => exact .passingOver fun selector => .expect (.visible selector)
  | hidden selector => exact .passingOver fun selector => .expect (.hidden selector)
  | hasAttribute selector name value =>
    rw [Expectation.perform_hasAttribute]
    exact .passingOver fun selector =>
      .passingOver fun name => .expect (.hasAttribute selector name (value.getD ""))
  | count selector value =>
    exact .passingOver fun selector => .counting fun number => .expect (.count selector number)

/-- Every resolved scenario carries out its plan. -/
theorem Scenario.carriesOut (scenario : Scenario) :
    CarriesOut browser (scenario.perform browser) fun classes => scenario.plan classes := by
  have hsteps : CarriesOut browser (scenario.steps.forM (Step.perform browser)) _ :=
    .forM Step.carriesOut scenario.steps
  have hchecks : CarriesOut browser
      (scenario.expectations.forM (Expectation.perform browser)) _ :=
    .forM Expectation.carriesOut scenario.expectations
  exact (CarriesOut.interact (.navigate scenario.url)).bind (hsteps.inTurn hchecks)

/-- The diagnosis of a failure does not fail itself, given the browser and the files it meets. -/
def DiagnosisSucceeds (browser : Browser σ) (setting : Setting) (id : String) (state : σ)
    (tree : Files.Tree) : Prop :=
  ∃ path, ((captureFailure browser setting id).outcome (.start state tree)).1 = .ok path

/-- A run whose performance fails makes at most one more call, for a screenshot, and fails the
same way unless the diagnosis of the failure fails. -/
theorem outcome_run_of_failure {setting : Setting} {values : Variables}
    {scenario resolved : Scenario} {world reached : World σ} {failure : Failure}
    (hresolve : scenario.resolve values = .ok resolved)
    (hperform : (resolved.perform browser).outcome (world.started resolved) =
      (.error failure, reached)) :
    (∃ diagnosis,
      ((scenario.run browser setting values).outcome world).2.calls = reached.calls ++ diagnosis ∧
        ∀ call ∈ diagnosis, ∃ path, call = .screenshot path true) ∧
      ((scenario.run browser setting values).outcome world).1 ≠ .ok () ∧
      (failure.isInterrupt ∨
          DiagnosisSucceeds browser setting resolved.id reached.browser reached.tree →
        ((scenario.run browser setting values).outcome world).1 = .error failure) := by
  cases hinterrupt : failure.isInterrupt with
  | true =>
    rw [outcome_run_of_interrupt browser setting hresolve hperform hinterrupt]
    exact ⟨⟨[], (List.append_nil _).symm, by simp⟩, by simp, fun _ => rfl⟩
  | false =>
    rw [outcome_run_of_failed browser setting hresolve hperform hinterrupt]
    obtain ⟨diagnosis, hcalls, hpictures⟩ :=
      calls_captureFailure browser setting resolved.id (reached.failed resolved failure)
    have hanswer : ((captureFailure browser setting resolved.id).outcome
        (.start reached.browser reached.tree)).1 =
          ((captureFailure browser setting resolved.id).outcome
            (reached.failed resolved failure)).1 :=
      answer_captureFailure_congr browser setting resolved.id rfl rfl
    refine ⟨⟨diagnosis, hcalls, fun call hcall => ⟨_, hpictures call hcall⟩⟩, by simp, ?_⟩
    intro hend
    obtain ⟨path, hpath⟩ := hend.resolve_left (by simp)
    rw [← hanswer, hpath]
    rfl

/-- The calls of a run are those that are carried out of the plan of its resolved scenario, and
then at most a screenshot of the failure. The run succeeds exactly when nothing fails; otherwise
it fails as the plan does, unless the diagnosis of the failure fails in turn. -/
theorem run_refines_plan (browser : Browser σ) (setting : Setting) (values : Variables)
    (scenario : Scenario) (world : World σ) :
    let run := (scenario.run browser setting values).outcome world
    match scenario.resolve values with
    | .error name => run = (.error (.missingVariable name), world)
    | .ok resolved =>
      (∃ classes, browser.Tells world.browser classes) ∧
        ∀ classes, browser.Tells world.browser classes →
          ∃ made failure diagnosis,
            (resolved.plan classes).Carried (browser.incidents world.browser) made failure ∧
              run.2.calls = world.calls ++ made.map Primitive.call ++ diagnosis ∧
              (∀ call ∈ diagnosis, ∃ path, call = .screenshot path true) ∧
              (failure = none → diagnosis = []) ∧
              (run.1 = .ok () ↔ failure = none) ∧
              ∀ cause, failure = some cause →
                cause.isInterrupt ∨ DiagnosisSucceeds browser setting resolved.id
                  (browser.stateAfter world.browser made) world.tree →
                run.1 = .error cause := by
  intro run
  split
  · rename_i name hresolve
    exact outcome_run_of_unresolved browser setting hresolve
  · rename_i resolved hresolve
    refine ⟨browser.exists_tells world.browser, fun classes htells => ?_⟩
    obtain ⟨made, failure, hcarried, hprogress, hanswer⟩ :=
      resolved.carriesOut (world.started resolved) classes htells
    cases failure with
    | none =>
      have hrun : run = _ :=
        outcome_run_of_passed browser setting hresolve (Prod.ext hanswer rfl)
      rw [hrun]
      refine ⟨made, none, [], hcarried, ?_, by simp, fun _ => rfl, by simp, by simp⟩
      rw [List.append_nil]
      exact hprogress.calls_eq
    | some failure =>
      obtain ⟨⟨diagnosis, hcalls, hpictures⟩, hfails, hcause⟩ :=
        outcome_run_of_failure hresolve (Prod.ext hanswer rfl)
      refine ⟨made, some failure, diagnosis, hcarried, ?_, hpictures, by simp,
        by simpa using hfails, ?_⟩
      · refine hcalls.trans ?_
        rw [hprogress.calls_eq]
        rfl
      · intro cause hsame hend
        obtain rfl := Option.some.inj hsame
        apply hcause
        rw [hprogress.browser_eq, hprogress.tree_eq]
        exact hend

end BrowserScenario
