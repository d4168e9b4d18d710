import BrowserScenario.Proofs.Run.Diagnosis
import BrowserScenario.Proofs.Scenario.Fieldwise
import BrowserScenario.Proofs.Template.Agreement

/-!
# Variables that matter to a run

A scenario asks for the names of the markers in its fields, and for no others: values that are put
in are not read for names. Variables that agree on these names resolve it alike, as long as there
are any variables at all. Main statement: runs with such variables are the same in every world,
and at another time they differ in nothing but the path of the picture; so a variable that is not
asked for can be set or taken away.
-/

namespace BrowserScenario

open BrowserScenario.Template

variable {σ : Type} {first second : Variables}

/-- A field is resolved alike with variables that agree on its names. -/
theorem resolveField_congr {field : Option String} (h : AgreeOn (fieldNames field) first second) :
    resolveField first field = resolveField second field := by
  cases field with
  | none => rfl
  | some text => rw [resolveField, resolveField, fill_congr h]

/-- A step is resolved alike with variables that agree on the names of its fields. -/
theorem Step.resolve_congr {step : Step}
    (h : AgreeOn (step.record.templates.flatMap fieldNames) first second) :
    step.resolve first = step.resolve second := by
  have hfield := agreeOn_flatMap.1 h
  rw [step.resolve_eq, step.resolve_eq, resolveField_congr (hfield step.record.selector _),
    resolveField_congr (hfield step.record.value _),
    resolveField_congr (hfield step.record.skipClass _)]
  all_goals simp [StepRecord.templates]

/-- An expectation is resolved alike with variables that agree on the names of its fields. -/
theorem Expectation.resolve_congr {expectation : Expectation}
    (h : AgreeOn (expectation.record.templates.flatMap fieldNames) first second) :
    expectation.resolve first = expectation.resolve second := by
  have hfield := agreeOn_flatMap.1 h
  rw [expectation.resolve_eq, expectation.resolve_eq,
    resolveField_congr (hfield expectation.record.selector _),
    resolveField_congr (hfield expectation.record.value _)]
  all_goals simp [ExpectationRecord.templates]

/-- Two computations that are the same for every item of a list are the same for the list. -/
theorem mapM_congr_of_mem {ε α β : Type} {compute other : α → Except ε β} {items : List α}
    (h : ∀ item ∈ items, compute item = other item) : items.mapM compute = items.mapM other := by
  induction items with
  | nil => rfl
  | cons item rest ih =>
    obtain ⟨hitem, hrest⟩ := List.forall_mem_cons.1 h
    rw [List.mapM_cons, List.mapM_cons, hitem, ih hrest]

/-- A scenario is resolved alike with any variables that agree on the names that it asks for. -/
theorem Scenario.resolve_congr {scenario : Scenario} (hfirst : first.isEmpty = false)
    (hsecond : second.isEmpty = false) (h : AgreeOn scenario.markerNames first second) :
    scenario.resolve first = scenario.resolve second := by
  have hfields := agreeOn_flatMap.1 h
  have hurl : fill first scenario.url = fill second scenario.url :=
    fill_congr (hfields (some scenario.url) List.mem_cons_self)
  have hsteps : scenario.steps.mapM (Step.resolve first) =
      scenario.steps.mapM (Step.resolve second) := by
    refine mapM_congr_of_mem fun step hstep => Step.resolve_congr (agreeOn_flatMap.2 ?_)
    intro field hfield
    refine hfields field (List.mem_cons_of_mem _ (List.mem_append_left _ ?_))
    exact List.mem_flatMap.2 ⟨step, hstep, hfield⟩
  have hexpectations : scenario.expectations.mapM (Expectation.resolve first) =
      scenario.expectations.mapM (Expectation.resolve second) := by
    refine mapM_congr_of_mem fun expectation hexpectation =>
      Expectation.resolve_congr (agreeOn_flatMap.2 ?_)
    intro field hfield
    refine hfields field (List.mem_cons_of_mem _ (List.mem_append_right _ ?_))
    exact List.mem_flatMap.2 ⟨expectation, hexpectation, hfield⟩
  unfold Scenario.resolve
  rw [if_neg (by simp [hfirst]), if_neg (by simp [hsecond]), hurl, hsteps, hexpectations]

/-- A scenario is run alike with any variables that agree on the names that it asks for. -/
theorem Scenario.run_congr {scenario : Scenario} (hfirst : first.isEmpty = false)
    (hsecond : second.isEmpty = false) (h : AgreeOn scenario.markerNames first second)
    (browser : Browser σ) (setting : Setting) :
    scenario.run browser setting first = scenario.run browser setting second := by
  unfold Scenario.run
  rw [Scenario.resolve_congr hfirst hsecond h]

section Retimed

/-- The setting at another time. -/
def Setting.retimed (setting : Setting) (now : Time.Instant) : Setting :=
  { setting with now }

/-- A browser that does not tell two paths of pictures apart: it gives the same bytes or meets the
same incident, whichever of them it saves a picture at. -/
def Browser.PicturesAlike (browser : Browser σ) (path other : List Char) : Prop :=
  ∀ state tree, (browser.screenshot path true (state, tree)).1 =
    (browser.screenshot other true (state, tree)).1

/-- Calls that differ in nothing but the path of a picture of the whole page. -/
inductive SameCall (path other : List Char) : Call → Call → Prop
  | same (call : Call) : SameCall path other call call
  | picture : SameCall path other (.screenshot path true) (.screenshot other true)

/-- Events that differ in nothing but the path of a picture. -/
inductive SameEvent (id : String) (path other : List Char) : Event → Event → Prop
  | same (event : Event) : SameEvent id path other event event
  | picture : SameEvent id path other (.captured id path) (.captured id other)

/-- Two runs that differ in nothing but the path of a picture: they give the same answer, make the
same calls, tell the same events and hand over the same attachments. -/
structure SameButPath (id : String) (path other : List Char)
    (run rerun : Except Failure Unit × World σ) : Prop where
  answer_eq : run.1 = rerun.1
  calls : List.Forall₂ (SameCall path other) run.2.calls rerun.2.calls
  events : List.Forall₂ (SameEvent id path other) run.2.events rerun.2.events
  attached_eq : run.2.attached = rerun.2.attached

variable {browser : Browser σ} {setting : Setting} {values : Variables} {scenario : Scenario}
  {world : World σ} {id : String} {path other : List Char}

/-- A run is the same as itself. -/
theorem SameButPath.refl (run : Except Failure Unit × World σ) :
    SameButPath id path other run run :=
  ⟨rfl, List.forall₂_same.2 fun call _ => .same call,
    List.forall₂_same.2 fun event _ => .same event, rfl⟩

/-- What is answered at one path is answered at a path that is not told apart from it. -/
theorem Browser.PicturesAlike.exists_screenshot (halike : browser.PicturesAlike path other)
    {state after : σ} {tree written : Files.Tree} {answer : Except Incident (List UInt8)}
    (h : browser.screenshot path true (state, tree) = (answer, after, written)) :
    ∃ after written, browser.screenshot other true (state, tree) = (answer, after, written) := by
  have hanswer := halike state tree
  rcases hother : browser.screenshot other true (state, tree) with ⟨answer', after', written'⟩
  rw [h, hother] at hanswer
  obtain rfl : answer = answer' := hanswer
  exact ⟨after', written', rfl⟩

/-- The failure that is left does not depend on what a diagnosis gives. -/
theorem failureLeft_map {α β : Type} (failure : Failure) (f : α → β) (answer : Except Failure α) :
    failureLeft failure (answer.map f) = failureLeft failure answer := by
  cases answer <;> rfl

/-- Where two pictures are given the same bytes or fail alike, the failure of a run is diagnosed
alike but for the path of the picture. -/
theorem SameButPath.of_failed {resolved : Scenario} {failure : Failure} {reached : World σ}
    (hresolve : scenario.resolve values = .ok resolved)
    (hperform : (resolved.perform browser).outcome (world.started resolved) =
      (.error failure, reached))
    (hinterrupt : failure.isInterrupt = false) (now : Time.Instant)
    (halike : browser.PicturesAlike (setting.picturePath resolved.id)
      ((setting.retimed now).picturePath resolved.id)) :
    SameButPath resolved.id (setting.picturePath resolved.id)
      ((setting.retimed now).picturePath resolved.id)
      ((scenario.run browser setting values).outcome world)
      ((scenario.run browser (setting.retimed now) values).outcome world) := by
  rw [outcome_run_of_failed browser setting hresolve hperform hinterrupt,
    outcome_run_of_failed browser (setting.retimed now) hresolve hperform hinterrupt]
  have hcalls (calls : List Call) : List.Forall₂ (SameCall (setting.picturePath resolved.id)
      ((setting.retimed now).picturePath resolved.id))
      (calls ++ [.screenshot (setting.picturePath resolved.id) true])
      (calls ++ [.screenshot ((setting.retimed now).picturePath resolved.id) true]) :=
    List.rel_append (List.forall₂_same.2 fun call _ => .same call) (.cons .picture .nil)
  -- The time is of no account before the picture is asked for, so the diagnoses meet the same case.
  cases captureCase browser setting resolved.id (reached.failed resolved failure) with
  | unanswered incident state hclosed =>
    rw [captureFailure_of_unanswered browser setting resolved.id hclosed,
      captureFailure_of_unanswered browser (setting.retimed now) resolved.id hclosed]
    exact .refl _
  | closed state hclosed =>
    rw [captureFailure_of_closed browser setting resolved.id hclosed,
      captureFailure_of_closed browser (setting.retimed now) resolved.id hclosed]
    exact .refl _
  | noDirectory error state tree hclosed hdirectory =>
    rw [captureFailure_of_noDirectory browser setting resolved.id hclosed hdirectory,
      captureFailure_of_noDirectory browser (setting.retimed now) resolved.id hclosed
        hdirectory]
    exact .refl _
  | noPicture incident state after tree written hclosed hdirectory hpicture =>
    obtain ⟨after', written', hother⟩ := halike.exists_screenshot hpicture
    rw [captureFailure_of_noPicture browser setting resolved.id hclosed hdirectory hpicture,
      captureFailure_of_noPicture browser (setting.retimed now) resolved.id hclosed hdirectory
        hother]
    exact ⟨rfl, hcalls _, List.forall₂_same.2 fun event _ => .same event, rfl⟩
  | picture content state after tree written hclosed hdirectory hpicture =>
    obtain ⟨after', written', hother⟩ := halike.exists_screenshot hpicture
    rw [captureFailure_of_picture browser setting resolved.id hclosed hdirectory hpicture,
      captureFailure_of_picture browser (setting.retimed now) resolved.id hclosed hdirectory
        hother]
    refine ⟨congrArg Except.error ?_, hcalls _, ?_, rfl⟩
    · exact (failureLeft_map _ _ _).trans (failureLeft_map _ _ _).symm
    · exact List.rel_append (List.forall₂_same.2 fun event _ => .same event) (.cons .picture .nil)

/-- A run at another time differs in nothing but the path of the picture, if the browser does not
tell the two pictures apart. -/
theorem Scenario.run_retimed (now : Time.Instant)
    (halike : browser.PicturesAlike (setting.picturePath scenario.id)
      ((setting.retimed now).picturePath scenario.id)) :
    SameButPath scenario.id (setting.picturePath scenario.id)
      ((setting.retimed now).picturePath scenario.id)
      ((scenario.run browser setting values).outcome world)
      ((scenario.run browser (setting.retimed now) values).outcome world) := by
  cases hresolve : scenario.resolve values with
  | error name =>
    rw [outcome_run_of_unresolved browser setting hresolve,
      outcome_run_of_unresolved browser (setting.retimed now) hresolve]
    exact .refl _
  | ok resolved =>
    rcases hperform : (resolved.perform browser).outcome (world.started resolved) with
      ⟨failure | _, reached⟩
    · cases hinterrupt : failure.isInterrupt with
      | true =>
        rw [outcome_run_of_interrupt browser setting hresolve hperform hinterrupt,
          outcome_run_of_interrupt browser (setting.retimed now) hresolve hperform hinterrupt]
        exact .refl _
      | false =>
        rw [← id_resolve hresolve] at halike ⊢
        exact .of_failed hresolve hperform hinterrupt now halike
    · rw [outcome_run_of_passed browser setting hresolve hperform,
        outcome_run_of_passed browser (setting.retimed now) hresolve hperform]
      exact .refl _

end Retimed

/-- With a name set there are variables. -/
theorem Variables.isEmpty_set (values : Variables) (name value : String) :
    (values.set name value).isEmpty = false := by
  obtain ⟨entries⟩ := values
  cases entries with
  | nil => rfl
  | cons entry rest =>
    simp only [isEmpty, set, setIn]
    split <;> rfl

/-- With any variables that agree on the names that a scenario asks for, a run of it is the same in
every world, and at another time it differs in nothing but the path of the picture. So a variable
that it does not ask for can be added, changed or, unless it is the last, taken away. -/
theorem run_determined_by_markers {scenario : Scenario} {first second : Variables}
    (hfirst : first.isEmpty = false) (hsecond : second.isEmpty = false)
    (hagree : AgreeOn scenario.markerNames first second) :
    (∀ {σ : Type} (browser : Browser σ) (setting : Setting) (world : World σ),
      (scenario.run browser setting first).outcome world =
        (scenario.run browser setting second).outcome world) ∧
    (∀ {σ : Type} (browser : Browser σ) (setting : Setting) (now : Time.Instant) (world : World σ),
      browser.PicturesAlike (setting.picturePath scenario.id)
        ((setting.retimed now).picturePath scenario.id) →
      SameButPath scenario.id (setting.picturePath scenario.id)
        ((setting.retimed now).picturePath scenario.id)
        ((scenario.run browser setting first).outcome world)
        ((scenario.run browser (setting.retimed now) second).outcome world)) ∧
    ∀ name : String, name.toList ∉ scenario.markerNames →
      ∀ {σ : Type} (browser : Browser σ) (setting : Setting) (world : World σ),
        (∀ value, (scenario.run browser setting (first.set name value)).outcome world =
          (scenario.run browser setting first).outcome world) ∧
        ((first.without name).isEmpty = false →
          (scenario.run browser setting (first.without name)).outcome world =
            (scenario.run browser setting first).outcome world) := by
  refine ⟨fun browser setting world => ?_, fun browser setting now world halike => ?_,
    fun name hname σ browser setting world => ⟨fun value => ?_, fun hwithout => ?_⟩⟩
  · rw [Scenario.run_congr hfirst hsecond hagree]
  · rw [Scenario.run_congr hfirst hsecond hagree]
    exact Scenario.run_retimed now halike
  · rw [Scenario.run_congr (first.isEmpty_set name value) hfirst (agreeOn_set first value hname)]
  · rw [Scenario.run_congr hwithout hfirst (agreeOn_without first hname)]

/-- A scenario that asks for two names, one of them in an expectation. -/
def twoMarkers : Scenario where
  id := "two"
  name := "two markers"
  url := "/$\x7bA\x7d"
  steps := [.fill (some "#a") (some "$\x7bA\x7d$\x7b\x7d")]
  expectations := [.text (some "h1") (some "$\x7bB\x7d")]
  tags := []

/-- Variables in which the value of a name reads like the marker of another. -/
def markerValue : Variables := ⟨[("A", "$\x7bC\x7d"), ("B", "b"), ("C", "c")]⟩

/-- Variables without the name that a value reads like the marker of. -/
def markerValueAlone : Variables := ⟨[("B", "b"), ("D", ""), ("A", "$\x7bC\x7d")]⟩

/-- The name that a value reads like the marker of is not asked for. -/
theorem run_determined_by_markers_markerValue :
    (markerValue.isEmpty = false ∧ markerValueAlone.isEmpty = false ∧
      AgreeOn twoMarkers.markerNames markerValue markerValueAlone) ∧
    ((twoMarkers.run Rehearsal.browser reporting markerValue).outcome
        (.start unanswering Files.Tree.empty) =
      (twoMarkers.run Rehearsal.browser reporting markerValueAlone).outcome
        (.start unanswering Files.Tree.empty)) ∧
    (twoMarkers.run Rehearsal.browser reporting (markerValue.without "C")).outcome
        (.start unanswering Files.Tree.empty) =
      (twoMarkers.run Rehearsal.browser reporting markerValue).outcome
        (.start unanswering Files.Tree.empty) := by
  have hagree : AgreeOn twoMarkers.markerNames markerValue markerValueAlone := by
    unfold AgreeOn
    decide +kernel
  have hname : "C".toList ∉ twoMarkers.markerNames := by decide +kernel
  obtain ⟨hrun, -, hunasked⟩ := run_determined_by_markers rfl rfl hagree
  obtain ⟨-, hwithout⟩ := hunasked "C" hname Rehearsal.browser reporting (.start unanswering .empty)
  exact ⟨⟨rfl, rfl, hagree⟩, hrun _ _ _, hwithout rfl⟩

end BrowserScenario
