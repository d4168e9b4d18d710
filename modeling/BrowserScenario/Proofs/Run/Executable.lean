import BrowserScenario.Proofs.Run.Diagnosis
import BrowserScenario.Proofs.Schema.Accepted

/-!
# Accepted documents can be executed

What the schema accepts can be executed: the actions and kinds of records that are performed are
those of the schema, and neither resolving a scenario nor running it makes a delay negative.
Main statement: on every browser and with any variables, a run of a scenario of an accepted
document makes well-formed calls only, does not fail for a record of an unknown kind, and is the
same when its steps and expectations are performed by the words for their kinds.
-/

namespace BrowserScenario

open BrowserScenario.Number BrowserScenario.Time

variable {σ : Type}

/-- Visits the address of a resolved scenario, performs its steps by the words for their actions
and checks its expectations by the words for their kinds. -/
def Scenario.performRecords (browser : Browser σ) (scenario : Scenario) : Run σ Unit := do
  Run.interact browser (.navigate scenario.url)
  BrowserScenario.performRecords browser (scenario.steps.map Step.record)
  checkRecords browser (scenario.expectations.map Expectation.record)

/-- Performing a scenario by the words for its records is performing it. -/
theorem Scenario.performRecords_eq (browser : Browser σ) (scenario : Scenario) :
    scenario.performRecords browser = scenario.perform browser := by
  have hsteps : BrowserScenario.performRecords browser (scenario.steps.map Step.record) =
      scenario.steps.forM (Step.perform browser) := by
    simp only [BrowserScenario.performRecords, List.forM_eq_forM, List.forM_map, Step.perform_record]
  have hexpectations : checkRecords browser (scenario.expectations.map Expectation.record) =
      scenario.expectations.forM (Expectation.perform browser) := by
    simp only [checkRecords, List.forM_eq_forM, List.forM_map, Expectation.perform_record]
  simp only [performRecords, perform, hsteps, hexpectations]

/-- Resolving a scenario keeps its delays. -/
theorem Scenario.DelaysNonnegative.resolve {values : Variables} {scenario resolved : Scenario}
    (h : scenario.DelaysNonnegative) (hresolve : scenario.resolve values = .ok resolved) :
    resolved.DelaysNonnegative := by
  cases hvalues : values.isEmpty with
  | true =>
    unfold Scenario.resolve at hresolve
    rw [if_pos hvalues] at hresolve
    obtain rfl := Except.ok.inj hresolve
    exact h
  | false =>
    have hfilled := Scenario.filled_of_resolve hvalues hresolve
    refine forall_mem_of_forall₂ hfilled.steps fun step hstep result hresult delay hdelay => ?_
    rw [hresult.delay_eq] at hdelay
    exact h step hstep delay hdelay

/-- A diagnosis fails for what the browser or the report raises, or for a file. -/
theorem kind_captureFailure (browser : Browser σ) (setting : Setting) (id : String)
    {world : World σ} {failure : Failure}
    (h : ((captureFailure browser setting id).outcome world).1 = .error failure) :
    (∃ incident, failure = .raised incident) ∨ ∃ error, failure = .files error := by
  cases captureCase browser setting id world with
  | unanswered incident state hclosed =>
    rw [captureFailure_of_unanswered browser setting id hclosed] at h
    exact Or.inl ⟨incident, (Except.error.inj h).symm⟩
  | closed state hclosed =>
    rw [captureFailure_of_closed browser setting id hclosed] at h
    exact nomatch h
  | noDirectory error state tree hclosed hdirectory =>
    rw [captureFailure_of_noDirectory browser setting id hclosed hdirectory] at h
    exact Or.inr ⟨error, (Except.error.inj h).symm⟩
  | noPicture incident state after tree written hclosed hdirectory hpicture =>
    rw [captureFailure_of_noPicture browser setting id hclosed hdirectory hpicture] at h
    exact Or.inl ⟨incident, (Except.error.inj h).symm⟩
  | picture content state after tree written hclosed hdirectory hpicture =>
    rw [captureFailure_of_picture browser setting id hclosed hdirectory hpicture] at h
    simp only [Setting.reported] at h
    split at h
    · exact nomatch h
    · rename_i report hreport
      cases hreported : report (failureAttachment id content) with
      | ok => rw [hreported] at h; exact nomatch h
      | error incident =>
        rw [hreported] at h
        exact Or.inl ⟨incident, (Except.error.inj h).symm⟩

/-- No file error is of a kind of failures at unknown records. -/
theorem Files.FileError.kind_not_mem_unknownKinds (error : Files.FileError) :
    error.kind ∉ unknownKinds := by
  unfold kind
  split <;> decide

/-- A run whose performance fails is of an unknown kind only if the browser or the report raises it,
if this is so of the failure of the performance. -/
theorem raised_of_failed_run {browser : Browser σ} {setting : Setting} {values : Variables}
    {scenario resolved : Scenario} {world reached : World σ} {cause : Failure}
    (hresolve : scenario.resolve values = .ok resolved)
    (hperform : (resolved.perform browser).outcome (world.started resolved) =
      (.error cause, reached))
    (hcause : cause.kind ∈ unknownKinds → ∃ incident, cause = .raised incident) :
    ∀ failure, ((scenario.run browser setting values).outcome world).1 = .error failure →
      failure.kind ∈ unknownKinds → ∃ incident, failure = .raised incident := by
  intro failure hfailure hkind
  cases hinterrupt : cause.isInterrupt with
  | true =>
    rw [outcome_run_of_interrupt browser setting hresolve hperform hinterrupt] at hfailure
    obtain rfl := Except.error.inj hfailure
    exact hcause hkind
  | false =>
    rw [outcome_run_of_failed browser setting hresolve hperform hinterrupt] at hfailure
    have hleft := Except.error.inj hfailure
    cases hanswer : ((captureFailure browser setting resolved.id).outcome
        (reached.failed resolved cause)).1 with
    | ok path =>
      rw [hanswer] at hleft
      obtain rfl : cause = failure := hleft
      exact hcause hkind
    | error fault =>
      rw [hanswer] at hleft
      obtain rfl : fault = failure := hleft
      rcases kind_captureFailure browser setting resolved.id hanswer with hraised | ⟨error, rfl⟩
      · exact hraised
      · exact absurd hkind error.kind_not_mem_unknownKinds

/-- A run that executes its scenario: it makes well-formed calls only, and no failure is that of a
record of an unknown kind, unless the browser or the report raises one by that name. -/
structure Executed (before : World σ) (answer : Except Failure Unit) (after : World σ) : Prop where
  calls : ∃ made, after.calls = before.calls ++ made ∧ ∀ call ∈ made, call.WellFormed
  known : ∀ failure, answer = .error failure → failure.kind ∈ unknownKinds →
    ∃ incident, failure = .raised incident

/-- A run of a scenario without a delay below zero executes it. -/
theorem executed_run (browser : Browser σ) (setting : Setting) (values : Variables)
    (world : World σ) {scenario : Scenario} (hdelays : scenario.DelaysNonnegative) :
    Executed world ((scenario.run browser setting values).outcome world).1
      ((scenario.run browser setting values).outcome world).2 := by
  cases hresolve : scenario.resolve values with
  | error name =>
    rw [outcome_run_of_unresolved browser setting hresolve]
    refine ⟨⟨[], (List.append_nil _).symm, by simp⟩, fun failure hfailure hkind => ?_⟩
    obtain rfl := Except.error.inj hfailure
    exact absurd hkind (by simp [Failure.kind, unknownKinds])
  | ok resolved =>
    obtain ⟨classes, htells⟩ := browser.exists_tells world.browser
    obtain ⟨made, ending, hcarried, hprogress, hanswer⟩ :=
      resolved.carriesOut (world.started resolved) classes htells
    have hplan := Scenario.plan_executable (hdelays.resolve hresolve) classes
    have hmade : ∀ call ∈ made.map Primitive.call, call.WellFormed := by
      intro call hcall
      obtain ⟨primitive, hprimitive, rfl⟩ := List.mem_map.1 hcall
      exact hplan.calls primitive (hcarried.mem_calls primitive hprimitive)
    cases ending with
    | none =>
      rw [outcome_run_of_passed browser setting hresolve (Prod.ext hanswer rfl)]
      exact ⟨⟨_, hprogress.calls_eq, hmade⟩, by simp⟩
    | some cause =>
      have hperform : (resolved.perform browser).outcome (world.started resolved) =
          (.error cause, _) := Prod.ext hanswer rfl
      have hcause := hcarried.raised_of_unknown hplan
      obtain ⟨⟨diagnosis, hcalls, hpictures⟩, -, -⟩ := outcome_run_of_failure hresolve hperform
      refine ⟨⟨made.map Primitive.call ++ diagnosis, ?_, fun call hcall => ?_⟩,
        raised_of_failed_run hresolve hperform hcause⟩
      · rw [hcalls, hprogress.calls_eq, List.append_assoc]
        rfl
      · rcases List.mem_append.1 hcall with hmem | hmem
        · exact hmade call hmem
        · obtain ⟨path, rfl⟩ := hpictures call hmem
          trivial

/-- What loading accepts, running can execute: on every browser and with any variables, a run of a
scenario of an accepted document makes well-formed calls only and does not fail for a record of an
unknown kind, and its records are performed by the words for their kinds. -/
theorem executed_of_accepted (browser : Browser σ) (setting : Setting) (values : Variables)
    (world : World σ) {data : Data} {scenarios : List Scenario} {scenario : Scenario}
    (hdata : Scenario.ofDocument data = .ok scenarios) (hscenario : scenario ∈ scenarios) :
    let run := (scenario.run browser setting values).outcome world
    Executed world run.1 run.2 ∧
      ∀ resolved, scenario.resolve values = .ok resolved →
        resolved.performRecords browser = resolved.perform browser := by
  intro run
  have hvalid := Schema.ofDocument_eq_ok_iff.1 hdata
  have hdelays := Schema.document_ensures data scenarios hvalid scenario hscenario
  exact ⟨executed_run browser setting values world hdelays,
    fun resolved _ => resolved.performRecords_eq browser⟩

/-- A document with a delay that is the zero with a minus sign and a pause below zero. -/
def signedZero : Data :=
  .map [(.text "testScenarios", .list [.map [
    (.text "id", .text "z"), (.text "name", .text "zero"), (.text "url", .text "/"),
    (.text "steps", .list [
      .map [(.text "action", .text "type"), (.text "selector", .text "#a"),
        (.text "delay", .float (.zero true))],
      .map [(.text "action", .text "wait"), (.text "value", .int (-5))]])]])]

/-- The scenario of the document with a zero that has a minus sign. -/
def signedZeroScenario : Scenario where
  id := "z"
  name := "zero"
  url := "/"
  steps := [.type (some "#a") none (some (.floating (.zero true))), .wait (some "-5")]
  expectations := []
  tags := []

/-- A rehearsal that follows no rule. -/
def idle : Rehearsal.BrowserState := ⟨⟨[], false, []⟩, [], []⟩

/-- The zero with a minus sign and the pause below zero are both handed on as zero. -/
theorem executed_of_accepted_signedZero :
    let world := World.start idle Files.Tree.empty
    let run := (signedZeroScenario.run Rehearsal.browser reporting .empty).outcome world
    Scenario.ofDocument signedZero = .ok [signedZeroScenario] ∧
      run.2.calls = [.interact (.navigate "/"), .interact (.typeText "#a" "" (.whole 0)),
        .interact (.wait 0)] ∧
      Executed world run.1 run.2 := by
  intro world run
  have hdata : Scenario.ofDocument signedZero = .ok [signedZeroScenario] := by decide +kernel
  have hexecuted := executed_of_accepted Rehearsal.browser reporting .empty world hdata
    List.mem_cons_self
  exact ⟨hdata, by decide +kernel, hexecuted.1⟩

end BrowserScenario
