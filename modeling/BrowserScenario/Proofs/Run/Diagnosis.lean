import BrowserScenario.Proofs.Run.Refinement
import BrowserScenario.Proofs.Scenario.Resolve
import BrowserScenario.Rehearsal.Browser

/-!
# Diagnosed failures

A run that passes, that is not started, that is interrupted or whose page is closed after a
failure leaves no picture, no attachment and no file. Any other failure leaves one picture, which
is the last call, and hands it to the report if there is one. Main statement: the outcome of a
diagnosed run for every browser, report and results directory, with the error that is raised when
a part of the diagnosis fails in turn.
-/

namespace BrowserScenario

variable {σ : Type}

/-- A world in which no picture was asked for and nothing was attached. -/
structure Unpictured (before after : World σ) : Prop where
  calls_eq : ∃ made : List Primitive, after.calls = before.calls ++ made.map Primitive.call
  attached_eq : after.attached = before.attached

/-- A world in which nothing was diagnosed: no picture, no attachment, and the files as they
were. -/
structure Undiagnosed (before after : World σ) : Prop extends Unpictured before after where
  tree_eq : after.tree = before.tree

/-- The attachment that shows the failure of a scenario. -/
def failurePicture (id : String) (content : List UInt8) : Attachment :=
  ⟨"failure-" ++ String.ofList (Files.safeName id.toList), content, "image/png"⟩

/-- The error of a diagnosed failure once its picture was asked for: the failure itself, or what
went wrong first, with the picture or with the report. -/
def pictureAnswer (setting : Setting) (id : String) (failure : Failure)
    (taken : Except Incident (List UInt8)) : Failure :=
  match taken with
  | .error incident => .raised incident
  | .ok content =>
    match setting.report with
    | none => failure
    | some report =>
      match report (failurePicture id content) with
      | .error incident => .raised incident
      | .ok () => failure

/-- A world in which a failure was diagnosed: one picture of the whole page was asked for, by the
last call, and what was taken was attached if there is a report. -/
structure Pictured (setting : Setting) (id : String) (taken : Except Incident (List UInt8))
    (before after : World σ) : Prop where
  calls_eq : ∃ made : List Primitive,
    after.calls = before.calls ++ made.map Primitive.call ++
      [.screenshot (setting.picturePath id) true]
  attached_eq : after.attached = before.attached ++
    match taken, setting.report with
    | .ok content, some _ => [failurePicture id content]
    | _, _ => []

/-- The attachment that a diagnosis makes is the picture of the failure. -/
theorem failureAttachment_eq (id : String) (content : List UInt8) :
    failureAttachment id content = failurePicture id content := by
  unfold failureAttachment failurePicture pictureType
  rw [String.ofList_append, String.ofList_toList]

/-- Calls of primitives diagnose nothing. -/
theorem Progress.undiagnosed {browser : Browser σ} {before after : World σ}
    {made : List Primitive} (h : Progress browser before after made) : Undiagnosed before after :=
  ⟨⟨⟨made, h.calls_eq⟩, h.attached_eq⟩, h.tree_eq⟩

/-- Performing a resolved scenario makes calls of primitives and nothing else. -/
theorem exists_progress_perform {browser : Browser σ} {scenario : Scenario} {world after : World σ}
    {answer : Except Failure Unit}
    (h : (scenario.perform browser).outcome world = (answer, after)) :
    ∃ made, Progress browser world after made := by
  obtain ⟨classes, htells⟩ := browser.exists_tells world.browser
  obtain ⟨made, _, _, hprogress, _⟩ := scenario.carriesOut world classes htells
  rw [h] at hprogress
  exact ⟨made, hprogress⟩

section Failed

variable {browser : Browser σ} {setting : Setting} {values : Variables}
  {scenario resolved : Scenario} {failure : Failure} {world reached : World σ} {state : σ}
  (hresolve : scenario.resolve values = .ok resolved)
  (hperform : (resolved.perform browser).outcome (world.started resolved) =
    (.error failure, reached))

include hresolve hperform

/-- An interrupt is raised, and nothing is diagnosed. -/
theorem undiagnosed_of_interrupt (hinterrupt : failure.isInterrupt = true) :
    ((scenario.run browser setting values).outcome world).1 = .error failure ∧
      Undiagnosed world ((scenario.run browser setting values).outcome world).2 := by
  obtain ⟨made, hprogress⟩ := exists_progress_perform hperform
  rw [outcome_run_of_interrupt browser setting hresolve hperform hinterrupt]
  exact ⟨rfl, ⟨⟨made, hprogress.calls_eq⟩, hprogress.attached_eq⟩, hprogress.tree_eq⟩

/-- A failure after which the page is closed is raised, and nothing is diagnosed. -/
theorem undiagnosed_of_closed (hinterrupt : failure.isInterrupt = false)
    (hclosed : browser.isClosed reached.browser = (.ok true, state)) :
    ((scenario.run browser setting values).outcome world).1 = .error failure ∧
      Undiagnosed world ((scenario.run browser setting values).outcome world).2 := by
  obtain ⟨made, hprogress⟩ := exists_progress_perform hperform
  have hcapture : (captureFailure browser setting resolved.id).outcome
      (reached.failed resolved failure) = _ :=
    captureFailure_of_closed browser setting resolved.id hclosed
  rw [outcome_run_of_failed browser setting hresolve hperform hinterrupt, hcapture]
  exact ⟨rfl, ⟨⟨made, hprogress.calls_eq⟩, hprogress.attached_eq⟩, hprogress.tree_eq⟩

/-- A page that does not tell whether it is closed is not pictured; its incident is raised. -/
theorem undiagnosed_of_unanswered {incident : Incident} (hinterrupt : failure.isInterrupt = false)
    (hclosed : browser.isClosed reached.browser = (.error incident, state)) :
    ((scenario.run browser setting values).outcome world).1 = .error (.raised incident) ∧
      Undiagnosed world ((scenario.run browser setting values).outcome world).2 := by
  obtain ⟨made, hprogress⟩ := exists_progress_perform hperform
  have hcapture : (captureFailure browser setting resolved.id).outcome
      (reached.failed resolved failure) = _ :=
    captureFailure_of_unanswered browser setting resolved.id hclosed
  rw [outcome_run_of_failed browser setting hresolve hperform hinterrupt, hcapture]
  exact ⟨rfl, ⟨⟨made, hprogress.calls_eq⟩, hprogress.attached_eq⟩, hprogress.tree_eq⟩

/-- Where the directory of pictures cannot be made, no picture is asked for. -/
theorem unpictured_of_noDirectory {tree : Files.Tree} {error : Files.FileError}
    (hinterrupt : failure.isInterrupt = false)
    (hclosed : browser.isClosed reached.browser = (.ok false, state))
    (hdirectory : world.tree.ensureDirectories setting.pictureDirectory = (tree, some error)) :
    ((scenario.run browser setting values).outcome world).1 = .error (.files error) ∧
      Unpictured world ((scenario.run browser setting values).outcome world).2 := by
  obtain ⟨made, hprogress⟩ := exists_progress_perform hperform
  have htree : (reached.failed resolved failure).tree = world.tree := hprogress.tree_eq
  rw [← htree] at hdirectory
  have hcapture : (captureFailure browser setting resolved.id).outcome
      (reached.failed resolved failure) = _ :=
    captureFailure_of_noDirectory browser setting resolved.id hclosed hdirectory
  rw [outcome_run_of_failed browser setting hresolve hperform hinterrupt, hcapture]
  exact ⟨rfl, ⟨made, hprogress.calls_eq⟩, hprogress.attached_eq⟩

/-- Where the directory of pictures is there or can be made, one picture is asked for. -/
theorem pictured_of_open {tree : Files.Tree} (hinterrupt : failure.isInterrupt = false)
    (hclosed : browser.isClosed reached.browser = (.ok false, state))
    (hdirectory : world.tree.ensureDirectories setting.pictureDirectory = (tree, none)) :
    let taken := (browser.screenshot (setting.picturePath scenario.id) true (state, tree)).1
    ((scenario.run browser setting values).outcome world).1 =
        .error (pictureAnswer setting scenario.id failure taken) ∧
      Pictured setting scenario.id taken world
        ((scenario.run browser setting values).outcome world).2 := by
  obtain ⟨made, hprogress⟩ := exists_progress_perform hperform
  have htree : (reached.failed resolved failure).tree = world.tree := hprogress.tree_eq
  have hid := id_resolve hresolve
  rw [← htree] at hdirectory
  intro taken
  rcases hpicture : browser.screenshot (setting.picturePath scenario.id) true (state, tree) with
    ⟨incident | content, after, written⟩
  · have htaken : taken = .error incident := congrArg Prod.fst hpicture
    have hcapture : (captureFailure browser setting resolved.id).outcome
        (reached.failed resolved failure) = _ :=
      captureFailure_of_noPicture browser setting resolved.id hclosed hdirectory (hid.symm ▸ hpicture)
    rw [outcome_run_of_failed browser setting hresolve hperform hinterrupt, hcapture, htaken, hid]
    exact ⟨rfl, ⟨made, congrArg (· ++ _) hprogress.calls_eq⟩,
      hprogress.attached_eq.trans (List.append_nil world.attached).symm⟩
  · have htaken : taken = .ok content := congrArg Prod.fst hpicture
    have hcapture : (captureFailure browser setting resolved.id).outcome
        (reached.failed resolved failure) = _ :=
      captureFailure_of_picture browser setting resolved.id hclosed hdirectory (hid.symm ▸ hpicture)
    rw [outcome_run_of_failed browser setting hresolve hperform hinterrupt, hcapture, htaken, hid,
      failureAttachment_eq]
    refine ⟨?_, ⟨made, congrArg (· ++ _) hprogress.calls_eq⟩, ?_⟩
    · unfold Setting.reported pictureAnswer
      cases setting.report with
      | none => rfl
      | some report =>
        simp only
        cases report (failurePicture scenario.id content) <;> rfl
    · unfold Setting.handed
      cases setting.report with
      | none => exact congrArg (· ++ []) hprogress.attached_eq
      | some report =>
        exact congrArg (· ++ [failurePicture scenario.id content]) hprogress.attached_eq

end Failed

/-- A run that passes diagnoses nothing. -/
theorem undiagnosed_of_passed {browser : Browser σ} {setting : Setting} {values : Variables}
    {scenario : Scenario} {world : World σ}
    (h : ((scenario.run browser setting values).outcome world).1 = .ok ()) :
    Undiagnosed world ((scenario.run browser setting values).outcome world).2 := by
  cases hresolve : scenario.resolve values with
  | error name =>
    rw [outcome_run_of_unresolved browser setting hresolve] at h
    exact nomatch h
  | ok resolved =>
    rcases hperform : (resolved.perform browser).outcome (world.started resolved) with
      ⟨failure | _, reached⟩
    · exact absurd h (outcome_run_of_failure hresolve hperform).2.1
    · obtain ⟨made, hprogress⟩ := exists_progress_perform hperform
      rw [outcome_run_of_passed browser setting hresolve hperform]
      exact ⟨⟨⟨made, hprogress.calls_eq⟩, hprogress.attached_eq⟩, hprogress.tree_eq⟩

/-- A run calls primitives, and then at most asks for the picture of its scenario. -/
theorem exists_calls_run (browser : Browser σ) (setting : Setting) (values : Variables)
    (scenario : Scenario) (world : World σ) : ∃ (made : List Primitive) (diagnosis : List Call),
    ((scenario.run browser setting values).outcome world).2.calls =
        world.calls ++ made.map Primitive.call ++ diagnosis ∧
      ∀ call ∈ diagnosis, call = .screenshot (setting.picturePath scenario.id) true := by
  cases hresolve : scenario.resolve values with
  | error name =>
    rw [outcome_run_of_unresolved browser setting hresolve]
    exact ⟨[], [], by simp, by simp⟩
  | ok resolved =>
    rcases hperform : (resolved.perform browser).outcome (world.started resolved) with
      ⟨failure | _, reached⟩
    · obtain ⟨made, hprogress⟩ := exists_progress_perform hperform
      cases hinterrupt : failure.isInterrupt with
      | true =>
        rw [outcome_run_of_interrupt browser setting hresolve hperform hinterrupt]
        exact ⟨made, [], hprogress.calls_eq.trans (List.append_nil _).symm, by simp⟩
      | false =>
        rw [outcome_run_of_failed browser setting hresolve hperform hinterrupt]
        obtain ⟨diagnosis, hcalls, hpictures⟩ :=
          calls_captureFailure browser setting resolved.id (reached.failed resolved failure)
        rw [id_resolve hresolve] at hpictures
        exact ⟨made, diagnosis, hcalls.trans (congrArg (· ++ diagnosis) hprogress.calls_eq),
          hpictures⟩
    · obtain ⟨made, hprogress⟩ := exists_progress_perform hperform
      rw [outcome_run_of_passed browser setting hresolve hperform]
      exact ⟨made, [], hprogress.calls_eq.trans (List.append_nil _).symm, by simp⟩

/-- The only picture that a run asks for is that of its scenario. -/
theorem eq_picturePath_of_mem_run {browser : Browser σ} {setting : Setting} {values : Variables}
    {scenario : Scenario} {state : σ} {tree : Files.Tree} {path : List Char} {fullPage : Bool}
    (h : .screenshot path fullPage ∈
      ((scenario.run browser setting values).outcome (.start state tree)).2.calls) :
    path = setting.picturePath scenario.id := by
  obtain ⟨made, diagnosis, hcalls, hpictures⟩ :=
    exists_calls_run browser setting values scenario (.start state tree)
  rw [hcalls] at h
  rcases List.mem_append.1 h with hmade | hdiagnosis
  · obtain ⟨primitive, -, hcall⟩ := List.mem_map.1 hmade
    cases primitive <;> exact nomatch hcall
  · exact (Call.screenshot.inj (hpictures _ hdiagnosis)).1

/-- A run that passes, is not started or is interrupted diagnoses nothing, and neither does one
that leaves the page closed. After any other failure, where the directory of pictures can be made,
one picture of the whole page is asked for by the last call; what was taken is attached once if
there is a report; and the error is the failure itself unless directory, picture or report fails,
of which the first is raised. -/
theorem run_diagnosed_once (browser : Browser σ) (setting : Setting) (values : Variables)
    (scenario : Scenario) (world : World σ) :
    let run := (scenario.run browser setting values).outcome world
    (run.1 = .ok () → Undiagnosed world run.2) ∧
      (∀ name, scenario.resolve values = .error name →
        run.1 = .error (.missingVariable name) ∧ Undiagnosed world run.2) ∧
      ∀ resolved failure reached, scenario.resolve values = .ok resolved →
        (resolved.perform browser).outcome (world.started resolved) = (.error failure, reached) →
        (failure.isInterrupt = true → run.1 = .error failure ∧ Undiagnosed world run.2) ∧
        (failure.isInterrupt = false →
          match browser.isClosed reached.browser with
          | (.error incident, _) => run.1 = .error (.raised incident) ∧ Undiagnosed world run.2
          | (.ok true, _) => run.1 = .error failure ∧ Undiagnosed world run.2
          | (.ok false, state) =>
            match world.tree.ensureDirectories setting.pictureDirectory with
            | (_, some error) => run.1 = .error (.files error) ∧ Unpictured world run.2
            | (tree, none) =>
              let taken := (browser.screenshot (setting.picturePath scenario.id) true (state, tree)).1
              run.1 = .error (pictureAnswer setting scenario.id failure taken) ∧
                Pictured setting scenario.id taken world run.2) := by
  intro run
  refine ⟨undiagnosed_of_passed, ?_, ?_⟩
  · intro name hresolve
    have hrun : run = (.error (.missingVariable name), world) :=
      outcome_run_of_unresolved browser setting hresolve
    rw [hrun]
    exact ⟨rfl, (Progress.refl browser world).undiagnosed⟩
  · intro resolved failure reached hresolve hperform
    refine ⟨undiagnosed_of_interrupt hresolve hperform, fun hinterrupt => ?_⟩
    rcases hclosed : browser.isClosed reached.browser with ⟨incident | closed, state⟩
    · exact undiagnosed_of_unanswered hresolve hperform hinterrupt hclosed
    · cases closed with
      | true => exact undiagnosed_of_closed hresolve hperform hinterrupt hclosed
      | false =>
        rcases hdirectory : world.tree.ensureDirectories setting.pictureDirectory with
          ⟨tree, _ | error⟩
        · exact pictured_of_open hresolve hperform hinterrupt hclosed hdirectory
        · exact unpictured_of_noDirectory hresolve hperform hinterrupt hclosed hdirectory

/-- A scenario that visits an address and does nothing there. -/
def bareVisit : Scenario := ⟨"a/b", "visit", "/", [], [], []⟩

/-- The incident of an address that does not answer. -/
def noAnswer : Incident := .error "TimeoutError" "no answer"

/-- A rehearsal in which no address answers. -/
def unanswering : Rehearsal.BrowserState :=
  ⟨⟨[⟨"navigate", none, noAnswer, false⟩], false, []⟩, [], []⟩

/-- A setting with a report that takes every attachment. -/
def reporting : Setting := ⟨"/".toList, none, ⟨0, by decide⟩, some fun _ => .ok ()⟩

/-- An address that does not answer is pictured once, and its incident is raised. -/
theorem run_diagnosed_once_noAnswer :
    let world := World.start unanswering Files.Tree.empty
    let run := (bareVisit.run Rehearsal.browser reporting .empty).outcome world
    run.1 = .error (.raised noAnswer) ∧
      Pictured reporting "a/b" (.ok Rehearsal.pictureContent) world run.2 := by
  intro world run
  obtain ⟨-, -, hfailed⟩ := run_diagnosed_once Rehearsal.browser reporting .empty bareVisit world
  obtain ⟨-, hdiagnosed⟩ := hfailed bareVisit (.raised noAnswer) _ rfl rfl
  exact hdiagnosed rfl

end BrowserScenario
