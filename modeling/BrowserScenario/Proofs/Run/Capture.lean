import BrowserScenario.Proofs.Run.Outcome

/-!
# Captured failures

What the diagnosis of a failure does, by the first of its parts that fails: the page is asked
whether it is closed, the directory of pictures is made, the picture is taken, and the picture is
handed to the report. Nothing after the part that fails is done. Main statement: whether a
diagnosis fails depends on the browser and the files alone.
-/

namespace BrowserScenario

variable {σ : Type}

section Diagnosis

variable (browser : Browser σ) (setting : Setting) (id : String) {world : World σ} {state after : σ}
  {tree written : Files.Tree}

/-- Where the picture of a scenario goes. -/
def Setting.picturePath : List Char :=
  Files.screenshotPath setting.directory id.toList setting.results setting.now

/-- The directory of pictures. -/
def Setting.pictureDirectory : List Char :=
  Files.screenshotDirectory setting.directory setting.results

/-- The answer of a report to an attachment; without a report there is nothing to fail. -/
def Setting.reported (attachment : Attachment) : Except Failure Unit :=
  match setting.report with
  | none => .ok ()
  | some report => (report attachment).mapError .raised

/-- What is handed to the report, if there is one. -/
def Setting.handed (attachment : Attachment) : List Attachment :=
  (setting.report.map fun _ => attachment).toList

/-- A diagnosis ends where the page does not tell whether it is closed. -/
theorem captureFailure_of_unanswered {incident : Incident}
    (hclosed : browser.isClosed world.browser = (.error incident, state)) :
    (captureFailure browser setting id).outcome world =
      (.error (.raised incident), { world with browser := state }) := by
  have hask : (Run.ask browser.isClosed).outcome world =
      (.error (.raised incident), { world with browser := state }) := by
    simp only [Run.outcome, Run.ask, hclosed]
    rfl
  exact Run.outcome_bind_of_error hask

/-- Nothing is captured from a closed page. -/
theorem captureFailure_of_closed
    (hclosed : browser.isClosed world.browser = (.ok true, state)) :
    (captureFailure browser setting id).outcome world =
      (.ok none, World.told { world with browser := state } (.notCaptured id)) := by
  have hask : (Run.ask browser.isClosed).outcome world =
      (.ok true, { world with browser := state }) := by
    simp only [Run.outcome, Run.ask, hclosed]
    rfl
  exact Run.outcome_bind_of_ok hask

/-- An open page is gone on with: directories, picture, event, attachment. -/
theorem captureFailure_of_open
    (hclosed : browser.isClosed world.browser = (.ok false, state)) :
    (captureFailure browser setting id).outcome world =
      (do
        Run.ensureDirectories (setting.pictureDirectory)
        let content ← Run.screenshot browser (setting.picturePath id) true
        Run.tell (.captured id (setting.picturePath id))
        attachTo setting.report (failureAttachment id content)
        return some (setting.picturePath id) :
          Run σ (Option (List Char))).outcome { world with browser := state } := by
  have hask : (Run.ask browser.isClosed).outcome world =
      (.ok false, { world with browser := state }) := by
    simp only [Run.outcome, Run.ask, hclosed]
    rfl
  exact Run.outcome_bind_of_ok hask

/-- A diagnosis ends where the directory of pictures cannot be made. -/
theorem captureFailure_of_noDirectory {error : Files.FileError}
    (hclosed : browser.isClosed world.browser = (.ok false, state))
    (hdirectory : world.tree.ensureDirectories setting.pictureDirectory = (tree, some error)) :
    (captureFailure browser setting id).outcome world =
      (.error (.files error), { world with browser := state, tree }) := by
  rw [captureFailure_of_open browser setting id hclosed]
  apply Run.outcome_bind_of_error
  simp only [Run.outcome, Run.ensureDirectories, hdirectory]

/-- A diagnosis ends where the picture cannot be taken. -/
theorem captureFailure_of_noPicture {incident : Incident}
    (hclosed : browser.isClosed world.browser = (.ok false, state))
    (hdirectory : world.tree.ensureDirectories setting.pictureDirectory = (tree, none))
    (hpicture : browser.screenshot (setting.picturePath id) true (state, tree) =
      (.error incident, after, written)) :
    (captureFailure browser setting id).outcome world =
      (.error (.raised incident),
        { world with
          browser := after
          tree := written
          calls := world.calls ++ [.screenshot (setting.picturePath id) true] }) := by
  rw [captureFailure_of_open browser setting id hclosed]
  have hmade : (Run.ensureDirectories setting.pictureDirectory).outcome
      { world with browser := state } = (.ok (), { world with browser := state, tree }) := by
    simp only [Run.outcome, Run.ensureDirectories, hdirectory]
  rw [Run.outcome_bind_of_ok hmade]
  apply Run.outcome_bind_of_error
  simp only [Run.outcome, Run.screenshot, hpicture]
  rfl

/-- A picture that was taken is told and handed to the report. -/
theorem captureFailure_of_picture {content : List UInt8}
    (hclosed : browser.isClosed world.browser = (.ok false, state))
    (hdirectory : world.tree.ensureDirectories setting.pictureDirectory = (tree, none))
    (hpicture : browser.screenshot (setting.picturePath id) true (state, tree) =
      (.ok content, after, written)) :
    (captureFailure browser setting id).outcome world =
      ((setting.reported (failureAttachment id content)).map fun _ => some (setting.picturePath id),
        { World.told world (.captured id (setting.picturePath id)) with
          browser := after
          tree := written
          calls := world.calls ++ [.screenshot (setting.picturePath id) true]
          attached := world.attached ++ setting.handed (failureAttachment id content) }) := by
  rw [captureFailure_of_open browser setting id hclosed]
  have hmade : (Run.ensureDirectories setting.pictureDirectory).outcome
      { world with browser := state } = (.ok (), { world with browser := state, tree }) := by
    simp only [Run.outcome, Run.ensureDirectories, hdirectory]
  have htaken : (Run.screenshot browser (setting.picturePath id) true).outcome
      { world with browser := state, tree } =
        (.ok content,
          { world with
            browser := after
            tree := written
            calls := world.calls ++ [.screenshot (setting.picturePath id) true] }) := by
    simp only [Run.outcome, Run.screenshot, hpicture]
    rfl
  rw [Run.outcome_bind_of_ok hmade, Run.outcome_bind_of_ok htaken,
    Run.outcome_bind_of_ok (Run.outcome_tell _ _), Run.outcome_bind]
  unfold Setting.reported Setting.handed attachTo
  cases hreport : setting.report with
  | none => simp [Run.outcome_pure, World.told, Except.map]
  | some report =>
    simp only [Run.outcome, Run.attach]
    cases report (failureAttachment id content) <;> rfl

/-- What a diagnosis meets, by the first of its parts that fails. -/
inductive CaptureCase (world : World σ) : Prop
  | unanswered (incident : Incident) (state : σ)
    (hclosed : browser.isClosed world.browser = (.error incident, state))
  | closed (state : σ) (hclosed : browser.isClosed world.browser = (.ok true, state))
  | noDirectory (error : Files.FileError) (state : σ) (tree : Files.Tree)
    (hclosed : browser.isClosed world.browser = (.ok false, state))
    (hdirectory : world.tree.ensureDirectories setting.pictureDirectory = (tree, some error))
  | noPicture (incident : Incident) (state after : σ) (tree written : Files.Tree)
    (hclosed : browser.isClosed world.browser = (.ok false, state))
    (hdirectory : world.tree.ensureDirectories setting.pictureDirectory = (tree, none))
    (hpicture : browser.screenshot (setting.picturePath id) true (state, tree) =
      (.error incident, after, written))
  | picture (content : List UInt8) (state after : σ) (tree written : Files.Tree)
    (hclosed : browser.isClosed world.browser = (.ok false, state))
    (hdirectory : world.tree.ensureDirectories setting.pictureDirectory = (tree, none))
    (hpicture : browser.screenshot (setting.picturePath id) true (state, tree) =
      (.ok content, after, written))

/-- Every diagnosis meets one of the cases. -/
theorem captureCase (world : World σ) : CaptureCase browser setting id world := by
  rcases hclosed : browser.isClosed world.browser with ⟨incident | closed, state⟩
  · exact .unanswered incident state hclosed
  · cases closed with
    | true => exact .closed state hclosed
    | false =>
      rcases hdirectory : world.tree.ensureDirectories setting.pictureDirectory with
        ⟨tree, _ | error⟩
      · rcases hpicture : browser.screenshot (setting.picturePath id) true (state, tree) with
          ⟨incident | content, after, written⟩
        · exact .noPicture incident state after tree written hclosed hdirectory hpicture
        · exact .picture content state after tree written hclosed hdirectory hpicture
      · exact .noDirectory error state tree hclosed hdirectory

/-- A diagnosis makes no call but the one that takes the picture. -/
theorem calls_captureFailure (world : World σ) :
    ∃ diagnosis,
      ((captureFailure browser setting id).outcome world).2.calls = world.calls ++ diagnosis ∧
        ∀ call ∈ diagnosis, call = .screenshot (setting.picturePath id) true := by
  cases captureCase browser setting id world with
  | unanswered incident state hclosed =>
    rw [captureFailure_of_unanswered browser setting id hclosed]
    exact ⟨[], (List.append_nil _).symm, by simp⟩
  | closed state hclosed =>
    rw [captureFailure_of_closed browser setting id hclosed]
    exact ⟨[], (List.append_nil _).symm, by simp⟩
  | noDirectory error state tree hclosed hdirectory =>
    rw [captureFailure_of_noDirectory browser setting id hclosed hdirectory]
    exact ⟨[], (List.append_nil _).symm, by simp⟩
  | noPicture incident state after tree written hclosed hdirectory hpicture =>
    rw [captureFailure_of_noPicture browser setting id hclosed hdirectory hpicture]
    exact ⟨[.screenshot (setting.picturePath id) true], rfl, by simp⟩
  | picture content state after tree written hclosed hdirectory hpicture =>
    rw [captureFailure_of_picture browser setting id hclosed hdirectory hpicture]
    exact ⟨[.screenshot (setting.picturePath id) true], rfl, by simp⟩

/-- Whether a diagnosis fails depends on the browser and the files alone. -/
theorem answer_captureFailure_congr {first second : World σ}
    (hbrowser : first.browser = second.browser) (htree : first.tree = second.tree) :
    ((captureFailure browser setting id).outcome first).1 =
      ((captureFailure browser setting id).outcome second).1 := by
  cases captureCase browser setting id first with
  | unanswered incident state hclosed =>
    rw [captureFailure_of_unanswered browser setting id hclosed]
    rw [hbrowser] at hclosed
    rw [captureFailure_of_unanswered browser setting id hclosed]
  | closed state hclosed =>
    rw [captureFailure_of_closed browser setting id hclosed]
    rw [hbrowser] at hclosed
    rw [captureFailure_of_closed browser setting id hclosed]
  | noDirectory error state tree hclosed hdirectory =>
    rw [captureFailure_of_noDirectory browser setting id hclosed hdirectory]
    rw [hbrowser] at hclosed
    rw [htree] at hdirectory
    rw [captureFailure_of_noDirectory browser setting id hclosed hdirectory]
  | noPicture incident state after tree written hclosed hdirectory hpicture =>
    rw [captureFailure_of_noPicture browser setting id hclosed hdirectory hpicture]
    rw [hbrowser] at hclosed
    rw [htree] at hdirectory
    rw [captureFailure_of_noPicture browser setting id hclosed hdirectory hpicture]
  | picture content state after tree written hclosed hdirectory hpicture =>
    rw [captureFailure_of_picture browser setting id hclosed hdirectory hpicture]
    rw [hbrowser] at hclosed
    rw [htree] at hdirectory
    rw [captureFailure_of_picture browser setting id hclosed hdirectory hpicture]

end Diagnosis

end BrowserScenario
