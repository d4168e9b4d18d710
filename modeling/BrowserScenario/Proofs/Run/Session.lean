import BrowserScenario.Proofs.Files.Change
import BrowserScenario.Proofs.Files.Picture
import BrowserScenario.Proofs.Run.Diagnosis
import Mathlib.Data.List.Perm.Subperm

/-!
# What sessions leave in the files

A session is a sequence of runs over one file tree, each with a browser in a state of its own.
Browsers write nothing but the picture at the path that they are given. One run changes the tree
only when it fails while its page is open: it makes directories on the way to its pictures, and
writes its picture. Main statement: after a session of any length every location that differs is
such a directory or the picture of such a run, and there are no more pictures than such runs.
-/

namespace BrowserScenario

open BrowserScenario.Files

/-- A browser that writes nothing but the picture at the path that it is given. -/
def Browser.WritesOnlyPicture {σ : Type} (browser : Browser σ) : Prop :=
  ∀ path fullPage state tree, isAbsolute path = true →
    Change ∅ {namesOf path} tree (browser.screenshot path fullPage (state, tree)).2.2

/-- A run that is to be made: a browser and its state, the setting, the variables, the scenario. -/
structure Task where
  σ : Type
  browser : Browser σ
  state : σ
  setting : Setting
  values : Variables
  scenario : Scenario

namespace Task

/-- The outcome of a run that begins with some files. -/
def outcome (task : Task) (tree : Tree) : Except Failure Unit × World task.σ :=
  (task.scenario.run task.browser task.setting task.values).outcome (.start task.state tree)

/-- The files that a run leaves. -/
def after (task : Task) (tree : Tree) : Tree :=
  (task.outcome tree).2.tree

/-- Whether a run fails, other than by an interrupt, while its page answers that it is open. -/
def failsOpen (task : Task) (tree : Tree) : Bool :=
  match task.scenario.resolve task.values with
  | .error _ => false
  | .ok resolved =>
    match (resolved.perform task.browser).outcome
        (World.started (.start task.state tree) resolved) with
    | (.ok (), _) => false
    | (.error failure, reached) =>
      !failure.isInterrupt && (task.browser.isClosed reached.browser).1.toOption == some false

/-- The location of the picture of a run. -/
def pictureLocation (task : Task) : Location :=
  namesOf task.setting.pictureDirectory ++
    [screenshotName task.scenario.id.toList task.setting.now.stamp]

end Task

/-- The files that runs leave, each of which begins with those that the one before it leaves. -/
def runAll : List Task → Tree → Tree
  | [], tree => tree
  | task :: rest, tree => runAll rest (task.after tree)

/-- The runs of a session that fail while their page is open. -/
def diagnosed : List Task → Tree → List Task
  | [], _ => []
  | task :: rest, tree =>
    if task.failsOpen tree then task :: diagnosed rest (task.after tree)
    else diagnosed rest (task.after tree)

section Diagnosis

variable {σ : Type} {browser : Browser σ} {setting : Setting} {id : String} {world : World σ}

/-- A page that does not answer that it is open leaves the files as they are. -/
theorem tree_captureFailure_of_not_open
    (h : (browser.isClosed world.browser).1.toOption ≠ some false) :
    ((captureFailure browser setting id).outcome world).2.tree = world.tree := by
  rcases hclosed : browser.isClosed world.browser with ⟨incident | closed, state⟩
  · rw [captureFailure_of_unanswered browser setting id hclosed]
  · cases closed with
    | true =>
      rw [captureFailure_of_closed browser setting id hclosed]
      rfl
    | false =>
      rw [hclosed] at h
      exact absurd rfl h

/-- The diagnosis of a failure makes directories on the way to the pictures and writes the picture,
and changes no other files. -/
theorem change_captureFailure (hbrowser : browser.WritesOnlyPicture) :
    Change {location | location <+: namesOf setting.pictureDirectory}
      {namesOf (setting.picturePath id)} world.tree
      ((captureFailure browser setting id).outcome world).2.tree := by
  have hmade := world.tree.change_ensureDirectories setting.pictureDirectory
  have hdirectories (tree : Tree) (failed : Option FileError)
      (h : world.tree.ensureDirectories setting.pictureDirectory = (tree, failed)) :
      Change {location | location <+: namesOf setting.pictureDirectory}
        {namesOf (setting.picturePath id)} world.tree tree := by
    rw [h] at hmade
    exact hmade.mono subset_rfl (Set.empty_subset _)
  have hwritten {state after : σ} {tree written : Tree} {taken : Except Incident (List UInt8)}
      (h : browser.screenshot (setting.picturePath id) true (state, tree) =
        (taken, after, written)) :
      Change {location | location <+: namesOf setting.pictureDirectory}
        {namesOf (setting.picturePath id)} tree written := by
    have hpicture := hbrowser (setting.picturePath id) true state tree
      (isAbsolute_screenshotPath _ _ _ _)
    rw [h] at hpicture
    exact hpicture.mono (Set.empty_subset _) subset_rfl
  cases captureCase browser setting id world with
  | unanswered incident state hclosed =>
    rw [captureFailure_of_unanswered browser setting id hclosed]
    exact .refl _
  | closed state hclosed =>
    rw [captureFailure_of_closed browser setting id hclosed]
    exact .refl _
  | noDirectory error state tree hclosed hdirectory =>
    rw [captureFailure_of_noDirectory browser setting id hclosed hdirectory]
    exact hdirectories tree _ hdirectory
  | noPicture incident state after tree written hclosed hdirectory hpicture =>
    rw [captureFailure_of_noPicture browser setting id hclosed hdirectory hpicture]
    exact (hdirectories tree _ hdirectory).trans (hwritten hpicture)
  | picture content state after tree written hclosed hdirectory hpicture =>
    rw [captureFailure_of_picture browser setting id hclosed hdirectory hpicture]
    exact (hdirectories tree _ hdirectory).trans (hwritten hpicture)

end Diagnosis

namespace Task

variable {task : Task} {tree : Tree}

/-- A run leaves the files as they are, or as the diagnosis of its failure leaves them. -/
theorem after_cases (task : Task) (tree : Tree) :
    (task.failsOpen tree = false ∧ task.after tree = tree) ∨
      ∃ world : World task.σ, world.tree = tree ∧
        (task.failsOpen tree = true ↔
          (task.browser.isClosed world.browser).1.toOption = some false) ∧
        task.after tree = ((captureFailure task.browser task.setting task.scenario.id).outcome
          world).2.tree := by
  cases hresolve : task.scenario.resolve task.values with
  | error name =>
    refine Or.inl ⟨by simp [failsOpen, hresolve], ?_⟩
    simp only [after, outcome, outcome_run_of_unresolved _ _ hresolve]
    rfl
  | ok resolved =>
    rcases hperform : (resolved.perform task.browser).outcome
        (World.started (.start task.state tree) resolved) with ⟨failure | _, reached⟩
    · obtain ⟨made, hprogress⟩ := exists_progress_perform hperform
      cases hinterrupt : failure.isInterrupt with
      | true =>
        refine Or.inl ⟨by simp [failsOpen, hresolve, hperform, hinterrupt], ?_⟩
        simp only [after, outcome, outcome_run_of_interrupt _ _ hresolve hperform hinterrupt]
        exact hprogress.tree_eq
      | false =>
        refine Or.inr ⟨reached.failed resolved failure, hprogress.tree_eq, ?_, ?_⟩
        · simp [failsOpen, hresolve, hperform, hinterrupt, World.failed, World.told]
        · simp only [after, outcome, outcome_run_of_failed _ _ hresolve hperform hinterrupt,
            id_resolve hresolve]
    · obtain ⟨made, hprogress⟩ := exists_progress_perform hperform
      refine Or.inl ⟨by simp [failsOpen, hresolve, hperform], ?_⟩
      simp only [after, outcome, outcome_run_of_passed _ _ hresolve hperform]
      exact hprogress.tree_eq

/-- A run that does not fail while its page is open leaves the files as they are. -/
theorem after_of_not_failsOpen (h : task.failsOpen tree = false) : task.after tree = tree := by
  rcases task.after_cases tree with ⟨-, hafter⟩ | ⟨world, rfl, hopen, hafter⟩
  · exact hafter
  · rw [hafter]
    exact tree_captureFailure_of_not_open fun hanswer => by simp [hopen.2 hanswer] at h

/-- A run makes directories on the way to its pictures and writes its picture, and changes no other
files. -/
theorem change_after (hbrowser : task.browser.WritesOnlyPicture) (tree : Tree) :
    Change {location | location <+: namesOf task.setting.pictureDirectory} {task.pictureLocation}
      tree (task.after tree) := by
  rcases task.after_cases tree with ⟨-, hafter⟩ | ⟨world, rfl, -, hafter⟩
  · rw [hafter]
    exact .refl tree
  · have hlocation : namesOf (task.setting.picturePath task.scenario.id) = task.pictureLocation :=
      namesOf_screenshotPath _ _ _ _
    rw [hafter, ← hlocation]
    exact change_captureFailure hbrowser

end Task

/-- A session makes directories on the way to the pictures of the runs that fail while their page
is open, and writes the pictures of these runs, and changes no other files. -/
theorem change_runAll {tasks : List Task}
    (hbrowsers : ∀ task ∈ tasks, task.browser.WritesOnlyPicture) (tree : Tree) :
    Change
      {location | ∃ task ∈ diagnosed tasks tree, location <+: namesOf task.setting.pictureDirectory}
      {location | ∃ task ∈ diagnosed tasks tree, location = task.pictureLocation}
      tree (runAll tasks tree) := by
  induction tasks generalizing tree with
  | nil => exact .refl tree
  | cons task rest ih =>
    obtain ⟨hbrowser, hrest⟩ := List.forall_mem_cons.1 hbrowsers
    have hlater := ih hrest (task.after tree)
    rw [runAll, diagnosed]
    cases hopen : task.failsOpen tree with
    | false =>
      -- The rest of the session begins with the files as they were.
      rw [Task.after_of_not_failsOpen hopen] at hlater ⊢
      exact hlater
    | true =>
      have hfirst := task.change_after hbrowser tree
      rw [if_pos rfl]
      refine (hfirst.mono ?_ ?_).trans (hlater.mono ?_ ?_)
      · exact fun location hlocation => ⟨task, List.mem_cons_self, hlocation⟩
      · exact fun location hlocation => ⟨task, List.mem_cons_self, hlocation⟩
      · rintro location ⟨other, hother, hlocation⟩
        exact ⟨other, List.mem_cons_of_mem _ hother, hlocation⟩
      · rintro location ⟨other, hother, hlocation⟩
        exact ⟨other, List.mem_cons_of_mem _ hother, hlocation⟩

/-- After a session every location that differs is a directory on the way to the pictures of a run
that failed while its page was open, or the picture of such a run, whose name is that of the
scenario made safe, with the stamp of the run; and there are no more such pictures than such
runs. -/
theorem session_writes_only_pictures (tasks : List Task) (tree : Tree)
    (hbrowsers : ∀ task ∈ tasks, task.browser.WritesOnlyPicture) :
    (∀ location, (runAll tasks tree).get? location ≠ tree.get? location →
      ((runAll tasks tree).get? location = some .directory ∧ tree.get? location = none ∧
        ∃ task ∈ diagnosed tasks tree, location <+: namesOf task.setting.pictureDirectory) ∨
      ((∃ content, (runAll tasks tree).get? location = some (.file content)) ∧
        ∃ task ∈ diagnosed tasks tree, ∃ name, IsPictureName name ∧
          name = safeName task.scenario.id.toList ++ '-' :: task.setting.now.stamp ++
            ".png".toList ∧
          location = namesOf task.setting.pictureDirectory ++ [name])) ∧
    ∀ locations : List Location, locations.Nodup →
      (∀ location ∈ locations, (runAll tasks tree).get? location ≠ tree.get? location ∧
        ∃ content, (runAll tasks tree).get? location = some (.file content)) →
      locations.length ≤ (diagnosed tasks tree).length := by
  have hchange := change_runAll hbrowsers tree
  refine ⟨fun location hdiffers => ?_, fun locations hnodup hfiles => ?_⟩
  · have hlocation := hchange location
    generalize tree.get? location = found at hdiffers hlocation ⊢
    generalize (runAll tasks tree).get? location = later at hdiffers hlocation ⊢
    cases hlocation with
    | kept => exact absurd rfl hdiffers
    | made hmade => exact Or.inl ⟨rfl, rfl, hmade⟩
    | written hwritten _ content =>
      obtain ⟨task, htask, rfl⟩ := hwritten
      exact Or.inr ⟨⟨content, rfl⟩, task, htask, _, isPictureName_screenshotName _ _, rfl, rfl⟩
  · have hpictures : locations ⊆ (diagnosed tasks tree).map Task.pictureLocation := by
      intro location hmem
      obtain ⟨hdiffers, content, hfile⟩ := hfiles location hmem
      have hlocation := hchange location
      rw [hfile] at hdiffers hlocation
      generalize tree.get? location = found at hdiffers hlocation
      cases hlocation with
      | kept => exact absurd rfl hdiffers
      | written hwritten _ content =>
        obtain ⟨task, htask, rfl⟩ := hwritten
        exact List.mem_map_of_mem htask
    have hlength := (hnodup.subperm hpictures).length_le
    rwa [List.length_map] at hlength

/-- A rehearsed browser writes nothing but the picture at the path that it is given. -/
theorem Rehearsal.browser_writesOnlyPicture : Rehearsal.browser.WritesOnlyPicture := by
  intro path fullPage state tree hpath
  simp only [Rehearsal.browser, Rehearsal.Script.picture]
  rcases state.script.attempt "screenshot" with ⟨incident | _, after⟩
  · exact .refl tree
  · simp only [Rehearsal.savePicture]
    cases hwrite : tree.write state.directory path Rehearsal.pictureContent with
    | error error => exact .refl tree
    | ok written => exact Tree.change_write hpath hwrite

/-- A rehearsal in which everything is answered. -/
def answering : Rehearsal.BrowserState :=
  ⟨⟨[], false, []⟩, [], []⟩

/-- Two runs of a scenario whose identity reads like a path: one passes, and the other one meets an
address that does not answer. -/
def pathLikeSession : List Task :=
  [answering, unanswering].map fun state =>
    ⟨_, Rehearsal.browser, state, reporting, .empty, { bareVisit with id := "../a b" }⟩

/-- The session with an identity that reads like a path leaves one picture, inside the directory of
pictures. -/
theorem session_writes_only_pictures_pathLike :
    (∀ task ∈ pathLikeSession, task.browser.WritesOnlyPicture) ∧
      (diagnosed pathLikeSession .empty).length = 1 ∧
      (runAll pathLikeSession .empty).get? ["test-results".toList, "screenshots".toList,
          "___a_b-0001-01-01T00-00-00-000Z.png".toList] =
        some (.file Rehearsal.pictureContent) ∧
      ∀ locations : List Location, locations.Nodup →
        (∀ location ∈ locations,
          (runAll pathLikeSession .empty).get? location ≠ Tree.empty.get? location ∧
            ∃ content, (runAll pathLikeSession .empty).get? location = some (.file content)) →
        locations.length ≤ 1 := by
  have hbrowsers : ∀ task ∈ pathLikeSession, task.browser.WritesOnlyPicture := by
    intro task htask
    obtain ⟨state, -, rfl⟩ := List.mem_map.1 htask
    exact Rehearsal.browser_writesOnlyPicture
  have hlength : (diagnosed pathLikeSession .empty).length = 1 := by decide +kernel
  obtain ⟨-, hcount⟩ := session_writes_only_pictures pathLikeSession .empty hbrowsers
  exact ⟨hbrowsers, hlength, by decide +kernel, hlength ▸ hcount⟩

end BrowserScenario
