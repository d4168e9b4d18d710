import BrowserScenario.Proofs.Files.Clean
import BrowserScenario.Proofs.Run.Diagnosis
import BrowserScenario.Proofs.Suite.Release

/-!
# One directory of results

The directory of results is worked out once for a session, and again from the outcome for every
picture and every trace. Main statement: the second time changes nothing, because the first gives a
clean path, so the pictures, traces and videos of a session all lie under one root.
-/

namespace BrowserScenario.Suite

open BrowserScenario.Files

section Root

variable {directory path : List Char}

/-- The directory of results is a clean path. -/
theorem isClean_resultsRoot (directory : List Char) (results : Option (List Char)) :
    IsClean (resultsRoot directory results) := by
  unfold resultsRoot
  split
  · exact isClean_clean directory _
  · exact isClean_clean directory _

/-- A path other than the empty one is made clean. -/
theorem resultsRoot_of_ne_nil (hpath : path ≠ []) :
    resultsRoot directory (some path) = clean directory path := by
  obtain ⟨c, rest, rfl⟩ := List.exists_cons_of_ne_nil hpath
  rfl

/-- The paths that stay as they are as directories of results are the clean ones. -/
theorem resultsRoot_eq_self_iff : resultsRoot directory (some path) = path ↔ IsClean path := by
  constructor
  · intro h
    rw [← h]
    exact isClean_resultsRoot directory (some path)
  · intro h
    have hpath : path ≠ [] := by
      rintro rfl
      exact Bool.false_ne_true h.isAbsolute
    rw [resultsRoot_of_ne_nil hpath]
    exact clean_eq_self_iff.2 h

/-- A directory of results that is found is found at the location that its clean form names. -/
theorem namesOf_resultsRoot_of_locate {tree : Tree} {location : Location}
    (h : tree.locate (namesOf directory) path = .ok location) :
    namesOf (resultsRoot directory (some path)) = location := by
  have hpath : path ≠ [] := by
    rintro rfl
    exact nomatch h
  rw [resultsRoot_of_ne_nil hpath]
  exact Tree.namesOf_clean_of_locate h

end Root

/-- What is inside a directory below a root lies under the root. -/
theorem liesUnder_joinName_joinName {first second : List Char} (root : List Char)
    (hfirst : IsProper first) (hsecond : IsProper second) :
    LiesUnder root (joinName (joinName root first) second) :=
  ⟨[first, second], List.cons_ne_nil _ _, by simp [hfirst, hsecond], rfl⟩

/-- A picture lies under the directory of results. -/
theorem liesUnder_screenshotPath (directory id : List Char) (results : Option (List Char))
    (instant : Time.Instant) :
    LiesUnder (resultsRoot directory results) (screenshotPath directory id results instant) :=
  liesUnder_joinName_joinName _ isProper_screenshots
    (isPictureName_screenshotName id instant).isProper

/-- A trace lies under the directory of results. -/
theorem liesUnder_tracePath (directory id : List Char) (results : Option (List Char)) :
    LiesUnder (resultsRoot directory results) (tracePath directory id results) :=
  liesUnder_joinName_joinName _ isProper_traces (isProper_traceName id)

section Context

variable {ε : Type} {tracer : Tracer ε} {settings : Settings}
  {devices : List (String × ContextOptions)} {engine : String} {tree : Tree}
  {directory id results saved : List Char} {outcome : Option Outcome}

/-- A trace of a scenario is saved at its path. -/
theorem eq_tracePath_of_mem_servePage
    (h : .stopTracing (some saved) ∈
      (tracer.servePage settings devices engine tree directory id results outcome).calls) :
    saved = tracePath directory id (some results) := by
  obtain ⟨ended, hends, hclosing⟩ := tracer.exists_ends settings tree directory id results outcome
  have hopening : .stopTracing (some saved) ∉ openingCalls settings devices engine results := by
    unfold openingCalls
    cases settings.trace <;> simp
  unfold Tracer.servePage at h
  rw [hclosing] at h
  have hended : .stopTracing (some saved) ∈ ended.calls := by
    simpa [hopening] using h
  rcases hends.path_of_mem hended with ⟨hnone, -⟩ | ⟨hsaved, -⟩
  · exact nomatch hnone
  · exact Option.some.inj hsaved

/-- The trace of a scenario that failed is saved where the directory of traces can be made. -/
theorem stopTracing_mem_servePage (htrace : settings.trace = true)
    (hmade : (tree.ensureDirectories (traceDirectory directory (some results))).2 = none) :
    .stopTracing (some (tracePath directory id (some results))) ∈
      (tracer.servePage settings devices engine tree directory id results (some .failed)).calls := by
  obtain ⟨ended, hends, hclosing⟩ :=
    tracer.exists_ends settings tree directory id results (some .failed)
  unfold Tracer.servePage
  rw [hclosing]
  rw [htrace] at hends
  cases hends with
  | discarded houtcome hstop => exact absurd rfl houtcome
  | kept hkept hstop => exact List.mem_append_right _ List.mem_cons_self
  | unsaved hunsaved =>
    rw [hunsaved] at hmade
    exact nomatch hmade

/-- An option that is set is found. -/
theorem lookup_setOption (name : String) (value : Data) (options : ContextOptions) :
    (setOption name value options).lookup name = some value := by
  induction options with
  | nil => simp [setOption]
  | cons option rest ih =>
    obtain ⟨other, old⟩ := option
    by_cases hother : other = name
    · simp [setOption, hother]
    · have hbeq : (name == other) = false := beq_eq_false_iff_ne.2 (Ne.symm hother)
      simp [setOption, hother, List.lookup_cons, hbeq, ih]

/-- Where videos are asked for, the context records them in the directory of videos. -/
theorem lookup_contextOptions_videos (hvideo : settings.video = true) :
    (contextOptions devices engine settings.appUrl (videoDirectory settings results)).lookup
        "record_video_dir" = some (.text (String.ofList (joinName results "videos".toList))) := by
  have hne : (String.ofList (joinName results "videos".toList)).isEmpty = false := by
    unfold joinName
    split <;> simp
  simp only [videoDirectory, hvideo, if_true, contextOptions, hne, Bool.false_eq_true, if_false,
    lookup_setOption]

end Context

/-- The directory of results is a clean path: absolute, of proper names below a root, and with a slash
at its end only if it is a root. Where the path that is asked for can be followed, this is the way to
where it leads. Asking for it again changes nothing, from whatever directory, and what stays as it is
when it is asked for is exactly what is clean. So all pictures of runs that are given this path, and
all traces and videos of contexts that are, lie under it. -/
theorem resultsRoot_projects (directory : List Char) (results : Option (List Char)) :
    ∃ root, resultsRoot directory results = root ∧ isAbsolute root = true ∧ IsClean root ∧
    (root.getLast? = some '/' → root = ['/'] ∨ root = ['/', '/']) ∧
    (∀ (tree : Tree) (path : List Char) (location : Location), results = some path →
      tree.locate (namesOf directory) path = .ok location → namesOf root = location) ∧
    (∀ elsewhere, resultsRoot elsewhere (some root) = root) ∧
    (∀ path, resultsRoot directory (some path) = path ↔ IsClean path) ∧
    (∀ (σ : Type) (browser : Browser σ) (state : σ) (tree : Tree) (setting : Setting)
        (values : Variables) (scenario : Scenario) (path : List Char) (fullPage : Bool),
      setting.results = some root → .screenshot path fullPage ∈
        ((scenario.run browser setting values).outcome (.start state tree)).2.calls →
      LiesUnder root path) ∧
    ∀ (ε : Type) (tracer : Tracer ε) (settings : Settings) (devices : List (String × ContextOptions))
        (engine : String) (tree : Tree) (elsewhere id : List Char) (outcome : Option Outcome),
      let served := tracer.servePage settings devices engine tree elsewhere id root outcome
      (∀ saved, .stopTracing (some saved) ∈ served.calls → LiesUnder root saved) ∧
      (settings.video = true → ∃ options saved, .newContext options ∈ served.calls ∧
        options.lookup "record_video_dir" = some (.text (String.ofList saved)) ∧
        LiesUnder root saved) := by
  obtain ⟨root, hroot⟩ : ∃ root, resultsRoot directory results = root := ⟨_, rfl⟩
  have hclean : IsClean root := hroot ▸ isClean_resultsRoot directory results
  have hagain (elsewhere : List Char) : resultsRoot elsewhere (some root) = root :=
    resultsRoot_eq_self_iff.2 hclean
  refine ⟨root, hroot, hclean.isAbsolute, hclean, hclean.eq_root_of_getLast?, ?_, hagain,
    fun path => resultsRoot_eq_self_iff, ?_, ?_⟩
  · intro tree path location hresults hlocate
    rw [← hroot, hresults]
    exact namesOf_resultsRoot_of_locate hlocate
  · intro σ browser state tree setting values scenario path fullPage hresults hcall
    have hlies := liesUnder_screenshotPath setting.directory scenario.id.toList setting.results
      setting.now
    rw [eq_picturePath_of_mem_run hcall]
    rw [hresults, hagain] at hlies
    rwa [Setting.picturePath, hresults]
  · intro ε tracer settings devices engine tree elsewhere id outcome served
    refine ⟨fun saved hsaved => ?_, fun hvideo => ?_⟩
    · have hlies := liesUnder_tracePath elsewhere id (some root)
      rwa [hagain, ← eq_tracePath_of_mem_servePage hsaved] at hlies
    · refine ⟨_, _, List.mem_cons_self, lookup_contextOptions_videos hvideo, ["videos".toList],
        List.cons_ne_nil _ _, ?_, rfl⟩
      simpa using isProper_videos

/-- A directory of results with dots and slashes to spare is asked for and asked for again, a visit that
is not answered is pictured below it, and a failed scenario leaves its trace below it. -/
theorem resultsRoot_projects_dots :
    let root := "/w/a/c".toList
    let setting : Setting := { reporting with results := some root }
    resultsRoot "/w".toList (some "a//./b/../c/".toList) = root ∧
    resultsRoot "/".toList (some root) = root ∧
    (∃ path, .screenshot path true ∈ ((bareVisit.run Rehearsal.browser setting .empty).outcome
      (.start unanswering .empty)).2.calls ∧ LiesUnder root path) ∧
    ∃ saved, .stopTracing (some saved) ∈ (Tracer.plain.servePage tracedSettings [] "firefox" .empty
      "/w".toList "a/b".toList root (some .failed)).calls ∧ LiesUnder root saved := by
  intro root setting
  have hroot : resultsRoot "/w".toList (some "a//./b/../c/".toList) = root := by decide +kernel
  have hmade : (Tree.empty.ensureDirectories (traceDirectory "/w".toList (some root))).2 = none := by
    decide +kernel
  have hpicture : .screenshot (setting.picturePath "a/b") true ∈
      ((bareVisit.run Rehearsal.browser setting .empty).outcome
        (.start unanswering .empty)).2.calls := by
    decide +kernel
  obtain ⟨_, rfl, -, -, -, -, hagain, -, hpictures, htraces⟩ :=
    resultsRoot_projects "/w".toList (some "a//./b/../c/".toList)
  rw [hroot] at hagain hpictures htraces
  obtain ⟨hsaves, -⟩ := htraces _ Tracer.plain tracedSettings [] "firefox" .empty "/w".toList
    "a/b".toList (some .failed)
  have hsaved : .stopTracing (some (tracePath "/w".toList "a/b".toList (some root))) ∈
      (Tracer.plain.servePage tracedSettings [] "firefox" .empty "/w".toList "a/b".toList root
        (some .failed)).calls :=
    stopTracing_mem_servePage rfl hmade
  exact ⟨hroot, hagain "/".toList, ⟨_, hpicture, hpictures _ _ _ _ _ _ _ _ _ rfl hpicture⟩,
    _, hsaved, hsaves _ hsaved⟩

end BrowserScenario.Suite
