import BrowserScenario.Proofs.Files.Picture
import BrowserScenario.Suite.Context

/-!
# Contexts that are released

After a scenario the trace of its context ends, if there is one: it is discarded, or kept when the
scenario failed, and then the directory of traces has to be made first. Either may fail. Main
statement: whatever comes of the trace, closing the context is the last call and there is no other
one, and what failed before it is what the scenario ends with; only a failed scenario leaves anything
but what the context itself leaves.
-/

namespace BrowserScenario.Suite

open BrowserScenario.Files

variable {ε : Type} {tracer : Tracer ε} {tree : Tree} {folder path : List Char} {traced : Bool}
  {outcome : Option Outcome} {ended : Served ε}

/-- How the trace of a scenario ends, by whether there is one and how the scenario went: what is
asked of the context, the files that are left and what the end fails with. -/
inductive Tracer.Ends (tracer : Tracer ε) (tree : Tree) (folder path : List Char) :
    Bool → Option Outcome → Served ε → Prop
  | untraced (outcome : Option Outcome) : Ends tracer tree folder path false outcome ⟨[], tree, none⟩
  | discarded {outcome : Option Outcome} {left : Tree} {error : Option ε}
    (houtcome : outcome ≠ some .failed) (hstop : tracer.stop none tree = (left, error)) :
    Ends tracer tree folder path true outcome ⟨[.stopTracing none], left, error⟩
  | kept {made left : Tree} {error : Option ε}
    (hmade : tree.ensureDirectories folder = (made, none))
    (hstop : tracer.stop (some path) made = (left, error)) :
    Ends tracer tree folder path true (some .failed) ⟨[.stopTracing (some path)], left, error⟩
  | unsaved {made : Tree} {error : FileError}
    (hmade : tree.ensureDirectories folder = (made, some error)) :
    Ends tracer tree folder path true (some .failed) ⟨[], made, some (tracer.fileError error)⟩

/-- The end of a trace does not close the context. -/
theorem Tracer.Ends.close_not_mem (h : tracer.Ends tree folder path traced outcome ended) :
    .close ∉ ended.calls := by
  cases h <;> simp

/-- Tracing is stopped with a path when the scenario failed, and the path is then the given one. -/
theorem Tracer.Ends.path_of_mem (h : tracer.Ends tree folder path traced outcome ended)
    {given : Option (List Char)} (hmem : .stopTracing given ∈ ended.calls) :
    given = none ∧ outcome ≠ some .failed ∨ given = some path ∧ outcome = some .failed := by
  cases h with
  | untraced => exact absurd hmem List.not_mem_nil
  | discarded houtcome hstop =>
    exact .inl ⟨ContextCall.stopTracing.inj (List.mem_singleton.1 hmem), houtcome⟩
  | kept hmade hstop =>
    exact .inr ⟨ContextCall.stopTracing.inj (List.mem_singleton.1 hmem), rfl⟩
  | unsaved hmade => exact absurd hmem List.not_mem_nil

/-- Without a trace, or when the scenario did not fail, nothing is left but what the context leaves of
the files as they were. -/
theorem Tracer.Ends.tree_eq (h : tracer.Ends tree folder path traced outcome ended)
    (hunkept : traced = false ∨ outcome ≠ some .failed) :
    ended.tree = if traced then (tracer.stop none tree).1 else tree := by
  cases h with
  | untraced => rfl
  | discarded houtcome hstop =>
    rw [if_pos rfl, hstop]
  | kept hmade hstop => simp at hunkept
  | unsaved hmade => simp at hunkept

/-- After a scenario the trace ends and then the context is closed. -/
theorem Tracer.exists_ends (tracer : Tracer ε) (settings : Settings) (tree : Tree)
    (directory id results : List Char) (outcome : Option Outcome) :
    ∃ ended, tracer.Ends tree (traceDirectory directory (some results))
        (tracePath directory id (some results)) settings.trace outcome ended ∧
      tracer.closing settings tree directory id results outcome =
        { ended with calls := ended.calls ++ [.close] } := by
  unfold closing
  cases settings.trace with
  | false => exact ⟨_, .untraced outcome, rfl⟩
  | true =>
    refine ⟨_, ?_, rfl⟩
    rw [if_pos rfl]
    by_cases hfailed : outcome = some .failed
    · subst hfailed
      -- The context is asked only if the directory is there; otherwise the end fails before.
      unfold stopTracing
      rw [if_pos (by rfl)]
      rcases hmade : tree.ensureDirectories (traceDirectory directory (some results)) with
        ⟨made, _ | error⟩
      · exact .kept hmade rfl
      · exact .unsaved hmade
    · have hdropped : (outcome == some .failed) = false := beq_eq_false_iff_ne.2 hfailed
      rw [hdropped]
      exact .discarded hfailed rfl

/-- The directory of traces is one below that of results. -/
theorem isProper_traces : IsProper "traces".toList :=
  ⟨by decide, by decide, by decide, by decide⟩

/-- So is the directory of pictures. -/
theorem isProper_screenshots : IsProper "screenshots".toList :=
  ⟨by decide, by decide, by decide, by decide⟩

/-- So is the directory of videos. -/
theorem isProper_videos : IsProper "videos".toList :=
  ⟨by decide, by decide, by decide, by decide⟩

/-- A trace is directly inside the directory of traces. -/
theorem isProper_traceName (id : List Char) : IsProper (safeName id ++ ".zip".toList) :=
  isProper_of_safe (fun _ => isSafe_of_mem_safeName) (by decide) (by decide)

/-- The path of a trace is below the directory of results: in its directory of traces, under the safe
name of the scenario. -/
theorem namesOf_tracePath (directory id : List Char) (results : Option (List Char)) :
    namesOf (tracePath directory id results) =
      namesOf (resultsRoot directory results) ++ ["traces".toList, safeName id ++ ".zip".toList] := by
  rw [tracePath, namesOf_joinName (isProper_traceName id), traceDirectory,
    namesOf_joinName isProper_traces, List.append_assoc, List.singleton_append]

/-- A context that served a scenario was given its time limits, started tracing where there is a
trace, and opened the page; then the trace ended, and last the context was closed, which it was only
once, whatever the end of the trace failed with. Tracing was stopped with a path exactly when the
scenario failed, and the path is that of the scenario among the traces. Otherwise nothing was done to
the files but by the context. -/
theorem Tracer.servePage_releases (tracer : Tracer ε) (settings : Settings)
    (devices : List (String × ContextOptions)) (engine : String) (tree : Tree)
    (directory id results : List Char) (outcome : Option Outcome) :
    ∃ ended, tracer.Ends tree (traceDirectory directory (some results))
        (tracePath directory id (some results)) settings.trace outcome ended ∧
      tracer.servePage settings devices engine tree directory id results outcome =
        ⟨[.newContext
            (contextOptions devices engine settings.appUrl (videoDirectory settings results)),
          .setDefaultTimeout settings.selectorTimeout,
          .setDefaultNavigationTimeout settings.selectorTimeout]
          ++ (if settings.trace then [.startTracing] else []) ++ [.newPage]
          ++ ended.calls ++ [.close], ended.tree, ended.error⟩ ∧
      .close ∉ ended.calls ∧
      (∀ given, .stopTracing given ∈ ended.calls → (given.isSome = true ↔ outcome = some .failed)) ∧
      (∀ saved, .stopTracing (some saved) ∈ ended.calls →
        namesOf saved = namesOf (resultsRoot directory (some results))
          ++ ["traces".toList, safeName id ++ ".zip".toList]) ∧
      (settings.trace = false ∨ outcome ≠ some .failed →
        ended.tree = if settings.trace then (tracer.stop none tree).1 else tree) := by
  obtain ⟨ended, hends, hclosing⟩ := tracer.exists_ends settings tree directory id results outcome
  refine ⟨ended, hends, ?_, hends.close_not_mem, fun given hmem => ?_, fun saved hmem => ?_,
    hends.tree_eq⟩
  · rw [servePage, hclosing, openingCalls, List.append_assoc _ ended.calls]
  · rcases hends.path_of_mem hmem with ⟨rfl, hpassed⟩ | ⟨rfl, hfailed⟩
    · simp [hpassed]
    · simp [hfailed]
  · rcases hends.path_of_mem hmem with ⟨hnone, -⟩ | ⟨hsaved, -⟩
    · exact nomatch hnone
    · rw [Option.some.inj hsaved, namesOf_tracePath]

/-- A tree with a file in the place of the directory of results. -/
def blockedTree : Tree :=
  ⟨[(["w".toList], .directory), (["w".toList, "res".toList], .file [])]⟩

/-- Settings that ask for traces. -/
def tracedSettings : Settings :=
  ⟨30000, 30000, 0, false, 0, "firefox", "https://example.com", false, true, "res",
    "data/testScenarios.json", ".env", "", "", ""⟩

/-- Where the directory of traces cannot be made, a failed scenario ends with the reason for it, its
tracing is not stopped, and its context is closed. -/
theorem Tracer.servePage_releases_blocked : ∃ served,
    served = Tracer.plain.servePage tracedSettings [] "firefox" blockedTree "/w".toList "a/b".toList
      "res".toList (some .failed) ∧
    served.error = some ⟨.notDirectory, "/w/res/traces".toList⟩ ∧
    served.calls = [.newContext [("base_url", .text "https://example.com")],
      .setDefaultTimeout 30000, .setDefaultNavigationTimeout 30000, .startTracing, .newPage,
      .close] := by
  obtain ⟨ended, hends, hserved, -⟩ := Tracer.servePage_releases Tracer.plain tracedSettings []
    "firefox" blockedTree "/w".toList "a/b".toList "res".toList (some .failed)
  have hblocked : (blockedTree.ensureDirectories (traceDirectory "/w".toList (some "res".toList))).2 =
      some ⟨.notDirectory, "/w/res/traces".toList⟩ := by
    decide +kernel
  refine ⟨_, hserved.symm, ?_⟩
  cases hends with
  | discarded houtcome hstop => exact absurd rfl houtcome
  | kept hmade hstop =>
    rw [hmade] at hblocked
    exact nomatch hblocked
  | unsaved hmade =>
    rw [hmade] at hblocked
    exact ⟨hblocked, rfl⟩

end BrowserScenario.Suite
