import BrowserScenario.Proofs.Data.Checked
import BrowserScenario.Proofs.Variables.Entries
import BrowserScenario.Settings.Load
import Mathlib.Data.List.Nodup

/-!
# Where settings come from

In an environment every name has one value. Where it has the names of the settings in no other case,
a setting is looked up by its exact name, and an assignment file counts only for names that the
environment does not have. Main statements: setting a setting keeps an environment as it should
be; and a textual field is the text of the preferred source, empty or not, in the form that its
check gives it.
-/

namespace BrowserScenario

open BrowserScenario.Settings BrowserScenario.Text

/-- Variables as the environment of a process has them, with the names of the settings in no other
case: no name is there twice, and no other name differs from that of a setting in case alone. -/
structure IsEnvironment (environment : Variables) : Prop where
  nodup : (environment.entries.map Prod.fst).Nodup
  exact_case : ∀ key ∈ environment.entries.map Prod.fst, ∀ name ∈ Settings.names,
    foldedName key.toList = foldedName name.toList → key = name

variable {α : Type} {name : String}
  {environment : Variables} {sources : SettingSources} {settings : Settings}

/-- A setting that is set in an environment leaves an environment. -/
theorem IsEnvironment.set (h : IsEnvironment environment) (hname : name ∈ Settings.names)
    (value : String) : IsEnvironment (environment.set name value) := by
  have hexact : ∀ first ∈ Settings.names, ∀ second ∈ Settings.names,
      foldedName first.toList = foldedName second.toList → first = second := by decide
  refine ⟨Variables.nodup_keys_setIn h.nodup name value, ?_⟩
  intro key hkey other hother hfolded
  change key ∈ (Variables.setIn name value environment.entries).map Prod.fst at hkey
  rw [Variables.keys_setIn] at hkey
  split at hkey
  · exact h.exact_case key hkey other hother hfolded
  · rcases List.mem_append.1 hkey with hold | hnew
    · exact h.exact_case key hold other hother hfolded
    · obtain rfl := List.mem_singleton.1 hnew
      exact hexact key hname other hother hfolded

/-- The last value of a name is that of a later entry, or else that of the first. -/
theorem lastFolded?_cons (name : String) (entry : List Char × α) (entries : List (List Char × α)) :
    lastFolded? name (entry :: entries) = (lastFolded? name entries).or
      (if foldedName entry.1 = foldedName name.toList then some entry.2 else none) := by
  unfold lastFolded?
  rw [List.reverse_cons, List.find?_append]
  cases entries.reverse.find? fun entry => foldedName entry.1 == foldedName name.toList with
  | some found => rfl
  | none =>
    by_cases hentry : foldedName entry.1 = foldedName name.toList
    · simp [hentry]
    · simp [hentry]

/-- In an environment a setting is looked up by its exact name. -/
theorem IsEnvironment.lastFolded?_eq (h : IsEnvironment environment)
    (hname : name ∈ Settings.names) :
    lastFolded? name (environment.entries.map fun entry => (entry.1.toList, entry.2)) =
      environment.get? name := by
  obtain ⟨entries⟩ := environment
  obtain ⟨hnodup, hexact⟩ := h
  change _ = Variables.lookupIn name entries
  simp only at hnodup hexact ⊢
  induction entries with
  | nil => rfl
  | cons entry rest ih =>
    obtain ⟨hfirst, hrest⟩ := List.nodup_cons.1 hnodup
    obtain ⟨hentry, hothers⟩ := List.forall_mem_cons.1 hexact
    rw [List.map_cons, lastFolded?_cons, ih hrest hothers, Variables.lookupIn]
    -- The last entry of the name counts for the settings and the first for the environment; without
    -- repetition there is only one.
    by_cases hkey : entry.1 = name
    · subst hkey
      rw [Variables.lookupIn_eq_none hfirst, if_pos rfl, if_pos rfl]
      rfl
    · rw [if_neg fun hfolded => hkey (hentry name hname hfolded), if_neg hkey, Option.or_none]

/-- The text that an assignment file gives to a setting, whose name may be in any case. -/
def fileText? (assigned : List (List Char × Option (List Char))) (name : String) : Option String :=
  (lastFolded? name assigned).join.map String.ofList

/-- The text of a setting without arguments: that of the environment, or else that of the file. -/
def SettingSources.text? (sources : SettingSources) (name : String) : Option String :=
  (sources.environment.get? name).or (fileText? sources.assigned name)

/-- Without arguments the value of a setting is its text. -/
theorem SettingSources.value?_eq (harguments : sources.arguments = [])
    (henvironment : IsEnvironment sources.environment) (hname : name ∈ Settings.names) :
    sources.value? name = (sources.text? name).map Data.text := by
  unfold value? fromEnvironment? fromFile? text? fileText?
  rw [harguments, henvironment.lastFolded?_eq hname]
  cases sources.environment.get? name with
  | some text => rfl
  | none => cases (lastFolded? name sources.assigned).join <;> rfl

/-- A field that is trimmed is the text of its setting without blanks at either end. -/
theorem SettingSources.eq_trim_of_trimmedText (harguments : sources.arguments = [])
    (henvironment : IsEnvironment sources.environment) (hname : name ∈ Settings.names)
    {field : String} (h : sources.field name "" trimmedText = .valid field) :
    field = trim ((sources.text? name).getD "") := by
  unfold SettingSources.field at h
  rw [SettingSources.value?_eq harguments henvironment hname] at h
  cases htext : sources.text? name with
  | none =>
    rw [htext] at h
    exact (Checked.valid.inj h).symm
  | some text =>
    rw [htext] at h
    exact (Checked.valid.inj h).symm

/-- The choice of an engine is the text of its setting, trimmed and in lower case. -/
theorem SettingSources.eq_folded_of_engineChoice (harguments : sources.arguments = [])
    (henvironment : IsEnvironment sources.environment) (hname : name ∈ Settings.names)
    {choice : String} (h : sources.field name allEngines engineChoice = .valid choice) :
    choice = folded ((sources.text? name).getD allEngines) := by
  unfold field at h
  rw [SettingSources.value?_eq harguments henvironment hname] at h
  cases htext : sources.text? name with
  | none =>
    rw [htext] at h
    obtain rfl : allEngines = choice := Checked.valid.inj h
    decide +kernel
  | some text =>
    rw [htext] at h
    have hchecked := (Checked.within_eq_valid_iff _ _ _).1 h
    simp only [engineChoice, Checked.plainText, andThen] at hchecked
    split at hchecked
    · exact (Checked.valid.inj hchecked).symm
    · exact absurd hchecked (Checked.fail_ne_valid _ _)

/-- Settings that were read from sources: every field is the value that its check gives. -/
structure IsReadFrom (settings : Settings) (sources : SettingSources) : Prop where
  selectorTimeout : sources.field "SELECTOR_TIMEOUT" 30000 integer = .valid settings.selectorTimeout
  scriptTimeout : sources.field "SCRIPT_TIMEOUT" 30000 count = .valid settings.scriptTimeout
  retry : sources.field "RETRY" 0 count = .valid settings.retry
  headless : sources.field "HEADLESS" false truth = .valid settings.headless
  slowMotion : sources.field "SLOWMO" 0 integer = .valid settings.slowMotion
  browser : sources.field "BROWSER" allEngines engineChoice = .valid settings.browser
  appUrl :
    sources.field "DEMO_APP_URL" "https://example.com" Checked.plainText = .valid settings.appUrl
  video : sources.field "VIDEO" true truth = .valid settings.video
  trace : sources.field "TRACE" false truth = .valid settings.trace
  resultsDirectory :
    sources.field "RESULTS_DIR" "test-results" Checked.plainText = .valid settings.resultsDirectory
  scenarioFile :
    sources.field "SCENARIO_FILE" "data/testScenarios.json" Checked.plainText =
      .valid settings.scenarioFile
  variablesFile : sources.field "ENV_FILE" ".env" Checked.plainText = .valid settings.variablesFile
  testId : sources.field "TEST_ID" "" trimmedText = .valid settings.testId
  testTag : sources.field "TEST_TAG" "" trimmedText = .valid settings.testTag
  testName : sources.field "TEST_NAME" "" trimmedText = .valid settings.testName

/-- Sources give settings exactly when every field is valid, and the settings are then these
fields. -/
theorem ofSources_eq_valid_iff :
    Settings.ofSources sources = .valid settings ↔ IsReadFrom settings sources := by
  unfold Settings.ofSources
  apply Iff.intro
  · intro h
    -- The checks are put together from the left, so the last field is the first to come off.
    obtain ⟨_, testName, h₁, htestName, rfl⟩ := (Checked.seq_eq_valid_iff _ _ _).1 h
    obtain ⟨_, testTag, h₂, htestTag, rfl⟩ := (Checked.seq_eq_valid_iff _ _ _).1 h₁
    obtain ⟨_, testId, h₃, htestId, rfl⟩ := (Checked.seq_eq_valid_iff _ _ _).1 h₂
    obtain ⟨_, variablesFile, h₄, hvariablesFile, rfl⟩ := (Checked.seq_eq_valid_iff _ _ _).1 h₃
    obtain ⟨_, scenarioFile, h₅, hscenarioFile, rfl⟩ := (Checked.seq_eq_valid_iff _ _ _).1 h₄
    obtain ⟨_, resultsDirectory, h₆, hresultsDirectory, rfl⟩ :=
      (Checked.seq_eq_valid_iff _ _ _).1 h₅
    obtain ⟨_, trace, h₇, htrace, rfl⟩ := (Checked.seq_eq_valid_iff _ _ _).1 h₆
    obtain ⟨_, video, h₈, hvideo, rfl⟩ := (Checked.seq_eq_valid_iff _ _ _).1 h₇
    obtain ⟨_, appUrl, h₉, happUrl, rfl⟩ := (Checked.seq_eq_valid_iff _ _ _).1 h₈
    obtain ⟨_, browser, h₁₀, hbrowser, rfl⟩ := (Checked.seq_eq_valid_iff _ _ _).1 h₉
    obtain ⟨_, slowMotion, h₁₁, hslowMotion, rfl⟩ := (Checked.seq_eq_valid_iff _ _ _).1 h₁₀
    obtain ⟨_, headless, h₁₂, hheadless, rfl⟩ := (Checked.seq_eq_valid_iff _ _ _).1 h₁₁
    obtain ⟨_, retry, h₁₃, hretry, rfl⟩ := (Checked.seq_eq_valid_iff _ _ _).1 h₁₂
    obtain ⟨_, scriptTimeout, h₁₄, hscriptTimeout, rfl⟩ := (Checked.seq_eq_valid_iff _ _ _).1 h₁₃
    obtain ⟨selectorTimeout, hselectorTimeout, rfl⟩ := (Checked.map_eq_valid_iff _ _ _).1 h₁₄
    exact ⟨hselectorTimeout, hscriptTimeout, hretry, hheadless, hslowMotion, hbrowser, happUrl,
      hvideo, htrace, hresultsDirectory, hscenarioFile, hvariablesFile, htestId, htestTag,
      htestName⟩
  · intro h
    simp only [Checked.seq_eq_valid_iff, Checked.map_eq_valid_iff]
    exact ⟨_, _, ⟨_, _, ⟨_, _, ⟨_, _, ⟨_, _, ⟨_, _, ⟨_, _, ⟨_, _, ⟨_, _, ⟨_, _, ⟨_, _, ⟨_, _, ⟨_, _,
      ⟨_, _, ⟨_, h.selectorTimeout, rfl⟩, h.scriptTimeout, rfl⟩, h.retry, rfl⟩, h.headless, rfl⟩,
      h.slowMotion, rfl⟩, h.browser, rfl⟩, h.appUrl, rfl⟩, h.video, rfl⟩, h.trace, rfl⟩,
      h.resultsDirectory, rfl⟩, h.scenarioFile, rfl⟩, h.variablesFile, rfl⟩, h.testId, rfl⟩,
      h.testTag, rfl⟩, h.testName, rfl⟩

/-- Settings are loaded exactly when the assignments are, and the fields are then those of the
arguments, the environment and the assignments. -/
theorem loadSettings_eq_ok_iff {tree : Files.Tree} {directory : Files.Location}
    {arguments : List (String × Data)} :
    loadSettings tree directory arguments environment = .ok settings ↔
      ∃ assigned, assignmentsBeside tree directory arguments environment = .ok assigned ∧
        IsReadFrom settings ⟨arguments, environment, assigned⟩ := by
  unfold loadSettings
  simp only [← ofSources_eq_valid_iff]
  cases assignmentsBeside tree directory arguments environment with
  | error failure => simp
  | ok assigned =>
    cases hsources : Settings.ofSources ⟨arguments, environment, assigned⟩ with
    | valid loaded => simp [hsources]
    | invalid first more => simp [hsources]

end BrowserScenario
