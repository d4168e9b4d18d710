import BrowserScenario.Command.Launch
import BrowserScenario.Proofs.Command.Given
import BrowserScenario.Proofs.Settings.Sources
import BrowserScenario.Suite.Collection

/-!
# Filters on the command line

A filter goes from the command line into the environment, from there into the settings, and from
there into the collection of tests. Main statement: once a command starts the test runner, the
filters and the engine of its options are in the environment, a value that is empty too, and
everything else is there as it was; and the tests that are collected under these settings are those
of the scenarios that the trimmed filters select, in order, on the engines that are chosen.
-/

namespace BrowserScenario.Command

open BrowserScenario.Files BrowserScenario.Suite BrowserScenario.Text

/-- The parameters that are exported, with the names of the settings that they stand for. -/
def exportedAs : List (Parameter × String) :=
  [(.testId, "TEST_ID"), (.testTag, "TEST_TAG"), (.testName, "TEST_NAME"), (.engine, "BROWSER")]

/-- The text that decides about a setting: the value of its option that is given last, or else what
the environment has, or else what the assignment file has. -/
def decidingText? (givens : List Given) (environment : Variables) (assigned : Settings.Assigned)
    (parameter : Parameter) (name : String) : Option String :=
  ((lastGiven? parameter givens).or (environment.get? name)).or (fileText? assigned name)

variable {environment : Variables} {options : Options} {name : String}

/-- One export sets its name if it has a value, and nothing else. -/
theorem get?_exportOne (environment : Variables) (setting : String × Option String)
    (name : String) :
    (exportOne environment setting).get? name =
      if name = setting.1 then setting.2.or (environment.get? name) else environment.get? name := by
  obtain ⟨key, _ | value⟩ := setting
  · simp [exportOne]
  · rw [exportOne, Variables.get?_set]
    rfl

/-- Exports of settings leave an environment. -/
theorem isEnvironment_exports (h : IsEnvironment environment)
    {settings : List (String × Option String)}
    (hsettings : ∀ setting ∈ settings, setting.1 ∈ Settings.names) :
    IsEnvironment (settings.foldl exportOne environment) := by
  induction settings generalizing environment with
  | nil => exact h
  | cons setting rest ih =>
    obtain ⟨hsetting, hrest⟩ := List.forall_mem_cons.1 hsettings
    refine ih ?_ hrest
    obtain ⟨key, _ | value⟩ := setting
    · exact h
    · exact h.set hsetting value

/-- The environment in which the test runner is started is one. -/
theorem Options.isEnvironment (h : IsEnvironment environment) (options : Options) :
    IsEnvironment (options.environment environment) := by
  refine isEnvironment_exports h ?_
  simp only [exported, List.forall_mem_cons]
  simp [Settings.names]

/-- An exported parameter is in the environment if it has a value; otherwise its name has what it
had. -/
theorem Options.get?_environment (options : Options) (environment : Variables) :
    ∀ entry ∈ exportedAs, (options.environment environment).get? entry.2 =
      (options.get? entry.1).or (environment.get? entry.2) := by
  simp [exportedAs, Options.environment, Options.exported, Options.get?, get?_exportOne]

/-- Browsers without a window are asked for in the environment if the options say so. -/
theorem Options.get?_environment_headless (options : Options) (environment : Variables) :
    (options.environment environment).get? "HEADLESS" =
      if options.headless then some "true" else environment.get? "HEADLESS" := by
  simp only [Options.environment, Options.exported, List.foldl, get?_exportOne]
  cases options.headless <;> rfl

/-- No other name of the environment is changed. -/
theorem Options.get?_environment_of_not_mem (options : Options) (environment : Variables)
    (h : name ∉ "HEADLESS" :: exportedAs.map Prod.snd) :
    (options.environment environment).get? name = environment.get? name := by
  simp only [exportedAs, List.map, List.mem_cons, List.not_mem_nil, or_false, not_or] at h
  simp [Options.environment, Options.exported, get?_exportOne, h]

/-- The start of the test runner that given options and settings ask for. -/
def launchGiven (givens : List Given) (tail : List String) (settings : Settings) : Launch where
  scenarios := (orDefault (lastGiven? .scenarios givens) settings.scenarioFile).toList
  variablesFile := some (orDefault (lastGiven? .variablesFile givens) settings.variablesFile).toList
  report := ((lastGiven? .report givens).filter (!·.isEmpty)).map String.toList
  extra := tail.filter (· != "--")

variable {givens : List Given} {tail : List String} {runner : Started → Int}
  {surroundings : Surroundings} {started : Started} {settings : Settings}

/-- Options that have read words ask for the start that the words give. -/
theorem launchOf_eq (h : HasRead givens tail .none options) :
    launchOf options settings = launchGiven givens tail settings := by
  have hvalue (parameter : Parameter) (hparameter : Options.none.get? parameter = none) :
      options.get? parameter = lastGiven? parameter givens := by
    rw [h.get?_eq, hparameter, Option.or_none]
  have hscenarios : options.scenarios = _ := hvalue .scenarios rfl
  have hvariables : options.variablesFile = _ := hvalue .variablesFile rfl
  have hreport : options.report = _ := hvalue .report rfl
  simp only [launchOf, launchGiven, Options.forwarded, hscenarios, hvariables, hreport,
    h.rest_eq rfl]

/-- A test runner is started with the options that were read and the settings of the environment
in which it is started. -/
theorem exists_of_started {line : List String}
    (h : (perform runner surroundings line).started = some started) :
    ∃ options settings, readOptions line = .ok options ∧
      started.environment = options.environment surroundings.environment ∧
      loadSettings surroundings.tree (namesOf surroundings.directory) [] started.environment =
        .ok settings ∧
      (launchOf options settings).arguments surroundings.project surroundings.directory =
        .ok started.arguments := by
  unfold perform at h
  split at h
  · exact nomatch h
  · rename_i options hoptions
    split at h
    · exact nomatch h
    · split at h
      · exact nomatch h
      · simp only at h
        split at h
        · exact nomatch h
        · rename_i settings hsettings
          unfold launch at h
          simp only at h
          split at h
          · exact nomatch h
          · rename_i arguments harguments
            obtain rfl := Option.some.inj h
            exact ⟨options, settings, hoptions, rfl, hsettings, harguments⟩

/-- The scenarios of a document that settings select are those that are loaded and then kept. -/
theorem selectedScenarios_eq [CharacterNames] (settings : Settings) (tree : Tree)
    (directory : Location) {document : String} (hdocument : document ≠ "") :
    selectedScenarios settings tree directory (some document) =
      (loadScenarios tree directory document).mapError .load >>= fun scenarios =>
        ((selectionOf settings).select scenarios).mapError (.badName settings.testName) := by
  have hempty : document.isEmpty = false := by simpa using hdocument
  simp only [selectedScenarios, hempty]
  cases loadScenarios tree directory document with
  | error error => rfl
  | ok scenarios =>
    cases hselect : (selectionOf settings).select scenarios <;>
      simp [hselect, Except.mapError, bind, Except.bind]

/-- A test of scenarios and engines is collected from the document that is loaded, the scenarios
that are selected and the engines that are chosen. -/
theorem collect_eq [CharacterNames] (settings : Settings) (tree : Tree) (directory : Location)
    {document : String} {fixtures : List String} (hdocument : document ≠ "")
    (hscenarios : scenarioFixture ∈ fixtures) (hengines : engineFixture ∈ fixtures) :
    collect settings tree directory (some document) fixtures = do
      let scenarios ← (loadScenarios tree directory document).mapError .load
      let selected ←
        ((selectionOf settings).select scenarios).mapError (.badName settings.testName)
      return [.scenarios selected, .engines settings.browsers] := by
  have hfixtures : ¬ (!fixtures.contains scenarioFixture) = true := by simpa using hscenarios
  unfold collect
  rw [if_neg hfixtures, selectedScenarios_eq settings tree directory hdocument,
    if_pos (List.contains_iff_mem.2 hengines)]
  cases (loadScenarios tree directory document).mapError CollectionError.load with
  | error error => rfl
  | ok scenarios =>
    simp only [bind, Except.bind]
    cases ((selectionOf settings).select scenarios).mapError
      (CollectionError.badName settings.testName) <;> rfl

/-- Settings that were read without arguments select by the trimmed texts of the filters. -/
theorem selectionOf_eq {sources : SettingSources} (h : IsReadFrom settings sources)
    (harguments : sources.arguments = []) (henvironment : IsEnvironment sources.environment) :
    selectionOf settings = ⟨trim ((sources.text? "TEST_ID").getD ""),
      trim ((sources.text? "TEST_TAG").getD ""), trim ((sources.text? "TEST_NAME").getD "")⟩ := by
  unfold selectionOf
  rw [SettingSources.eq_trim_of_trimmedText harguments henvironment (by decide) h.testId,
    SettingSources.eq_trim_of_trimmedText harguments henvironment (by decide) h.testTag,
    SettingSources.eq_trim_of_trimmedText harguments henvironment (by decide) h.testName]

/-- What decides about a setting is the text of the environment in which the test runner is started,
or else of the assignment file. -/
theorem text?_eq_decidingText? (assigned : Settings.Assigned)
    (hvalues : ∀ entry ∈ exportedAs, started.environment.get? entry.2 =
      (lastGiven? entry.1 givens).or (surroundings.environment.get? entry.2)) :
    ∀ entry ∈ exportedAs, (SettingSources.mk [] started.environment assigned).text? entry.2 =
      decidingText? givens surroundings.environment assigned entry.1 entry.2 := by
  intro entry hentry
  rw [SettingSources.text?, hvalues entry hentry]
  rfl

/-- Once a command with options in their long form starts the test runner, the filters and the
engine of its options are in the environment, of each option the value that is given last; a name
whose option is not given has what it had, as every other name has; and browsers without a window
are asked for if they are given. The settings of this environment are there, the test runner is
started as they and the options ask for, and a test of scenarios and engines is then collected for
the scenarios of the document that the trimmed filters select, in order and under their labels, and
for the engines that are chosen. -/
theorem given_filters_decide [CharacterNames] (runner : Started → Int) (surroundings : Surroundings)
    (givens : List Given) (tail : List String) (started : Started)
    (henvironment : IsEnvironment surroundings.environment) (htail : IsTail tail)
    (hstarted : (perform runner surroundings (givens.map Given.word ++ tail)).started =
      some started) :
    (∀ entry ∈ exportedAs, started.environment.get? entry.2 =
      (lastGiven? entry.1 givens).or (surroundings.environment.get? entry.2)) ∧
    started.environment.get? "HEADLESS" =
      (if .headless ∈ givens then some "true" else surroundings.environment.get? "HEADLESS") ∧
    (∀ name, name ∉ "HEADLESS" :: exportedAs.map Prod.snd →
      started.environment.get? name = surroundings.environment.get? name) ∧
    ∃ assigned settings,
      loadAssignments surroundings.tree (namesOf surroundings.directory) started.environment =
        .ok assigned ∧
      loadSettings surroundings.tree (namesOf surroundings.directory) [] started.environment =
        .ok settings ∧
      (launchGiven givens tail settings).arguments surroundings.project surroundings.directory =
        .ok started.arguments ∧
      let text := decidingText? givens surroundings.environment assigned
      let selection : Selection := ⟨trim ((text .testId "TEST_ID").getD ""),
        trim ((text .testTag "TEST_TAG").getD ""), trim ((text .testName "TEST_NAME").getD "")⟩
      let choice := Settings.folded ((text .engine "BROWSER").getD Settings.allEngines)
      ∀ (directory : Location) (document : String) (fixtures : List String), document ≠ "" →
        scenarioFixture ∈ fixtures → engineFixture ∈ fixtures →
        (collect settings surroundings.tree directory (some document) fixtures = do
          let scenarios ← (loadScenarios surroundings.tree directory document).mapError .load
          let selected ← (selection.select scenarios).mapError (.badName selection.name)
          return [.scenarios selected,
            .engines (if choice = Settings.allEngines then Settings.engines else [choice])]) ∧
        ∀ selected : List Scenario, selected.map testLabel =
          selected.map fun scenario => "[" ++ scenario.id ++ "] " ++ scenario.name := by
  obtain ⟨options, settings, hoptions, hexported, hloaded, harguments⟩ := exists_of_started hstarted
  have hread := hasRead_of_readOptions htail hoptions
  have hnone : ∀ entry ∈ exportedAs, Options.none.get? entry.1 = none := by decide
  have hvalues : ∀ entry ∈ exportedAs, started.environment.get? entry.2 =
      (lastGiven? entry.1 givens).or (surroundings.environment.get? entry.2) := by
    intro entry hentry
    rw [hexported, options.get?_environment surroundings.environment entry hentry, hread.get?_eq,
      hnone entry hentry, Option.or_none]
  obtain ⟨assigned, hassigned, hfields⟩ := loadSettings_eq_ok_iff.1 hloaded
  have hproper : IsEnvironment started.environment := hexported ▸ options.isEnvironment henvironment
  have htext := text?_eq_decidingText? assigned hvalues
  refine ⟨hvalues, ?_, ?_, assigned, settings, hassigned, hloaded, ?_, ?_⟩
  · rw [hexported, options.get?_environment_headless, hread.headless_eq]
    simp [Options.none]
  · intro name hname
    rw [hexported, options.get?_environment_of_not_mem _ hname]
  · rw [← launchOf_eq hread]
    exact harguments
  · intro text selection choice directory document fixtures hdocument hscenarios hengines
    have hselection : selectionOf settings = selection := by
      rw [selectionOf_eq hfields rfl hproper, htext (.testId, "TEST_ID") (by decide),
        htext (.testTag, "TEST_TAG") (by decide), htext (.testName, "TEST_NAME") (by decide)]
    have hchoice : settings.browser = choice := by
      rw [SettingSources.eq_folded_of_engineChoice rfl hproper (by decide) hfields.browser,
        htext (.engine, "BROWSER") (by decide)]
    have hname : settings.testName = selection.name := congrArg Selection.name hselection
    refine ⟨?_, fun selected => rfl⟩
    rw [collect_eq settings surroundings.tree directory hdocument hscenarios hengines, hselection,
      hname, Settings.browsers, hchoice]

/-- Options with an identity that is given twice, the second time empty, and a tag with blanks. -/
def repeatedOptions : List Given :=
  [.valued .testId "login", .headless, .valued .testTag " smoke ", .valued .testId ""]

/-- An environment that has two filters, and an empty tree. -/
def filteredSurroundings : Surroundings where
  environment := ⟨[("TEST_ID", "old"), ("PATH", "/bin"), ("TEST_NAME", "^a")]⟩
  tree := .empty
  directory := ['/']
  project := ['/']

/-- The command line of repeated options starts the test runner with the identity empty, with the
tag as it was given, and with the name that was there. -/
theorem given_filters_decide_repeated :
    IsEnvironment filteredSurroundings.environment ∧ IsTail ["--", "--id=x"] ∧
      ∃ started, (perform (fun _ => 0) filteredSurroundings
          ["--id=login", "--headless", "--tag= smoke ", "--id=", "--", "--id=x"]).started =
            some started ∧
        started.environment.get? "TEST_ID" = some "" ∧
        started.environment.get? "TEST_TAG" = some " smoke " ∧
        started.environment.get? "TEST_NAME" = some "^a" ∧
        started.environment.get? "BROWSER" = none ∧
        started.environment.get? "HEADLESS" = some "true" := by
  have henvironment : IsEnvironment filteredSurroundings.environment :=
    ⟨by decide, by decide⟩
  have htail : IsTail ["--", "--id=x"] := Or.inr ⟨["--id=x"], rfl⟩
  have hreached : (perform (fun _ => 0) filteredSurroundings
      (repeatedOptions.map Given.word ++ ["--", "--id=x"])).started.isSome := by
    decide +kernel
  obtain ⟨started, hstarted⟩ := Option.isSome_iff_exists.1 hreached
  obtain ⟨hvalues, hheadless, -⟩ :=
    given_filters_decide _ _ repeatedOptions _ started henvironment htail hstarted
  refine ⟨henvironment, htail, started, hstarted, ?_, ?_, ?_, ?_, hheadless⟩
  · exact hvalues (.testId, "TEST_ID") (by decide)
  · exact hvalues (.testTag, "TEST_TAG") (by decide)
  · exact hvalues (.testName, "TEST_NAME") (by decide)
  · exact hvalues (.engine, "BROWSER") (by decide)

end BrowserScenario.Command
