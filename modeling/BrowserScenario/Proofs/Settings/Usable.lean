import BrowserScenario.Proofs.Settings.Sources
import BrowserScenario.Proofs.Settings.Whole

/-!
# Usable settings

Settings can be used when they count nothing below zero, choose engines that there are, and select
scenarios by texts without blanks at either end. A value that would make them otherwise is refused,
in whichever source it is. Main statement: settings that are loaded can be used; and where values
are refused nothing is loaded, and every field with such a value is reported.
-/

namespace BrowserScenario

open BrowserScenario.Files BrowserScenario.Settings BrowserScenario.Text

/-- The words that choose engines. -/
def engineWords : List String := ["all", "chromium", "firefox", "webkit"]

/-- Settings that a suite can be run with. -/
structure Settings.IsUsable (settings : Settings) : Prop where
  deadline : 0 ≤ settings.scriptTimeout
  reruns : 0 ≤ settings.retry
  browser_mem : settings.browser ∈ engineWords
  browser_folded : folded settings.browser = settings.browser
  browsers_ne_nil : settings.browsers ≠ []
  browsers_nodup : settings.browsers.Nodup
  browsers_subset : settings.browsers ⊆ ["chromium", "firefox", "webkit"]
  browsers_all_iff : ["chromium", "firefox", "webkit"] ⊆ settings.browsers ↔ settings.browser = "all"
  testId_trimmed : IsTrimmed isBlank settings.testId.toList
  testTag_trimmed : IsTrimmed isBlank settings.testTag.toList
  testName_trimmed : IsTrimmed isBlank settings.testName.toList

/-- Entries that give a value to a name, the case of letters aside: an entry does, and no later one
is of the name. -/
def Gives {α : Type} (entries : List (List Char × α)) (name : String) (value : α) : Prop :=
  ∃ before key after, entries = before ++ (key, value) :: after ∧
    foldedName key = foldedName name.toList ∧
    ∀ entry ∈ after, foldedName entry.1 ≠ foldedName name.toList

/-- The value that a field takes effect with: that of an argument; where there is none, the text of
a variable of the environment; and where there is none either, the text of an assignment. -/
inductive SettingSources.IsEffective (sources : SettingSources) (name : String) : Data → Prop
  | argument {data : Data} (h : sources.arguments.lookup name = some data) :
    IsEffective sources name data
  | environment {text : String} (hargument : sources.arguments.lookup name = none)
    (h : Gives (sources.environment.entries.map fun entry => (entry.1.toList, entry.2)) name text) :
    IsEffective sources name (.text text)
  | file {text : List Char} (hargument : sources.arguments.lookup name = none)
    (henvironment : ∀ entry ∈ sources.environment.entries,
      foldedName entry.1.toList ≠ foldedName name.toList)
    (h : Gives sources.assigned name (some text)) :
    IsEffective sources name (.text (String.ofList text))

/-- A field whose value is refused: a count that is a negative number, or a browser that is none of
the words, blanks at either end and the case of letters aside. -/
inductive SettingSources.IsRefused (sources : SettingSources) : String → Prop
  | negative {name : String} {data : Data} (hname : name ∈ ["SCRIPT_TIMEOUT", "RETRY"])
    (heffective : sources.IsEffective name data) (h : IsNegative data) : IsRefused sources name
  | browser {data : Data} (heffective : sources.IsEffective "BROWSER" data)
    (h : ∀ text, Checked.Spells data text → folded text ∉ engineWords) :
    IsRefused sources "BROWSER"

/-- A path that is followed from the working directory or the root, and not from a home directory,
and of which no name is too long to be looked for. -/
structure IsPlainPath (tree : Tree) (directory : Location) (path : String) : Prop where
  home : (tidy path.toList).head? ≠ some '~'
  fits : ∀ error, tree.read directory (tidy path.toList) = .error error →
    error.fault ≠ .nameTooLong

/-- A value that tells in which files the assignments are: in none, in one or in several. -/
inductive NamesFiles (tree : Tree) (directory : Location) : Data → Prop
  | none : NamesFiles tree directory .null
  | one {path : String} (h : IsPlainPath tree directory path) :
    NamesFiles tree directory (.text path)
  | several {paths : List String} (h : ∀ path ∈ paths, IsPlainPath tree directory path) :
    NamesFiles tree directory (.list (paths.map .text))

/-- Arguments that leave the sources as they are: the arguments, the environment and files. Names
that start with an underscore are those of switches, of which only the one that tells the files
keeps to these sources and to their order. -/
def FromThreeSources (tree : Tree) (directory : Location) (arguments : List (String × Data)) :
    Prop :=
  ∀ argument ∈ arguments, argument.1.toList.head? = some '_' →
    argument.1 = fileSwitch ∧ NamesFiles tree directory argument.2

/-- An error that says what is wrong with a field. -/
def SettingsError.Reports (error : SettingsError) (name : String) : Prop :=
  ∃ mismatch, ⟨[.field name], mismatch⟩ ∈ error.mismatches

variable {α β : Type} {name : String} {data : Data} {sources : SettingSources}

/-- Where no entry is of a name, there is no value. -/
theorem lastFolded?_eq_none {entries : List (List Char × α)}
    (h : ∀ entry ∈ entries, foldedName entry.1 ≠ foldedName name.toList) :
    lastFolded? name entries = none := by
  induction entries with
  | nil => rfl
  | cons entry rest ih =>
    obtain ⟨hentry, hrest⟩ := List.forall_mem_cons.1 h
    rw [lastFolded?_cons, ih hrest, if_neg hentry]
    rfl

/-- The value that entries give to a name is found. -/
theorem Gives.lastFolded?_eq {entries : List (List Char × α)} {value : α}
    (h : Gives entries name value) : lastFolded? name entries = some value := by
  obtain ⟨before, key, after, rfl, hkey, hafter⟩ := h
  induction before with
  | nil =>
    rw [List.nil_append, lastFolded?_cons, lastFolded?_eq_none hafter, if_pos hkey]
    rfl
  | cons entry before ih =>
    rw [List.cons_append, lastFolded?_cons, ih]
    rfl

/-- The value that a field takes effect with is the one that is looked up. -/
theorem SettingSources.IsEffective.value?_eq (h : sources.IsEffective name data) :
    sources.value? name = some data := by
  unfold value? fromEnvironment? fromFile?
  cases h with
  | argument h =>
    rw [h]
    rfl
  | environment hargument h =>
    rw [hargument, h.lastFolded?_eq]
    rfl
  | file hargument henvironment h =>
    have hnone : lastFolded? name
        (sources.environment.entries.map fun entry => (entry.1.toList, entry.2)) = none := by
      refine lastFolded?_eq_none fun entry hentry => ?_
      obtain ⟨entry, hmem, rfl⟩ := List.mem_map.1 hentry
      exact henvironment entry hmem
    rw [hargument, hnone, h.lastFolded?_eq]
    rfl

/-- What holds of the default and of every value that the check gives holds of a field. -/
theorem SettingSources.field_ensures {P : α → Prop} {default value : α} {check : Data → Checked α}
    (hdefault : P default) (hcheck : ∀ data value, check data = .valid value → P value)
    (h : sources.field name default check = .valid value) : P value := by
  unfold field at h
  cases hvalue : sources.value? name with
  | none =>
    rw [hvalue] at h
    exact Checked.valid.inj h ▸ hdefault
  | some data =>
    rw [hvalue] at h
    exact hcheck data value ((Checked.within_eq_valid_iff _ _ _).1 h)

/-- Where the value that a field takes effect with fails the check, the field is what is wrong. -/
theorem SettingSources.mismatches_field {check : Data → Checked α} {mismatch : Mismatch}
    (heffective : sources.IsEffective name data) (hcheck : check data = .fail mismatch)
    (default : α) : (sources.field name default check).mismatches = [⟨[.field name], mismatch⟩] := by
  rw [field, heffective.value?_eq, Checked.mismatches_within, hcheck]
  rfl

namespace Settings

/-- A check followed by another one gives a value when both do, the second one of the first value.
-/
theorem andThen_eq_valid_iff {checked : Checked α} {next : α → Checked β} {value : β} :
    andThen checked next = .valid value ↔
      ∃ first, checked = .valid first ∧ next first = .valid value := by
  cases checked with
  | valid first => simp [andThen]
  | invalid first more => simp [andThen]

/-- A count is not below zero. -/
theorem count_nonneg {n : Int} (h : count data = .valid n) : 0 ≤ n := by
  obtain ⟨read, -, hread⟩ := andThen_eq_valid_iff.1 h
  split at hread
  · exact absurd hread (Checked.fail_ne_valid _ _)
  · obtain rfl := Checked.valid.inj hread
    omega

/-- A negative number is no count. -/
theorem IsNegative.count_fails (h : IsNegative data) : ∃ mismatch, count data = .fail mismatch := by
  rcases h.integer_cases with ⟨n, hn, hread⟩ | ⟨mismatch, hfail⟩
  · refine ⟨.refused "must be >= 0", ?_⟩
    rw [count, hread]
    exact if_pos hn
  · refine ⟨mismatch, ?_⟩
    rw [count, hfail]
    rfl

/-- The words that are tested for are the words that choose engines. -/
theorem mem_engineWords_iff (choice : String) :
    (decide (choice = allEngines) || engines.contains choice) = true ↔ choice ∈ engineWords := by
  rw [Bool.or_eq_true, decide_eq_true_eq, List.contains_iff_mem]
  exact List.mem_cons.symm

/-- The choice of an engine is one of the words. -/
theorem engineChoice_mem {choice : String} (h : engineChoice data = .valid choice) :
    choice ∈ engineWords := by
  obtain ⟨text, -, htext⟩ := andThen_eq_valid_iff.1 h
  simp only at htext
  split at htext
  case isTrue hword =>
    obtain rfl := Checked.valid.inj htext
    exact (mem_engineWords_iff _).1 hword
  case isFalse => exact absurd htext (Checked.fail_ne_valid _ _)

/-- What is no text, or not one of the words, does not choose an engine. -/
theorem engineChoice_fails (h : ∀ text, Checked.Spells data text → folded text ∉ engineWords) :
    ∃ mismatch, engineChoice data = .fail mismatch := by
  rcases Checked.plainText_cases data with ⟨text, hspells, htext⟩ | ⟨-, mismatch, hfails⟩
  · have hword := mt (mem_engineWords_iff (folded text)).1 (h text hspells)
    refine ⟨.refused ("BROWSER must be one of: all, " ++ Data.commaJoined engines), ?_⟩
    simp only [engineChoice, htext, andThen]
    rw [if_neg hword]
  · refine ⟨mismatch, ?_⟩
    rw [engineChoice, hfails]
    rfl

/-- A trimmed field is trimmed. -/
theorem trimmedText_trimmed {text : String} (h : trimmedText data = .valid text) :
    IsTrimmed isBlank text.toList := by
  obtain ⟨whole, -, rfl⟩ := (Checked.map_eq_valid_iff _ _ _).1 h
  rw [trim, String.toList_ofList]
  exact isTrimmed_trimBy isBlank whole.toList

end Settings

/-- A word is itself without blanks at either end and in lower case. -/
theorem folded_of_mem : ∀ choice ∈ engineWords, folded choice = choice := by
  decide +kernel

/-- The engines that a word chooses. -/
def enginesOf (choice : String) : List String :=
  if choice = allEngines then engines else [choice]

/-- A word chooses one engine at least and none twice, and all of them only if it is the word for
all. -/
theorem enginesOf_of_mem : ∀ choice ∈ engineWords,
    enginesOf choice ≠ [] ∧ (enginesOf choice).Nodup ∧ enginesOf choice ⊆ engines ∧
      (engines ⊆ enginesOf choice ↔ choice = allEngines) := by
  decide

/-- Settings that were read from sources can be used. -/
theorem IsReadFrom.isUsable {settings : Settings} (h : IsReadFrom settings sources) :
    settings.IsUsable := by
  have hbrowser : settings.browser ∈ engineWords :=
    SettingSources.field_ensures (P := (· ∈ engineWords)) (by decide) (fun _ _ => engineChoice_mem)
      h.browser
  have htrimmed {name field : String} (hfield : sources.field name "" trimmedText = .valid field) :
      IsTrimmed isBlank field.toList :=
    SettingSources.field_ensures (P := fun text => IsTrimmed isBlank text.toList)
      isTrimmed_nil (fun _ _ => trimmedText_trimmed) hfield
  have hcount {name field default} (hfield : sources.field name default count = .valid field)
      (hdefault : 0 ≤ default) : 0 ≤ field :=
    SettingSources.field_ensures hdefault (fun _ _ => count_nonneg) hfield
  have hbrowsers : settings.browsers = enginesOf settings.browser := rfl
  obtain ⟨hne, hnodup, hsubset, hall⟩ := hbrowsers ▸ enginesOf_of_mem settings.browser hbrowser
  exact
    { deadline := hcount h.scriptTimeout (by decide)
      reruns := hcount h.retry (by decide)
      browser_mem := hbrowser
      browser_folded := folded_of_mem settings.browser hbrowser
      browsers_ne_nil := hne
      browsers_nodup := hnodup
      browsers_subset := hsubset
      browsers_all_iff := hall
      testId_trimmed := htrimmed h.testId
      testTag_trimmed := htrimmed h.testTag
      testName_trimmed := htrimmed h.testName }

/-- A field whose value is refused is among what is wrong with the sources. -/
theorem SettingSources.IsRefused.mem_mismatches (h : sources.IsRefused name) :
    ∃ mismatch, ⟨[.field name], mismatch⟩ ∈ (Settings.ofSources sources).mismatches := by
  rw [mismatches_ofSources]
  simp only [List.mem_append]
  cases h with
  | negative hname heffective h =>
    obtain ⟨mismatch, hfails⟩ := h.count_fails
    have hfield (default : Int) := SettingSources.mismatches_field heffective hfails default
    refine ⟨mismatch, ?_⟩
    rcases List.mem_pair.1 hname with rfl | rfl
    · simp [hfield]
    · simp [hfield]
  | browser heffective h =>
    obtain ⟨mismatch, hfails⟩ := engineChoice_fails h
    have hfield := SettingSources.mismatches_field heffective hfails allEngines
    refine ⟨mismatch, ?_⟩
    simp [hfield]

variable {tree : Tree} {directory : Location} {arguments : List (String × Data)}
  {environment : Variables} {assigned : Assigned}

/-- Where something is wrong with the sources nothing is loaded, and the error says all of it. -/
theorem loadSettings_of_mismatches
    (hassigned : assignmentsBeside tree directory arguments environment = .ok assigned)
    (h : (Settings.ofSources ⟨arguments, environment, assigned⟩).mismatches ≠ []) :
    ∃ error, loadSettings tree directory arguments environment = .error error ∧
      error.mismatches = (Settings.ofSources ⟨arguments, environment, assigned⟩).mismatches := by
  unfold loadSettings
  simp only [hassigned]
  cases hsources : Settings.ofSources ⟨arguments, environment, assigned⟩ with
  | valid settings =>
    rw [hsources] at h
    exact absurd rfl h
  | invalid first more => exact ⟨.invalid first more, rfl, rfl⟩

variable (tree directory arguments environment) in
/-- Settings that are loaded can be used. Where the arguments leave the sources as they are and a
field has a value that is refused, be it that of an argument, of the environment or of a file,
nothing is loaded, and the error says so of every field that has one. -/
theorem loadSettings_usable_or_reported :
    (∀ settings, loadSettings tree directory arguments environment = .ok settings →
      settings.IsUsable) ∧
    ∀ assigned, FromThreeSources tree directory arguments →
      assignmentsBeside tree directory arguments environment = .ok assigned →
      (∃ name, SettingSources.IsRefused ⟨arguments, environment, assigned⟩ name) →
      ∃ error, loadSettings tree directory arguments environment = .error error ∧
        ∀ name, SettingSources.IsRefused ⟨arguments, environment, assigned⟩ name →
          error.Reports name := by
  constructor
  · intro settings h
    obtain ⟨assigned, -, hread⟩ := loadSettings_eq_ok_iff.1 h
    exact hread.isUsable
  · -- Which sources there are is settled by the assignments that count beside the arguments.
    intro assigned _ hassigned hrefused
    have hwrong : (Settings.ofSources ⟨arguments, environment, assigned⟩).mismatches ≠ [] := by
      obtain ⟨name, hname⟩ := hrefused
      obtain ⟨mismatch, hmem⟩ := hname.mem_mismatches
      exact List.ne_nil_of_mem hmem
    obtain ⟨error, herror, hmismatches⟩ := loadSettings_of_mismatches hassigned hwrong
    refine ⟨error, herror, fun name hname => ?_⟩
    rw [SettingsError.Reports, hmismatches]
    exact hname.mem_mismatches

/-- A tree whose assignment file has a negative count. -/
def negativeRetryTree : Tree :=
  ⟨[([".env".toList], .file ("RETRY=-1".toList.map (·.val.toUInt8)))]⟩

/-- An engine that is given as bytes, beside which no file counts. -/
def bytesWithoutFile : List (String × Data) :=
  [("BROWSER", .bytes (" FireFox ".toList.map (·.val.toUInt8))), ("_env_file", .null)]

/-- A tree with a file of assignments under another name, with an engine that there is not. -/
def netscapeTree : Tree :=
  ⟨[(["more.env".toList], .file ("browser=Netscape".toList.map (·.val.toUInt8)))]⟩

/-- A deadline below zero that is given as bytes, beside two files, of which the first is missing.
-/
def bytesWithFiles : List (String × Data) :=
  [("SCRIPT_TIMEOUT", .bytes ("-7".toList.map (·.val.toUInt8))),
    ("_env_file", .list [.text "none.env", .text "./more.env"])]

/-- A switch that names two files keeps to the three sources. -/
theorem fromThreeSources_bytesWithFiles : FromThreeSources netscapeTree [] bytesWithFiles := by
  have hplain : ∀ path ∈ ["none.env", "./more.env"], IsPlainPath netscapeTree [] path := by
    intro path hpath
    rcases List.mem_pair.1 hpath with rfl | rfl
    · refine ⟨by decide +kernel, fun error herror => ?_⟩
      obtain rfl : ⟨.missing, "none.env".toList⟩ = error := Except.error.inj herror
      decide
    · exact ⟨by decide +kernel, fun error herror => nomatch herror⟩
  intro argument hargument hswitch
  rcases List.mem_pair.1 hargument with rfl | rfl
  · exact absurd hswitch (by decide)
  · exact ⟨rfl, .several hplain⟩

/-- Three fields are refused, each in another source, one of them given as bytes; and a negative
count in a file that is not to be read, or what is not as it should be in case or blanks alone, is
not refused. -/
theorem loadSettings_three_refused :
    (∃ settings, loadSettings negativeRetryTree [] bytesWithoutFile ⟨[("test_tag", " smoke ")]⟩ =
        .ok settings ∧ settings.IsUsable) ∧
      FromThreeSources netscapeTree [] bytesWithFiles ∧
        ∃ error, loadSettings netscapeTree [] bytesWithFiles ⟨[("retry", " -5 ")]⟩ =
            .error error ∧
          error.Reports "SCRIPT_TIMEOUT" ∧ error.Reports "RETRY" ∧ error.Reports "BROWSER" := by
  refine ⟨?_, fromThreeSources_bytesWithFiles, ?_⟩
  · have hloaded : ∃ settings,
        loadSettings negativeRetryTree [] bytesWithoutFile ⟨[("test_tag", " smoke ")]⟩ =
          .ok settings :=
      ⟨⟨30000, 30000, 0, false, 0, "firefox", "https://example.com", true, false, "test-results",
        "data/testScenarios.json", ".env", "", "smoke", ""⟩, by decide +kernel⟩
    obtain ⟨settings, hsettings⟩ := hloaded
    exact ⟨settings, hsettings, (loadSettings_usable_or_reported _ _ _ _).1 settings hsettings⟩
  · have hassigned : assignmentsBeside netscapeTree [] bytesWithFiles ⟨[("retry", " -5 ")]⟩ =
        .ok [("browser".toList, some "Netscape".toList)] := by
      decide +kernel
    have hdeadline : SettingSources.IsRefused ⟨bytesWithFiles, ⟨[("retry", " -5 ")]⟩,
        [("browser".toList, some "Netscape".toList)]⟩ "SCRIPT_TIMEOUT" :=
      .negative (by decide) (.argument rfl) (.read (n := -7) (by decide +kernel) (by decide))
    obtain ⟨error, herror, hreports⟩ := (loadSettings_usable_or_reported _ _ _ _).2 _
      fromThreeSources_bytesWithFiles hassigned ⟨_, hdeadline⟩
    refine ⟨error, herror, hreports _ hdeadline, hreports _ ?_, hreports _ ?_⟩
    · refine .negative (by decide)
        (.environment rfl ⟨[], "retry".toList, [], rfl, by decide, List.forall_mem_nil _⟩) ?_
      have hblank : ∀ c ∈ [' '], isWhiteSpace c = true := List.forall_mem_singleton.2 rfl
      exact @IsNegative.written _ [' '] ['5'] [' '] (.text " -5 ") hblank hblank
        (List.forall_mem_singleton.2 rfl) ⟨'5', List.mem_singleton_self '5', by decide⟩
    · refine .browser (.file rfl (by decide)
        ⟨[], "browser".toList, [], rfl, by decide, List.forall_mem_nil _⟩) fun text htext => ?_
      cases htext with
      | text => decide +kernel

end BrowserScenario
