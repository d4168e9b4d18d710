import BrowserScenario.Proofs.Command.Selection

/-!
# Arguments after the separator

A command line of options alone is read to its end. When the separator and further words follow,
the options are read as before, and the words are handed on to the test runner, but not the
separators among them. Main statement: the test runner is started as without the further words, with
these at the end of its arguments; they are there unchanged exactly when no separator is among them.
-/

namespace BrowserScenario.Command

open BrowserScenario.Files BrowserScenario.Suite

/-- Options with words to hand on. -/
def Options.handing (options : Options) (rest : List String) : Options :=
  { options with rest := rest }

variable {line tail : List String} {words : List (String × Word)} {options result : Options}
  {unknown others : List String}

/-- Words of a command line without a separator are what they are in front of its end, too. -/
theorem wordsOf_append (htail : IsTail tail) (hopen : ∀ word ∈ words, word.2 ≠ .separator)
    (h : wordsOf line = .ok words) : wordsOf (line ++ tail) = .ok (words ++ tailWords tail) := by
  induction line generalizing words with
  | nil =>
    obtain rfl := Except.ok.inj h
    exact @wordsOf_given [] tail htail
  | cons word line ih =>
    rw [wordsOf] at h
    rw [List.cons_append, wordsOf]
    by_cases hword : word = "--"
    · rw [if_pos hword] at h
      obtain rfl := Except.ok.inj h
      exact absurd rfl (hopen _ List.mem_cons_self)
    · rw [if_neg hword] at h ⊢
      cases hkind : wordOf word with
      | error error => simp [hkind] at h
      | ok kind =>
        cases hkinds : wordsOf line with
        | error error => simp [hkind, hkinds] at h
        | ok kinds =>
          simp only [hkind, hkinds] at h
          obtain rfl := Except.ok.inj h
          rw [ih (List.forall_mem_cons.1 hopen).2 hkinds]
          rfl

/-- Words that are read and leave nothing to hand on have no separator among them, and are read in
the same way in front of words that are handed on. -/
theorem readWords_append (more : List String) (hrest : result.rest = [])
    (h : readWords options unknown words = .ok (result, others)) :
    (∀ word ∈ words, word.2 ≠ .separator) ∧
      readWords options unknown (words ++ tailWords ("--" :: more)) =
        .ok (result.handing ("--" :: more), others) := by
  fun_induction readWords options unknown words with
  | case1 options unknown =>
    obtain ⟨rfl, rfl⟩ := Prod.mk.inj (Except.ok.inj h)
    exact ⟨by simp, by simp [tailWords, readWords, Options.handing, Function.comp_def]⟩
  | case2 options unknown word rest | case3 options unknown word rest =>
    -- An argument or a separator would be handed on.
    obtain ⟨rfl, -⟩ := Prod.mk.inj (Except.ok.inj h)
    exact nomatch hrest
  | case4 options unknown word rest ih =>
    obtain ⟨hopen, hread⟩ := ih h
    exact ⟨List.forall_mem_cons.2 ⟨nofun, hopen⟩, hread⟩
  | case6 options unknown word rest ih =>
    obtain ⟨hopen, hread⟩ := ih h
    exact ⟨List.forall_mem_cons.2 ⟨nofun, hopen⟩, hread⟩
  | case9 options unknown word parameter value rest ih
  | case10 options unknown word parameter value rest ih =>
    obtain ⟨next, hset, hnext⟩ := exists_of_bind_eq_ok h
    obtain ⟨hopen, hread⟩ := ih next hnext
    refine ⟨List.forall_mem_cons.2 ⟨nofun, hopen⟩, ?_⟩
    rw [List.cons_append, readWords, hset]
    exact hread
  | case11 options unknown word parameter value rest ih =>
    obtain ⟨next, hset, hnext⟩ := exists_of_bind_eq_ok h
    obtain ⟨hopen, hread⟩ := ih next hnext
    refine ⟨List.forall_mem_cons.2 ⟨nofun, List.forall_mem_cons.2 ⟨nofun, hopen⟩⟩, ?_⟩
    rw [List.cons_append, List.cons_append, readWords, hset]
    exact hread
  | case5 | case7 | case8 | case12 => exact nomatch h

/-- Options that leave nothing to hand on are read in the same way in front of the separator and
words that are handed on. -/
theorem readOptions_append (hrest : options.rest = []) (h : readOptions line = .ok options)
    (more : List String) :
    readOptions (line ++ "--" :: more) = .ok (options.handing ("--" :: more)) := by
  unfold readOptions at h ⊢
  split at h
  · exact nomatch h
  · rename_i words hwords
    split at h
    · exact nomatch h
    · rename_i result hread
      obtain rfl := Except.ok.inj h
      obtain ⟨hopen, happend⟩ := readWords_append more hrest hread
      rw [wordsOf_append (.inr ⟨more, rfl⟩) hopen hwords]
      simp only [happend]
    · exact nomatch h

/-- Further arguments of the test runner follow its own. -/
theorem arguments_extra (launch : Launch) (extra : List String) (project directory : List Char) :
    ({ launch with extra := extra } : Launch).arguments project directory =
      (({ launch with extra := [] } : Launch).arguments project directory).map (· ++ extra) := by
  have hpaths : ({ launch with extra := extra } : Launch).paths =
      ({ launch with extra := [] } : Launch).paths := rfl
  unfold Launch.arguments
  rw [hpaths]
  cases ({ launch with extra := [] } : Launch).paths.find? (·.contains '\x00') with
  | some path => rfl
  | none => simp [Except.map]

/-- The arguments of the test runner that options and settings ask for, without further ones. -/
def Options.ownArguments (options : Options) (settings : Settings) (project directory : List Char) :
    Except FileError (List String) :=
  ({ launchOf options settings with extra := [] } : Launch).arguments project directory

/-- Arguments that follow those with which the test runner is started. -/
def Started.followedBy (started : Started) (extra : List String) : Started :=
  { started with arguments := started.arguments ++ extra }

variable {runner : Started → Int} {surroundings : Surroundings} {environment : Variables}
  {settings : Settings} {rest : List String} {started : Started}

/-- Options with words to hand on ask for their own arguments and these words, without the
separators. -/
theorem arguments_handing (options : Options) (settings : Settings) (rest : List String)
    (project directory : List Char) :
    (launchOf (options.handing rest) settings).arguments project directory =
      (options.ownArguments settings project directory).map (· ++ rest.filter (· != "--")) :=
  arguments_extra (launchOf options settings) (rest.filter (· != "--")) project directory

/-- Options that leave nothing to hand on ask for their own arguments. -/
theorem arguments_of_rest_eq_nil (hrest : options.rest = []) (settings : Settings)
    (project directory : List Char) :
    (launchOf options settings).arguments project directory =
      options.ownArguments settings project directory := by
  have hforwarded : options.forwarded = [] := by simp [Options.forwarded, hrest]
  simp only [launchOf, Options.ownArguments, hforwarded]

/-- The test runner is started if there are arguments for it. -/
theorem started_launch :
    (launch runner surroundings options environment settings).started =
      ((launchOf options settings).arguments surroundings.project
        surroundings.directory).toOption.map (⟨·, environment⟩) := by
  unfold launch
  cases h : (launchOf options settings).arguments surroundings.project surroundings.directory <;>
    simp [h, Except.toOption]

/-- Words that are handed on follow the arguments of the test runner, without the separators. -/
theorem started_launch_handing (hrest : options.rest = []) (rest : List String) :
    (launch runner surroundings (options.handing rest) environment settings).started =
      (launch runner surroundings options environment settings).started.map
        (·.followedBy (rest.filter (· != "--"))) := by
  rw [started_launch, started_launch, arguments_handing, arguments_of_rest_eq_nil hrest]
  cases options.ownArguments settings surroundings.project surroundings.directory <;> rfl

/-- The separator and words after it change nothing about the start of the test runner but that the
words follow its arguments, without the separators among them. -/
theorem started_perform_append (hrest : options.rest = []) (h : readOptions line = .ok options) :
    (perform runner surroundings (line ++ "--" :: rest)).started =
      (perform runner surroundings line).started.map
        (·.followedBy (rest.filter (· != "--"))) := by
  have hlevel : (options.handing ("--" :: rest)).logLevel = options.logLevel := rfl
  have hnull : (options.handing ("--" :: rest)).hasNullValue = options.hasNullValue := rfl
  have henvironment : (options.handing ("--" :: rest)).environment surroundings.environment =
      options.environment surroundings.environment := rfl
  have hfilter : ("--" :: rest).filter (· != "--") = rest.filter (· != "--") :=
    List.filter_cons_of_neg (by decide)
  unfold perform
  rw [h, readOptions_append hrest h rest]
  simp only [hlevel, hnull, henvironment]
  split
  · rfl
  · split
    · rfl
    · split
      · rfl
      · rw [started_launch_handing hrest, hfilter]

/-- Once the test runner is started, its arguments are its own and then the words after the
separator, without the separators among them. -/
theorem exists_ownArguments (hrest : options.rest = []) (h : readOptions line = .ok options)
    (hstarted : (perform runner surroundings (line ++ "--" :: rest)).started = some started) :
    ∃ settings base,
      loadSettings surroundings.tree (namesOf surroundings.directory) [] started.environment =
        .ok settings ∧
      options.ownArguments settings surroundings.project surroundings.directory = .ok base ∧
      started.arguments = base ++ rest.filter (· != "--") := by
  rw [started_perform_append hrest h, Option.map_eq_some_iff] at hstarted
  obtain ⟨alone, halone, rfl⟩ := hstarted
  obtain ⟨read, settings, hread, -, hsettings, harguments⟩ := exists_of_started halone
  obtain rfl : options = read := Except.ok.inj (h.symm.trans hread)
  rw [arguments_of_rest_eq_nil hrest] at harguments
  exact ⟨settings, alone.arguments, hsettings, harguments, rfl⟩

/-- The separator and words after it, whatever they are, follow a command line that is made of
options alone. Then the test runner is started as it is without them, but for its arguments; and
these are the ones that it has without further arguments, followed by the words, of which the
separators are left out. So the words are handed on unchanged exactly when there is no separator
among them. -/
theorem forwarded_without_separators (runner : Started → Int) (surroundings : Surroundings)
    (line rest : List String) (options : Options) (h : readOptions line = .ok options)
    (hrest : options.rest = []) :
    (perform runner surroundings (line ++ "--" :: rest)).started =
      (perform runner surroundings line).started.map
        (·.followedBy (rest.filter (· != "--"))) ∧
    ∀ started, (perform runner surroundings (line ++ "--" :: rest)).started = some started →
      ∃ settings base,
        loadSettings surroundings.tree (namesOf surroundings.directory) [] started.environment =
          .ok settings ∧
        options.ownArguments settings surroundings.project surroundings.directory = .ok base ∧
        started.arguments = base ++ rest.filter (· != "--") ∧
        (started.arguments = base ++ rest ↔ "--" ∉ rest) := by
  refine ⟨started_perform_append hrest h, fun started hstarted => ?_⟩
  obtain ⟨settings, base, hsettings, hbase, harguments⟩ := exists_ownArguments hrest h hstarted
  refine ⟨settings, base, hsettings, hbase, harguments, ?_⟩
  rw [harguments, List.append_cancel_left_eq, List.filter_eq_self]
  constructor
  · intro hall hseparator
    exact absurd (hall _ hseparator) (by decide)
  · intro hseparator word hword
    have hne : word ≠ "--" := fun heq => hseparator (heq ▸ hword)
    simpa using hne

/-- A directory without any files, and no variables. -/
def bareSurroundings : Surroundings where
  environment := .empty
  tree := .empty
  directory := ['/']
  project := ['/']

/-- An identity and a shortened mark, and then the separator with words that are empty or read like
options: these are handed on unchanged. -/
theorem forwarded_without_separators_optionLike :
    ∃ options settings base started,
      readOptions ["--id", "login", "--head"] = .ok options ∧ options.rest = [] ∧
      (perform (fun _ => 0) bareSurroundings
        ["--id", "login", "--head", "--", "-x", "", "--id=2", "-x"]).started = some started ∧
      options.ownArguments settings ['/'] ['/'] = .ok base ∧
      started.arguments = base ++ ["-x", "", "--id=2", "-x"] := by
  obtain ⟨options, hread⟩ : ∃ options, readOptions ["--id", "login", "--head"] = .ok options :=
    ⟨_, rfl⟩
  have hrest : options.rest = [] := by
    cases hread
    rfl
  have hreached : (perform (fun _ => 0) bareSurroundings
      (["--id", "login", "--head"] ++ "--" :: ["-x", "", "--id=2", "-x"])).started.isSome := by
    decide +kernel
  obtain ⟨started, hstarted⟩ := Option.isSome_iff_exists.1 hreached
  obtain ⟨settings, base, -, hbase, -, hunchanged⟩ :=
    (forwarded_without_separators _ _ _ _ options hread hrest).2 started hstarted
  exact ⟨options, settings, base, started, hread, hrest, hstarted, hbase,
    hunchanged.2 (by decide)⟩

/-- Not all words after the separator are handed on unchanged: a second separator among them is
lost. -/
theorem not_forall_forwarded_unchanged :
    ¬ ∀ (runner : Started → Int) (surroundings : Surroundings) (line rest : List String)
      (options : Options) (settings : Settings) (base : List String) (started : Started),
      readOptions line = .ok options → options.rest = [] →
      (perform runner surroundings (line ++ "--" :: rest)).started = some started →
      loadSettings surroundings.tree (namesOf surroundings.directory) [] started.environment =
        .ok settings →
      options.ownArguments settings surroundings.project surroundings.directory = .ok base →
      started.arguments = base ++ rest := by
  intro hall
  have hread : readOptions [] = .ok .none := rfl
  have hreached : (perform (fun _ => 0) bareSurroundings
      ([] ++ "--" :: ["-x", "--", "tests/unit"])).started.isSome := by
    decide +kernel
  obtain ⟨started, hstarted⟩ := Option.isSome_iff_exists.1 hreached
  obtain ⟨settings, base, hsettings, hbase, harguments⟩ := exists_ownArguments rfl hread hstarted
  have hunchanged := hall _ _ _ _ _ _ _ _ hread rfl hstarted hsettings hbase
  rw [harguments, List.append_cancel_left_eq] at hunchanged
  exact absurd hunchanged (by decide)

end BrowserScenario.Command
