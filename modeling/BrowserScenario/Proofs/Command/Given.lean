import BrowserScenario.Command.Options
import BrowserScenario.Proofs.Scenario.Resolve
import Mathlib.Data.List.TakeWhile

/-!
# Options as they are given

An option is given as a word: its spelling, an equals sign and its value, or its spelling alone if
it is without a value. Every such word is read as the option that it gives, whatever the value is,
also where the value reads like another option or is empty. Main statements: words that give
options are read in order, and reading them sets each option to the value that is given last.
-/

namespace BrowserScenario.Command

/-- An option that is given: a parameter with its value, or the mark for browsers without a
window. -/
inductive Given
  | valued (parameter : Parameter) (value : String)
  | headless
deriving DecidableEq, Repr

/-- The flag of an option that is given. -/
def Given.flag : Given → Flag
  | .valued parameter _ => .valued parameter
  | .headless => .headless

/-- What is attached to an option that is given. -/
def Given.attached : Given → Option Attached
  | .valued _ value => some (.equals value)
  | .headless => none

/-- The word that gives an option. -/
def Given.word : Given → String
  | .valued parameter value => (Flag.valued parameter).label ++ "=" ++ value
  | .headless => Flag.headless.label

/-- The value of a parameter that an option gives. -/
def Given.valueOf? (parameter : Parameter) : Given → Option String
  | .valued other value => if other = parameter then some value else none
  | .headless => none

/-- The value that is given to a parameter last. -/
def lastGiven? (parameter : Parameter) (givens : List Given) : Option String :=
  (givens.filterMap (Given.valueOf? parameter)).getLast?

variable {given : Given} {givens : List Given} {tail : List String} {name : String} {flag : Flag}

/-- A spelling is found, starts with a dash that something follows, and has no equals sign. -/
theorem spelling_shape (h : (name, flag) ∈ spellings) :
    spellings.lookup name = some flag ∧ '=' ∉ name.toList ∧
      ∃ second more, name.toList = '-' :: second :: more := by
  have hall : ∀ spelling ∈ spellings, spellings.lookup spelling.1 = some spelling.2 ∧
      '=' ∉ spelling.1.toList ∧ spelling.1.toList.head? = some '-' ∧
        1 < spelling.1.toList.length := by decide
  obtain ⟨hlookup, hequals, hhead, hlength⟩ := hall _ h
  refine ⟨hlookup, hequals, ?_⟩
  cases hname : name.toList with
  | nil => simp [hname] at hhead
  | cons first rest =>
    cases rest with
    | nil => simp [hname] at hlength
    | cons second more =>
      obtain rfl : first = '-' := by simpa [hname] using hhead
      exact ⟨second, more, rfl⟩

/-- A word is cut at its first equals sign. -/
theorem splitAttached_append {stem : List Char} (h : '=' ∉ stem) (value : List Char) :
    splitAttached (stem ++ '=' :: value) = (stem, some value) := by
  have hstem : ∀ c ∈ stem, (c != '=') = true := by
    intro c hc
    have hne : c ≠ '=' := fun heq => h (heq ▸ hc)
    simpa using hne
  unfold splitAttached
  rw [List.dropWhile_append_of_pos hstem, List.takeWhile_append_of_pos hstem]
  simp

/-- A spelling with an equals sign and a value is read as its option with this value. -/
theorem wordOf_attached (h : (name, flag) ∈ spellings) (value : String) :
    wordOf (name ++ "=" ++ value) = .ok (.option flag (some (.equals value))) := by
  obtain ⟨hlookup, hequals, second, more, hname⟩ := spelling_shape h
  have htext : (name ++ "=" ++ value).toList = name.toList ++ '=' :: value.toList := by simp
  have hwhole : spellings.lookup (name ++ "=" ++ value) = none := by
    rw [List.lookup_eq_none_iff]
    intro spelling hspelling
    have hother := (spelling_shape hspelling).2.1
    have hne : name ++ "=" ++ value ≠ spelling.1 := by
      intro heq
      rw [← heq, htext] at hother
      exact hother (List.mem_append_right _ List.mem_cons_self)
    simpa using hne
  have hsplit := splitAttached_append hequals value.toList
  have hstart : name.toList ++ '=' :: value.toList =
      '-' :: second :: (more ++ '=' :: value.toList) := by
    rw [hname]
    rfl
  unfold wordOf
  rw [htext, hsplit, hstart]
  simp only [hwhole, String.ofList_toList, hlookup]

/-- The label of a parameter is its spelling. -/
theorem label_mem_spellings (parameter : Parameter) :
    ((Flag.valued parameter).label, .valued parameter) ∈ spellings := by
  cases parameter <;> decide +kernel

/-- The word that gives an option is read as this option. -/
theorem Given.wordOf_word (given : Given) :
    wordOf given.word = .ok (.option given.flag given.attached) := by
  cases given with
  | valued parameter value => exact wordOf_attached (label_mem_spellings parameter) value
  | headless => rfl

example : wordOf "--id=--tag=x" = .ok (.option (.valued .testId) (some (.equals "--tag=x"))) := rfl

/-- No word that gives an option is the separator. -/
theorem Given.word_ne_separator (given : Given) : given.word ≠ "--" := by
  intro heq
  have hread := given.wordOf_word
  rw [heq] at hread
  cases given <;> exact nomatch hread

/-- The end of a command line that has no more options: nothing, or the separator and whatever
follows it. -/
def IsTail (tail : List String) : Prop :=
  tail = [] ∨ ∃ more, tail = "--" :: more

/-- What the words at the end of a command line are. -/
def tailWords : List String → List (String × Word)
  | [] => []
  | separator :: more => (separator, .separator) :: more.map fun argument => (argument, .argument)

/-- Words that give options are read in order, up to the end of the options. -/
theorem wordsOf_given (htail : IsTail tail) :
    wordsOf (givens.map Given.word ++ tail) =
      .ok (givens.map (fun given => (given.word, .option given.flag given.attached)) ++
        tailWords tail) := by
  induction givens with
  | nil =>
    rcases htail with rfl | ⟨more, rfl⟩
    · rfl
    · rw [List.map_nil, List.nil_append, wordsOf, if_pos rfl]
      rfl
  | cons given rest ih =>
    rw [List.map_cons, List.cons_append, wordsOf, if_neg given.word_ne_separator,
      given.wordOf_word, ih]
    rfl

/-- The value that options hold for a parameter. -/
def Options.get? (options : Options) : Parameter → Option String
  | .scenarios => options.scenarios
  | .variablesFile => options.variablesFile
  | .testId => options.testId
  | .testTag => options.testTag
  | .testName => options.testName
  | .engine => options.engine
  | .report => options.report
  | .logLevel => some options.logLevel

/-- Options after one parameter was set: it holds the value, and all else is as it was. -/
structure IsSet (parameter : Parameter) (value : String) (before after : Options) : Prop where
  get?_eq : ∀ other, after.get? other =
    if parameter = other then some value else before.get? other
  headless_eq : after.headless = before.headless
  rest_eq : after.rest = before.rest

/-- Setting a parameter sets it and nothing else. -/
theorem isSet_of_set {options result : Options} {parameter : Parameter} {value : String}
    (h : options.set parameter value = .ok result) : IsSet parameter value options result := by
  cases parameter with
  | engine =>
    simp only [Options.set] at h
    split at h
    · obtain rfl := Except.ok.inj h
      exact ⟨fun other => by cases other <;> rfl, rfl, rfl⟩
    · exact nomatch h
  | _ =>
    obtain rfl := Except.ok.inj h
    exact ⟨fun other => by cases other <;> rfl, rfl, rfl⟩

/-- The value that is given last is that of a later option, or else that of the first. -/
theorem lastGiven?_cons (parameter : Parameter) (given : Given) (givens : List Given) :
    lastGiven? parameter (given :: givens) =
      (lastGiven? parameter givens).or (given.valueOf? parameter) := by
  unfold lastGiven?
  rw [List.filterMap_cons]
  cases given.valueOf? parameter with
  | none => simp
  | some value =>
    simp only [List.getLast?_cons]
    cases (givens.filterMap (Given.valueOf? parameter)).getLast? <;> rfl

/-- Options after words were read: each parameter holds the value that is given last, or what it
held before; browsers are without a window if this is given or was so before; and the rest is
handed on. -/
structure HasRead (givens : List Given) (tail : List String) (before after : Options) : Prop where
  get?_eq : ∀ parameter, after.get? parameter =
    (lastGiven? parameter givens).or (before.get? parameter)
  headless_eq : after.headless = (before.headless || givens.contains .headless)
  rest_eq : before.rest = [] → after.rest = tail

/-- Reading words that give options leaves no unknown ones, and options that have read them. -/
theorem hasRead_of_readWords {options result : Options} {unknown : List String}
    (htail : IsTail tail)
    (h : readWords options [] (givens.map (fun given =>
      (given.word, .option given.flag given.attached)) ++ tailWords tail) = .ok (result, unknown)) :
    unknown = [] ∧ HasRead givens tail options result := by
  induction givens generalizing options with
  | nil =>
    rcases htail with rfl | ⟨more, rfl⟩
    · obtain ⟨rfl, rfl⟩ := Prod.mk.inj (Except.ok.inj h)
      exact ⟨rfl, fun _ => rfl, (Bool.or_false _).symm, id⟩
    · obtain ⟨rfl, rfl⟩ := Prod.mk.inj (Except.ok.inj h)
      refine ⟨rfl, fun parameter => by cases parameter <;> rfl, (Bool.or_false _).symm, fun _ => ?_⟩
      simp [Function.comp_def]
  | cons given rest ih =>
    rw [List.map_cons, List.cons_append] at h
    cases given with
    | headless =>
      obtain ⟨hunknown, hread⟩ := ih h
      refine ⟨hunknown, fun parameter => ?_, ?_, hread.rest_eq⟩
      · rw [hread.get?_eq, lastGiven?_cons]
        cases parameter <;> simp [Given.valueOf?, Options.get?]
      · rw [hread.headless_eq]
        simp
    | valued parameter value =>
      -- A value that the parameter does not take would have stopped the reading.
      obtain ⟨next, hset, hrest⟩ := exists_of_bind_eq_ok h
      have hset := isSet_of_set hset
      obtain ⟨hunknown, hread⟩ := ih hrest
      refine ⟨hunknown, fun other => ?_, ?_, fun hempty => hread.rest_eq ?_⟩
      · rw [hread.get?_eq, lastGiven?_cons, hset.get?_eq, Option.or_assoc, Given.valueOf?]
        split <;> rfl
      · rw [hread.headless_eq, hset.headless_eq]
        simp
      · rw [hset.rest_eq, hempty]

/-- Words that give options, and whatever follows a separator, are read as these options. -/
theorem hasRead_of_readOptions {options : Options} (htail : IsTail tail)
    (h : readOptions (givens.map Given.word ++ tail) = .ok options) :
    HasRead givens tail .none options := by
  unfold readOptions at h
  rw [wordsOf_given htail] at h
  simp only at h
  split at h
  · exact nomatch h
  · rename_i result hread
    obtain rfl := Except.ok.inj h
    exact (hasRead_of_readWords htail hread).2
  · exact nomatch h

end BrowserScenario.Command
