import BrowserScenario.Proofs.Pattern.Literal
import Mathlib.Data.Bool.AllAny
import Mathlib.Data.List.Infix

/-!
# Scenarios by a part of their name

Most patterns for names are plain words: letters, digits, spaces, underscores and hyphens, none of
which has a meaning of its own. Main statement: such a pattern asks for the scenarios whose name
contains it, at any place and whatever the case of the letters of either.
-/

namespace BrowserScenario

open BrowserScenario.Pattern BrowserScenario.Text

/-- A letter, a digit, a space, an underscore or a hyphen. -/
def IsPlainCharacter (c : Char) : Prop :=
  c.isAlphanum = true ∨ c = ' ' ∨ c = '_' ∨ c = '-'

instance : DecidablePred IsPlainCharacter := fun c =>
  inferInstanceAs (Decidable (c.isAlphanum = true ∨ c = ' ' ∨ c = '_' ∨ c = '-'))

/-- A plain character has no meaning of its own in a pattern. -/
theorem IsPlainCharacter.not_mem_marks {c : Char} (h : IsPlainCharacter c) : c ∉ marks := by
  have hmarks : ∀ mark ∈ marks, ¬ IsPlainCharacter mark := List.all_iff_forall_prop.1 (by decide)
  exact fun hc => hmarks c hc h

/-- A plain character is in ASCII. -/
theorem IsPlainCharacter.ascii {c : Char} (h : IsPlainCharacter c) : c.val < 128 := by
  rcases h with halphanumeric | rfl | rfl | rfl
  · change ((c.isUpper || c.isLower) || c.isDigit) = true at halphanumeric
    rw [Bool.or_eq_true, Bool.or_eq_true] at halphanumeric
    -- The last capital, the last small letter and the last digit are all in ASCII.
    rcases halphanumeric with (hupper | hlower) | hdigit
    · exact UInt32.lt_of_le_of_lt (of_decide_eq_true hupper).2 (by decide)
    · exact UInt32.lt_of_le_of_lt (of_decide_eq_true (Bool.and_eq_true_iff.1 hlower).2) (by decide)
    · exact UInt32.lt_of_le_of_lt (of_decide_eq_true (Bool.and_eq_true_iff.1 hdigit).2) (by decide)
  · decide
  · decide
  · decide

/-- A pattern of plain characters asks for the scenarios, in order, whose name in lower case contains
the pattern in lower case. -/
theorem scenariosWithName_plain [CharacterNames] {pattern : String} {scenarios : List Scenario}
    (hpattern : ∀ c ∈ pattern.toList, IsPlainCharacter c)
    (hnames : ∀ scenario ∈ scenarios, ∀ c ∈ scenario.name.toList, c.val < 128) :
    scenariosWithName pattern scenarios = .ok (scenarios.filter fun scenario =>
      decide (pattern.toLower.toList <:+: scenario.name.toLower.toList)) := by
  have hcompiled : Pattern.compile pattern = .ok (literal pattern.toList) :=
    compile_of_noMarks fun c hc => (hpattern c hc).not_mem_marks
  have hsearch (scenario : Scenario) (h : scenario ∈ scenarios) :
      (literal pattern.toList).search scenario.name =
        decide (pattern.toLower.toList <:+: scenario.name.toLower.toList) := by
    rw [Bool.eq_iff_iff, search_iff, decide_eq_true_iff,
      matchesIn_literal_iff_of_ascii (fun c hc => (hpattern c hc).ascii) (hnames scenario h)]
  unfold scenariosWithName
  rw [hcompiled]
  exact congrArg Except.ok (List.filter_congr hsearch)

/-- Scenarios whose names tell of logging in and of logging out, in different cases. -/
def visits : List Scenario :=
  [("1", "Log-In as admin"), ("2", "Logout"), ("3", "retry LOG-in 2")].map fun (id, name) =>
    ⟨id, name, "/", [], [], []⟩

/-- A part from inside a word is found in either case, and nothing else is. -/
theorem scenariosWithName_plain_anyCase :
    (∀ c ∈ "g-IN".toList, IsPlainCharacter c) ∧
      (∀ scenario ∈ visits, ∀ c ∈ scenario.name.toList, c.val < 128) ∧
        (scenariosWithName "g-IN" visits).map (·.map Scenario.id) = .ok ["1", "3"] := by
  have hpattern : ∀ c ∈ "g-IN".toList, IsPlainCharacter c := List.all_iff_forall_prop.1 (by decide)
  have hascii : ∀ scenario ∈ visits, scenario.name.toList.all (fun c => decide (c.val < 128)) := by
    decide
  have hnames (scenario : Scenario) (h : scenario ∈ visits) :
      ∀ c ∈ scenario.name.toList, c.val < 128 :=
    List.all_iff_forall_prop.1 (hascii scenario h)
  refine ⟨hpattern, hnames, ?_⟩
  rw [scenariosWithName_plain hpattern hnames]
  exact congrArg Except.ok (by decide +kernel)

end BrowserScenario
