import BrowserScenario.Proofs.Scenario.Fieldwise
import BrowserScenario.Proofs.Template.Plain

/-!
# Resolved scenarios are stable

A scenario is plain when no field that may hold placeholders has a marker. Resolving a plain
scenario changes nothing, with any variables and without. Main statement: what is resolved with
inert values is plain, so it is resolved to itself and runs in the same way under all variables.
-/

namespace BrowserScenario

open BrowserScenario.Template

variable {values : Variables}

/-- A scenario in which neither the address nor another field that may hold placeholders has a
marker. -/
def Scenario.IsPlain (scenario : Scenario) : Prop :=
  ∀ text, some text ∈ scenario.templates → Plain text

/-- A plain field is resolved to itself. -/
theorem resolveField_of_plain {field : Option String} (h : ∀ text, some text = field → Plain text) :
    resolveField values field = .ok field := by
  cases field with
  | none => rfl
  | some text =>
    simp only [resolveField, fill_of_plain (h text rfl)]
    rfl

/-- A step whose fields are plain is resolved to itself. -/
theorem Step.resolve_of_plain {step : Step}
    (h : ∀ text, some text ∈ step.record.templates → Plain text) :
    step.resolve values = .ok step := by
  simp only [StepRecord.templates, List.mem_cons, List.not_mem_nil, or_false] at h
  have hselector := @resolveField_of_plain values _ fun text ht => h text (Or.inl ht)
  have hvalue := @resolveField_of_plain values _ fun text ht => h text (Or.inr (Or.inl ht))
  have hskipClass := @resolveField_of_plain values _ fun text ht => h text (Or.inr (Or.inr ht))
  rw [step.resolve_eq, hselector, hvalue, hskipClass]
  exact congrArg Except.ok step.withTexts_record

/-- An expectation whose fields are plain is resolved to itself. -/
theorem Expectation.resolve_of_plain {expectation : Expectation}
    (h : ∀ text, some text ∈ expectation.record.templates → Plain text) :
    expectation.resolve values = .ok expectation := by
  simp only [ExpectationRecord.templates, List.mem_cons, List.not_mem_nil, or_false] at h
  have hselector := @resolveField_of_plain values _ fun text ht => h text (Or.inl ht)
  have hvalue := @resolveField_of_plain values _ fun text ht => h text (Or.inr ht)
  rw [expectation.resolve_eq, hselector, hvalue]
  exact congrArg Except.ok expectation.withTexts_record

/-- A list whose items are computed to themselves is computed to itself. -/
theorem mapM_of_fixed {α ε : Type} {compute : α → Except ε α} {items : List α}
    (h : ∀ item ∈ items, compute item = .ok item) : items.mapM compute = .ok items := by
  induction items with
  | nil => rfl
  | cons item rest ih =>
    obtain ⟨hitem, hrest⟩ := List.forall_mem_cons.1 h
    rw [List.mapM_cons, hitem, ih hrest]
    rfl

/-- A plain scenario is resolved to itself, with any variables and without. -/
theorem Scenario.resolve_of_plain {scenario : Scenario} (h : scenario.IsPlain)
    (values : Variables) : scenario.resolve values = .ok scenario := by
  have hurl : Plain scenario.url := h _ List.mem_cons_self
  have hsteps : ∀ step ∈ scenario.steps, step.resolve values = .ok step := by
    intro step hstep
    refine Step.resolve_of_plain fun text htext => h text (List.mem_cons_of_mem _ ?_)
    exact List.mem_append_left _ (List.mem_flatMap.2 ⟨step, hstep, htext⟩)
  have hexpectations : ∀ expectation ∈ scenario.expectations,
      expectation.resolve values = .ok expectation := by
    intro expectation hexpectation
    refine Expectation.resolve_of_plain fun text htext => h text (List.mem_cons_of_mem _ ?_)
    exact List.mem_append_right _ (List.mem_flatMap.2 ⟨expectation, hexpectation, htext⟩)
  unfold Scenario.resolve
  split
  · rfl
  · rw [fill_of_plain hurl, mapM_of_fixed hsteps, mapM_of_fixed hexpectations]
    rfl

/-- A field that is filled with inert values is plain. -/
theorem FilledField.plain (hvalues : Inert values) {field result : Option String}
    (h : FilledField values field result) : ∀ text, some text = result → Plain text := by
  intro text htext
  cases h with
  | absent => exact nomatch htext
  | empty =>
    obtain rfl := Option.some.inj htext
    exact plain_of_fill hvalues (fill_empty values)
  | filled _ hfill =>
    obtain rfl := Option.some.inj htext
    exact plain_of_fill hvalues hfill

/-- A scenario that is filled with inert values is plain. -/
theorem Scenario.Filled.isPlain (hvalues : Inert values) {before after : Scenario}
    (h : before.Filled values after) : after.IsPlain := by
  have hsteps : ∀ step ∈ after.steps, ∀ text, some text ∈ step.record.templates → Plain text := by
    refine forall_mem_of_forall₂ h.steps fun _ _ result hresult text htext => ?_
    simp only [StepRecord.templates, List.mem_cons, List.not_mem_nil, or_false] at htext
    rcases htext with htext | htext | htext
    · exact hresult.selector.plain hvalues text htext
    · exact hresult.value.plain hvalues text htext
    · exact hresult.skipClass.plain hvalues text htext
  have hexpectations : ∀ expectation ∈ after.expectations,
      ∀ text, some text ∈ expectation.record.templates → Plain text := by
    refine forall_mem_of_forall₂ h.expectations fun _ _ result hresult text htext => ?_
    simp only [ExpectationRecord.templates, List.mem_cons, List.not_mem_nil, or_false] at htext
    rcases htext with htext | htext
    · exact hresult.selector.plain hvalues text htext
    · exact hresult.value.plain hvalues text htext
  intro text htext
  rcases List.mem_cons.1 htext with hurl | hfield
  · obtain rfl := Option.some.inj hurl
    exact plain_of_fill hvalues h.url
  · rcases List.mem_append.1 hfield with hfield | hfield
    · obtain ⟨step, hstep, hfield⟩ := List.mem_flatMap.1 hfield
      exact hsteps step hstep text hfield
    · obtain ⟨expectation, hexpectation, hfield⟩ := List.mem_flatMap.1 hfield
      exact hexpectations expectation hexpectation text hfield

/-- What is resolved with inert values has no markers left: it is resolved to itself with any
variables and without, and it runs in the same way under all of them. -/
theorem resolve_stable {values : Variables} {scenario resolved : Scenario}
    (hvariables : values.isEmpty = false) (hvalues : Inert values)
    (h : scenario.resolve values = .ok resolved) :
    resolved.IsPlain ∧ (∀ others, resolved.resolve others = .ok resolved) ∧
      ∀ {σ : Type} (browser : Browser σ) (setting : Setting) (others : Variables),
        resolved.run browser setting others = resolved.runResolved browser setting := by
  have hplain : resolved.IsPlain := (Scenario.filled_of_resolve hvariables h).isPlain hvalues
  refine ⟨hplain, Scenario.resolve_of_plain hplain, fun browser setting others => ?_⟩
  unfold Scenario.run
  rw [Scenario.resolve_of_plain hplain others]

/-- A value that starts with a closing brace and has an opening one inside. -/
def bracedValue : Variables := ⟨[("A", "\x7d\x7bx")]⟩

/-- A scenario with markers next to a dollar sign, to braces without a name, and to a marker that
is not closed. -/
def tightMarkers : Scenario where
  id := "1"
  name := "tight"
  url := "$$\x7bA\x7d\x7bb"
  steps := [.click (some "$\x7b\x7d$\x7bA\x7d") (some ""), .wait none]
  expectations := [.hasAttribute (some "$\x7bA\x7d$\x7b") (some "$\x7bA\x7d") (some "$")]
  tags := []

/-- The scenario with tight markers once its fields were filled. -/
def tightMarkersFilled : Scenario where
  id := "1"
  name := "tight"
  url := "$\x7d\x7bx\x7bb"
  steps := [.click (some "$\x7b\x7d\x7d\x7bx") (some ""), .wait none]
  expectations := [.hasAttribute (some "\x7d\x7bx$\x7b") (some "$\x7bA\x7d") (some "$")]
  tags := []

/-- A value with braces leaves no markers in the fields of tight ones. -/
theorem resolve_stable_tightMarkers :
    (bracedValue.isEmpty = false ∧ Inert bracedValue ∧
      tightMarkers.resolve bracedValue = .ok tightMarkersFilled) ∧
      tightMarkersFilled.IsPlain ∧
        tightMarkersFilled.resolve bracedValue = .ok tightMarkersFilled := by
  have hvalues : Inert bracedValue := by
    intro name value h
    simp only [Variables.get?, bracedValue, Variables.lookupIn] at h
    split at h
    · obtain rfl := Option.some.inj h
      decide
    · exact absurd h (by simp)
  have hresolve : tightMarkers.resolve bracedValue = .ok tightMarkersFilled := by
    decide +kernel
  obtain ⟨hplain, hfixed, -⟩ := resolve_stable rfl hvalues hresolve
  exact ⟨⟨rfl, hvalues, hresolve⟩, hplain, hfixed bracedValue⟩

end BrowserScenario
