import BrowserScenario.Proofs.Scenario.Record
import BrowserScenario.Proofs.Scenario.Resolve
import BrowserScenario.Proofs.Template.Names
import Mathlib.Data.List.Forall2

/-!
# Resolution field by field

A resolved scenario is the scenario with its address filled, and with the selector, the value and
the suppressing class of every step and the selector and the value of every expectation filled
where they are present and not empty; nothing else is changed. Main statement: a scenario can be
resolved exactly when all names that its fields ask for stand for something, the result is the
scenario filled field by field, and otherwise the first name that stands for nothing is reported.
-/

namespace BrowserScenario

open BrowserScenario.Template

variable {values : Variables} {α β ε : Type}

/-- The fields of a step that may hold placeholders, in the order in which they are resolved. -/
def StepRecord.templates (record : StepRecord) : List (Option String) :=
  [record.selector, record.value, record.skipClass]

/-- The fields of an expectation that may hold placeholders, in the order in which they are
resolved. -/
def ExpectationRecord.templates (record : ExpectationRecord) : List (Option String) :=
  [record.selector, record.value]

/-- The fields of a scenario that may hold placeholders: its address, those of its steps, those of
its expectations. -/
def Scenario.templates (scenario : Scenario) : List (Option String) :=
  some scenario.url :: (scenario.steps.flatMap (fun step => step.record.templates) ++
    scenario.expectations.flatMap fun expectation => expectation.record.templates)

/-- The names that a field asks for. -/
def fieldNames : Option String → List (List Char)
  | none => []
  | some text => names text

/-- The names that a scenario asks for, in order. -/
def Scenario.markerNames (scenario : Scenario) : List (List Char) :=
  scenario.templates.flatMap fieldNames

/-- What a field is after it was resolved: a field that is absent or empty stays so, and any other
is filled. -/
inductive FilledField (values : Variables) : Option String → Option String → Prop
  | absent : FilledField values none none
  | empty : FilledField values (some "") (some "")
  | filled {before after : String} (hne : before ≠ "") (h : fill values before = .ok after) :
    FilledField values (some before) (some after)

/-- A step with its fields filled; its action and its delay are kept. -/
structure StepRecord.Filled (values : Variables) (before after : StepRecord) : Prop where
  action_eq : after.action = before.action
  selector : FilledField values before.selector after.selector
  value : FilledField values before.value after.value
  skipClass : FilledField values before.skipClass after.skipClass
  delay_eq : after.delay = before.delay

/-- An expectation with its fields filled; its kind and the name of an attribute are kept. -/
structure ExpectationRecord.Filled (values : Variables) (before after : ExpectationRecord) :
    Prop where
  kind_eq : after.kind = before.kind
  selector : FilledField values before.selector after.selector
  name_eq : after.name = before.name
  value : FilledField values before.value after.value

/-- A scenario with its address filled and with its steps and expectations filled one by one; its
identity, its name and its tags are kept. -/
structure Scenario.Filled (values : Variables) (before after : Scenario) : Prop where
  id_eq : after.id = before.id
  name_eq : after.name = before.name
  url : fill values before.url = .ok after.url
  steps : List.Forall₂ (fun step result => StepRecord.Filled values step.record result.record)
    before.steps after.steps
  expectations : List.Forall₂
    (fun expectation result => ExpectationRecord.Filled values expectation.record result.record)
    before.expectations after.expectations
  tags_eq : after.tags = before.tags

/-- An empty text is filled as it is. -/
theorem fill_empty (values : Variables) : fill values "" = .ok "" := by
  have hnames : ∀ piece ∈ (decompose "".toList).pieces, HasValue values piece.name := by
    simp [decompose_nil]
  rw [fill, fillChars_filled hnames]
  simp [decompose_nil, Decomposition.filled, piecesFilled]

/-- A field that is resolved is filled. -/
theorem filledField_of_resolveField {field result : Option String}
    (h : resolveField values field = .ok result) : FilledField values field result := by
  cases field with
  | none =>
    obtain rfl : none = result := Except.ok.inj h
    exact .absent
  | some text =>
    have hfill : (some <$> fill values text) = .ok result := h
    cases hfilled : fill values text with
    | error name =>
      rw [hfilled] at hfill
      exact nomatch hfill
    | ok filled =>
      rw [hfilled] at hfill
      obtain rfl : some filled = result := Except.ok.inj hfill
      by_cases hempty : text = ""
      · subst hempty
        obtain rfl : "" = filled := Except.ok.inj ((fill_empty values).symm.trans hfilled)
        exact .empty
      · exact .filled hempty hfilled

/-- A field that was absent is absent after it was filled. -/
theorem FilledField.eq_none {field result : Option String} (h : FilledField values field result)
    (habsent : field = none) : result = none := by
  cases h with
  | absent => rfl
  | empty => exact nomatch habsent
  | filled => exact nomatch habsent

/-- A field is missing after it was filled exactly when it was missing before. -/
theorem FilledField.isMissing_iff {field result : Option String}
    (h : FilledField values field result) : IsMissing result ↔ IsMissing field := by
  cases h with
  | absent => rfl
  | empty => rfl
  | filled hne hfill => simp [IsMissing, hne, fill_ne_empty hne hfill]

/-- A field asks for its names. -/
theorem resolveField_asksFor (values : Variables) (field : Option String) :
    AsksFor values (fieldNames field) (resolveField values field) := by
  cases field with
  | none => exact .ok none
  | some text => exact (fill_asksFor values text).map some

/-- A step asks for the names of its fields in turn. -/
theorem Step.resolve_asksFor (values : Variables) (step : Step) :
    AsksFor values (step.record.templates.flatMap fieldNames) (step.resolve values) := by
  rw [step.resolve_eq]
  have hfield := resolveField_asksFor values
  simp only [StepRecord.templates, List.flatMap_cons, List.flatMap_nil]
  exact (hfield _).bind fun _ => (hfield _).bind fun _ => (hfield _).bind fun _ => .ok _

/-- An expectation asks for the names of its fields in turn. -/
theorem Expectation.resolve_asksFor (values : Variables) (expectation : Expectation) :
    AsksFor values (expectation.record.templates.flatMap fieldNames)
      (expectation.resolve values) := by
  rw [expectation.resolve_eq]
  have hfield := resolveField_asksFor values
  simp only [ExpectationRecord.templates, List.flatMap_cons, List.flatMap_nil]
  exact (hfield _).bind fun _ => (hfield _).bind fun _ => .ok _

/-- With any variables, a scenario asks for the names of its fields in turn. -/
theorem Scenario.resolve_asksFor (hvalues : values.isEmpty = false) (scenario : Scenario) :
    AsksFor values scenario.markerNames (scenario.resolve values) := by
  have hnames : scenario.markerNames = names scenario.url ++
      (scenario.steps.flatMap (fun step => step.record.templates.flatMap fieldNames) ++
        (scenario.expectations.flatMap
          (fun expectation => expectation.record.templates.flatMap fieldNames) ++ [])) := by
    simp [markerNames, templates, fieldNames, List.flatMap_assoc]
  unfold Scenario.resolve
  rw [hnames, if_neg (by simp [hvalues])]
  exact (fill_asksFor values scenario.url).bind fun _ =>
    (AsksFor.mapM (Step.resolve_asksFor values) scenario.steps).bind fun _ =>
      (AsksFor.mapM (Expectation.resolve_asksFor values) scenario.expectations).bind fun _ => .ok _

/-- A name that is missing is one that a field of the scenario asks for. -/
theorem Scenario.missing_mem_markerNames {scenario : Scenario} {name : String}
    (h : scenario.resolve values = .error name) : name.toList ∈ scenario.markerNames := by
  cases hvalues : values.isEmpty with
  | true =>
    unfold Scenario.resolve at h
    rw [if_pos hvalues] at h
    exact nomatch h
  | false => exact (scenario.resolve_asksFor hvalues).mem_of_error h

/-- A resolved step is the step with its fields filled. -/
theorem Step.filled_of_resolve {step result : Step} (h : step.resolve values = .ok result) :
    StepRecord.Filled values step.record result.record := by
  rw [step.resolve_eq] at h
  obtain ⟨selector, hselector, h⟩ := exists_of_bind_eq_ok h
  obtain ⟨value, hvalue, h⟩ := exists_of_bind_eq_ok h
  obtain ⟨skipClass, hskipClass, h⟩ := exists_of_bind_eq_ok h
  have hselector := filledField_of_resolveField hselector
  have hvalue := filledField_of_resolveField hvalue
  have hskipClass := filledField_of_resolveField hskipClass
  obtain rfl : step.withTexts selector value skipClass = result := Except.ok.inj h
  rw [step.record_withTexts hselector.eq_none hvalue.eq_none hskipClass.eq_none]
  exact ⟨rfl, hselector, hvalue, hskipClass, rfl⟩

/-- A resolved expectation is the expectation with its fields filled. -/
theorem Expectation.filled_of_resolve {expectation result : Expectation}
    (h : expectation.resolve values = .ok result) :
    ExpectationRecord.Filled values expectation.record result.record := by
  rw [expectation.resolve_eq] at h
  obtain ⟨selector, hselector, h⟩ := exists_of_bind_eq_ok h
  obtain ⟨value, hvalue, h⟩ := exists_of_bind_eq_ok h
  have hselector := filledField_of_resolveField hselector
  have hvalue := filledField_of_resolveField hvalue
  obtain rfl : expectation.withTexts selector value = result := Except.ok.inj h
  rw [expectation.record_withTexts hselector.eq_none hvalue.eq_none]
  exact ⟨rfl, hselector, rfl, hvalue⟩

/-- The results of a list are those of its items, in order. -/
theorem forall₂_of_mapM {compute : α → Except ε β} {items : List α} {results : List β}
    (h : items.mapM compute = .ok results) :
    List.Forall₂ (fun item result => compute item = .ok result) items results := by
  induction items generalizing results with
  | nil =>
    obtain rfl : [] = results := Except.ok.inj h
    exact .nil
  | cons item rest ih =>
    rw [List.mapM_cons] at h
    obtain ⟨result, hresult, h⟩ := exists_of_bind_eq_ok h
    obtain ⟨others, hothers, h⟩ := exists_of_bind_eq_ok h
    obtain rfl : result :: others = results := Except.ok.inj h
    exact .cons hresult (ih hothers)

/-- What follows for the result of every item holds of all results. -/
theorem forall_mem_of_forall₂ {holds : α → β → Prop} {items : List α} {results : List β}
    (h : List.Forall₂ holds items results) {follows : β → Prop}
    (hfollows : ∀ item ∈ items, ∀ result, holds item result → follows result) :
    ∀ result ∈ results, follows result := by
  induction h with
  | nil => simp
  | cons hfirst _ ih =>
    obtain ⟨hhead, htail⟩ := List.forall_mem_cons.1 hfollows
    exact List.forall_mem_cons.2 ⟨hhead _ hfirst, ih htail⟩

/-- With any variables, a resolved scenario is the scenario filled field by field. -/
theorem Scenario.filled_of_resolve (hvalues : values.isEmpty = false)
    {scenario resolved : Scenario} (h : scenario.resolve values = .ok resolved) :
    scenario.Filled values resolved := by
  rcases resolve_cases h with ⟨hempty, -⟩ | ⟨-, url, steps, expectations, hurl, hsteps,
    hexpectations, rfl⟩
  · rw [hvalues] at hempty
    exact nomatch hempty
  · refine ⟨rfl, rfl, hurl, ?_, ?_, rfl⟩
    · exact (forall₂_of_mapM hsteps).imp fun _ _ => Step.filled_of_resolve
    · exact (forall₂_of_mapM hexpectations).imp fun _ _ => Expectation.filled_of_resolve

/-- Resolving a scenario keeps its summary. -/
theorem summary_resolve {scenario resolved : Scenario} (h : scenario.resolve values = .ok resolved) :
    resolved.summary = scenario.summary := by
  rcases resolve_cases h with ⟨-, rfl⟩ | ⟨hvalues, -⟩
  · rfl
  · have hfilled := Scenario.filled_of_resolve hvalues h
    unfold Scenario.summary
    rw [hfilled.id_eq, hfilled.steps.length_eq, hfilled.expectations.length_eq]

/-- Without variables a scenario stays as it is. With any, it can be resolved exactly when all
names that it asks for stand for something; it is then filled field by field; and otherwise the
first name that stands for nothing is reported. -/
theorem resolve_fieldwise (values : Variables) (scenario : Scenario) :
    (values.isEmpty = true → scenario.resolve values = .ok scenario) ∧
      (values.isEmpty = false →
        ((∃ resolved, scenario.resolve values = .ok resolved) ↔
          ∀ name ∈ scenario.markerNames, HasValue values name) ∧
        (∀ resolved, scenario.resolve values = .ok resolved → scenario.Filled values resolved) ∧
        ∀ before name after, scenario.markerNames = before ++ name :: after →
          (∀ earlier ∈ before, HasValue values earlier) → ¬ HasValue values name →
            scenario.resolve values = .error (String.ofList name)) := by
  refine ⟨fun hempty => ?_, fun hvalues => ?_⟩
  · unfold Scenario.resolve
    exact if_pos hempty
  · have hasks := scenario.resolve_asksFor hvalues
    exact ⟨hasks.isOk_iff, fun _ => Scenario.filled_of_resolve hvalues, hasks.missing⟩

end BrowserScenario
