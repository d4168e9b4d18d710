import BrowserScenario.Run.Scenario

/-!
# Steps and expectations as records

Every step and every expectation is a record with the fields of all kinds, where fields that its
kind does not have are absent. A field is missing when it is absent or empty. Main statements: the
kind of the record is known and leads back to the step or expectation, so performing the one is
performing the other; and resolving a step or an expectation is resolving the fields of its record
one after the other.
-/

namespace BrowserScenario

variable {σ : Type}

/-- A field that is absent or empty. -/
def IsMissing (field : Option String) : Prop :=
  field = none ∨ field = some ""

instance (field : Option String) : Decidable (IsMissing field) :=
  inferInstanceAs (Decidable (field = none ∨ field = some ""))

/-- A text that is not empty fills a field. -/
theorem filled?_some {text : String} (h : text ≠ "") : filled? (some text) = some text := by
  simp [filled?, h]

/-- A field that is present and not empty holds a text that is not empty. -/
theorem ne_empty_of_filled? {field : Option String} {text : String}
    (h : filled? field = some text) : text ≠ "" := by
  have hkept := (Option.filter_eq_some_iff.1 h).2
  simpa using hkept

/-- A field is missing exactly when nothing fills it. -/
theorem isMissing_iff {field : Option String} : IsMissing field ↔ filled? field = none := by
  cases field with
  | none => simp [IsMissing, filled?]
  | some text => by_cases hempty : text = "" <;> simp [IsMissing, filled?, hempty]

/-- A field that a text fills is not missing. -/
theorem not_isMissing_of_filled? {field : Option String} {text : String}
    (h : filled? field = some text) : ¬ IsMissing field := by
  rw [isMissing_iff, h]
  exact Option.some_ne_none text

/-- A field that is not missing is filled by some text. -/
theorem exists_filled?_iff {field : Option String} :
    (∃ text, filled? field = some text) ↔ ¬ IsMissing field := by
  rw [isMissing_iff, ← Option.isSome_iff_exists, Option.isSome_iff_ne_none]

/-- A field that a text fills reads as this text. -/
theorem getD_of_filled? {field : Option String} {text : String} (h : filled? field = some text) :
    field.getD "" = text := by
  rw [(Option.filter_eq_some_iff.1 h).1]
  rfl

/-- A missing field reads as the empty text, and no other does. -/
theorem isMissing_iff_getD {field : Option String} : IsMissing field ↔ field.getD "" = "" := by
  cases field <;> simp [IsMissing]

/-- A step with the fields of all actions. -/
def Step.record (step : Step) : StepRecord :=
  match step with
  | .fill selector value => ⟨step.action, selector, value, none, none⟩
  | .click selector skipClass => ⟨step.action, selector, none, skipClass, none⟩
  | .type selector value delay => ⟨step.action, selector, value, none, delay⟩
  | .select selector value => ⟨step.action, selector, value, none, none⟩
  | .check selector => ⟨step.action, selector, none, none, none⟩
  | .uncheck selector => ⟨step.action, selector, none, none, none⟩
  | .hover selector => ⟨step.action, selector, none, none, none⟩
  | .wait value => ⟨step.action, none, value, none, none⟩

/-- An expectation with the fields of all kinds. -/
def Expectation.record (expectation : Expectation) : ExpectationRecord :=
  match expectation with
  | .url value => ⟨expectation.kind, none, none, value⟩
  | .text selector value => ⟨expectation.kind, selector, none, value⟩
  | .notText selector value => ⟨expectation.kind, selector, none, value⟩
  | .visible selector => ⟨expectation.kind, selector, none, none⟩
  | .hidden selector => ⟨expectation.kind, selector, none, none⟩
  | .hasAttribute selector name value => ⟨expectation.kind, selector, name, value⟩
  | .count selector value => ⟨expectation.kind, selector, none, value⟩

/-- The record of a step leads back to the step. -/
theorem Step.step?_record (step : Step) : step.record.step? = some step := by
  cases step <;> rfl

/-- The record of an expectation leads back to the expectation. -/
theorem Expectation.expectation?_record (expectation : Expectation) :
    expectation.record.expectation? = some expectation := by
  cases expectation <;> rfl

/-- The record of a step is performed as the step is. -/
theorem Step.perform_record (browser : Browser σ) (step : Step) :
    step.record.perform browser = step.perform browser := by
  unfold StepRecord.perform
  rw [step.step?_record]

/-- The record of an expectation is checked as the expectation is. -/
theorem Expectation.perform_record (browser : Browser σ) (expectation : Expectation) :
    expectation.record.perform browser = expectation.perform browser := by
  unfold ExpectationRecord.perform
  rw [expectation.expectation?_record]

/-- A step of the same action with other texts, of which it takes those that its action has. -/
def Step.withTexts (step : Step) (selector value skipClass : Option String) : Step :=
  match step with
  | .fill _ _ => .fill selector value
  | .click _ _ => .click selector skipClass
  | .type _ _ delay => .type selector value delay
  | .select _ _ => .select selector value
  | .check _ => .check selector
  | .uncheck _ => .uncheck selector
  | .hover _ => .hover selector
  | .wait _ => .wait value

/-- An expectation of the same kind with other texts, of which it takes those that its kind has;
the name of an attribute stays. -/
def Expectation.withTexts (expectation : Expectation) (selector value : Option String) :
    Expectation :=
  match expectation with
  | .url _ => .url value
  | .text _ _ => .text selector value
  | .notText _ _ => .notText selector value
  | .visible _ => .visible selector
  | .hidden _ => .hidden selector
  | .hasAttribute _ name _ => .hasAttribute selector name value
  | .count _ _ => .count selector value

/-- A step with its own texts is the step itself. -/
theorem Step.withTexts_record (step : Step) :
    step.withTexts step.record.selector step.record.value step.record.skipClass = step := by
  cases step <;> rfl

/-- An expectation with its own texts is the expectation itself. -/
theorem Expectation.withTexts_record (expectation : Expectation) :
    expectation.withTexts expectation.record.selector expectation.record.value = expectation := by
  cases expectation <;> rfl

/-- The record of a step with other texts has these texts, if what was absent is absent among
them. -/
theorem Step.record_withTexts (step : Step) {selector value skipClass : Option String}
    (hselector : step.record.selector = none → selector = none)
    (hvalue : step.record.value = none → value = none)
    (hskipClass : step.record.skipClass = none → skipClass = none) :
    (step.withTexts selector value skipClass).record =
      { step.record with selector, value, skipClass } := by
  cases step <;> simp_all [withTexts, record, action]

/-- The record of an expectation with other texts has these texts, if what was absent is absent
among them. -/
theorem Expectation.record_withTexts (expectation : Expectation) {selector value : Option String}
    (hselector : expectation.record.selector = none → selector = none)
    (hvalue : expectation.record.value = none → value = none) :
    (expectation.withTexts selector value).record =
      { expectation.record with selector, value } := by
  cases expectation <;> simp_all [withTexts, record, kind]

/-- A step is resolved by resolving its selector, its value and its suppressing class in turn. -/
theorem Step.resolve_eq (values : Variables) (step : Step) :
    step.resolve values = do
      let selector ← resolveField values step.record.selector
      let value ← resolveField values step.record.value
      let skipClass ← resolveField values step.record.skipClass
      return step.withTexts selector value skipClass := by
  cases step <;> rfl

/-- An expectation is resolved by resolving its selector and its value in turn. -/
theorem Expectation.resolve_eq (values : Variables) (expectation : Expectation) :
    expectation.resolve values = do
      let selector ← resolveField values expectation.record.selector
      let value ← resolveField values expectation.record.value
      return expectation.withTexts selector value := by
  cases expectation <;> rfl

end BrowserScenario
