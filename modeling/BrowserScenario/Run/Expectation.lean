import BrowserScenario.Run.Step

/-!
# Checked expectations

An expectation is checked by at most one check of the page. Text that has to be there or must not
be there is rejected without a selector or a value; an element that has to be visible, hidden,
counted or to have an attribute is passed over when it is not named. An expectation of any kind
may also be given as a record with the fields of all kinds; a kind that is none of the known ones
is rejected.
-/

namespace BrowserScenario

variable {σ : Type}

/-- A part of an expectation that must not be empty. -/
def neededPart (part : NeededPart) (kind : String) (field : Option String) : Run σ String :=
  match filled? field with
  | some text => pure text
  | none => Run.reject (.incomplete part kind)

/-- Checks an expectation. -/
def Expectation.perform (browser : Browser σ) (expectation : Expectation) : Run σ Unit :=
  match expectation with
  | .url value => Run.expect browser (.url (value.getD ""))
  | .text selector value => do
    let selector ← neededPart .selector expectation.kind selector
    let value ← neededPart .value expectation.kind value
    Run.expect browser (.text selector value)
  | .notText selector value => do
    let selector ← neededPart .selector expectation.kind selector
    let value ← neededPart .value expectation.kind value
    Run.expect browser (.notText selector value)
  | .visible selector =>
    match filled? selector with
    | some selector => Run.expect browser (.visible selector)
    | none => pure ()
  | .hidden selector =>
    match filled? selector with
    | some selector => Run.expect browser (.hidden selector)
    | none => pure ()
  | .hasAttribute selector name value =>
    match filled? selector, filled? name with
    | some selector, some name => Run.expect browser (.hasAttribute selector name (value.getD ""))
    | _, _ => pure ()
  | .count selector value =>
    match filled? selector with
    | some selector => do
      let count ← Run.ofExcept (integerField 0 value)
      Run.expect browser (.count selector count)
    | none => pure ()

/-- An expectation of any kind with the fields of all kinds. -/
structure ExpectationRecord where
  kind : String
  selector : Option String
  name : Option String
  value : Option String
deriving DecidableEq, Repr

/-- The expectation that a record is, if its kind is known. -/
def ExpectationRecord.expectation? (record : ExpectationRecord) : Option Expectation :=
  match record.kind with
  | "url" => some (.url record.value)
  | "text" => some (.text record.selector record.value)
  | "notText" => some (.notText record.selector record.value)
  | "visible" => some (.visible record.selector)
  | "hidden" => some (.hidden record.selector)
  | "attribute" => some (.hasAttribute record.selector record.name record.value)
  | "count" => some (.count record.selector record.value)
  | _ => none

/-- Checks the expectation that a record is. -/
def ExpectationRecord.perform (browser : Browser σ) (record : ExpectationRecord) : Run σ Unit :=
  match record.expectation? with
  | some expectation => expectation.perform browser
  | none => Run.reject (.unknownExpectation record.kind)

/-- Checks expectations given as records, in order and up to the first failure. -/
def checkRecords (browser : Browser σ) (records : List ExpectationRecord) : Run σ Unit :=
  records.forM (ExpectationRecord.perform browser)

end BrowserScenario
