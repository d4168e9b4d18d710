import BrowserScenario.Scenario.Basic
import BrowserScenario.Data.Checked
import BrowserScenario.Number.Reading

/-!
# The schema of scenario documents

Which decoded values are scenario documents, and the scenarios they hold. Members that the schema
does not name are ignored. A text may be given as a number, which is then written in decimal if it
does not have too many digits; a delay may be given as text. The action of a step and the type of an
expectation select the fields that are looked at.
-/

namespace BrowserScenario.Schema

open BrowserScenario.Number BrowserScenario.Text BrowserScenario.Time

/-- The members of an object. -/
abbrev Members := List (Data × Data)

/-- A text, or a number or bytes that stand for one. -/
def text : Data → Checked String
  | .int n => if isWritable n then .valid (Data.intText n) else .fail .longNumber
  | .float x => .valid x.text
  | other => Checked.plainText other

/-- A null, or a text. -/
def optionalText : Data → Checked (Option String)
  | .null => .valid none
  | other => some <$> text other

/-- A floating point number read from text. -/
def numberOfText (s : String) : Checked Binary64 :=
  match fieldNumber? s.toList with
  | some x => .valid x
  | none => .fail .unreadableNumber

/-- A floating point number; a truth value counts as zero or one. -/
def number : Data → Checked Binary64
  | .bool b => .valid (Binary64.ofInt (if b then 1 else 0))
  | .int n =>
    match Binary64.ofInt? n with
    | some x => .valid x
    | none => .fail .notNumber
  | .float x => .valid x
  | .text s => numberOfText s
  | .bytes content => .ofBytes numberOfText .unreadableNumber content
  | _ => .fail .notNumber

/-- A floating point number that is not below zero. -/
def nonnegative (data : Data) : Checked Binary64 :=
  match number data with
  | .valid x => if x.isNonnegative then .valid x else .fail .negative
  | .invalid first more => .invalid first more

/-- A null, or a delay. -/
def optionalDelay : Data → Checked (Option Duration)
  | .null => .valid none
  | other => (fun delay => some (.floating delay)) <$> nonnegative other

/-- A member that has to be there. -/
def required {α : Type} (name : String) (check : Data → Checked α) (members : Members) :
    Checked α :=
  Checked.within (.field name) <|
    match Data.member? name members with
    | some data => check data
    | none => .fail .required

/-- A member that may be absent and then has a default. -/
def withDefault {α : Type} (name : String) (default : α) (check : Data → Checked α)
    (members : Members) : Checked α :=
  match Data.member? name members with
  | some data => Checked.within (.field name) (check data)
  | none => .valid default

/-- An optional text member. -/
def textMember (name : String) (members : Members) : Checked (Option String) :=
  withDefault name none optionalText members

/-- The class that suppresses a click, under either of its names; the first is preferred. -/
def skipClassMember (members : Members) : Checked (Option String) :=
  match Data.member? "skipIfHasClass" members with
  | some data => Checked.within (.field "skipIfHasClass") (optionalText data)
  | none => textMember "skip_if_has_class" members

/-- The items of a value that is taken for a list. -/
def listItems? : Data → Option (List Data)
  | .list items => some items
  | .pair key value => some [key, value]
  | .set items => some items
  | .elided false => some []
  | _ => none

/-- The members of a value that is taken for an object. -/
def members? : Data → Option Members
  | .map entries => some entries
  | .elided true => some []
  | _ => none

/-- The kinds of steps, each with the fields that it has. -/
def stepKinds : List (String × (Members → Checked Step)) := [
  ("fill", fun m => .fill <$> textMember "selector" m <*> textMember "value" m),
  ("click", fun m => .click <$> textMember "selector" m <*> skipClassMember m),
  ("type", fun m =>
    .type <$> textMember "selector" m <*> textMember "value" m
      <*> withDefault "delay" none optionalDelay m),
  ("select", fun m => .select <$> textMember "selector" m <*> textMember "value" m),
  ("check", fun m => .check <$> textMember "selector" m),
  ("uncheck", fun m => .uncheck <$> textMember "selector" m),
  ("hover", fun m => .hover <$> textMember "selector" m),
  ("wait", fun m => .wait <$> textMember "value" m)]

/-- The kinds of expectations, each with the fields that it has. -/
def expectationKinds : List (String × (Members → Checked Expectation)) := [
  ("url", fun m => .url <$> textMember "value" m),
  ("text", fun m => .text <$> textMember "selector" m <*> textMember "value" m),
  ("notText", fun m => .notText <$> textMember "selector" m <*> textMember "value" m),
  ("visible", fun m => .visible <$> textMember "selector" m),
  ("hidden", fun m => .hidden <$> textMember "selector" m),
  ("attribute", fun m =>
    .hasAttribute <$> textMember "selector" m <*> textMember "attribute" m
      <*> textMember "value" m),
  ("count", fun m => .count <$> textMember "selector" m <*> textMember "value" m)]

/-- The kind that a tag names. -/
def kindOf? {α : Type} (kinds : List (String × (Members → Checked α))) :
    Data → Option (String × (Members → Checked α))
  | .text tag => kinds.find? fun kind => kind.1 == tag
  | _ => none

/-- An object of one of several kinds; the member named by the discriminator tells which. -/
def tagged {α : Type} (discriminator : String) (kinds : List (String × (Members → Checked α)))
    (data : Data) : Checked α :=
  match members? data with
  | none => .fail .notFields
  | some members =>
    match Data.member? discriminator members with
    | none => .fail (.noTag discriminator)
    | some tag =>
      match kindOf? kinds tag with
      | none => .fail (.unknownTag tag.shown discriminator (kinds.map (·.1)))
      | some (name, check) => Checked.within (.field name) (check members)

/-- A step. -/
def step : Data → Checked Step :=
  tagged "action" stepKinds

/-- An expectation. -/
def expectation : Data → Checked Expectation :=
  tagged "type" expectationKinds

/-- A list with a check for its items. -/
def listOf {α : Type} (check : Data → Checked α) (data : Data) : Checked (List α) :=
  match listItems? data with
  | some items => Checked.each check items
  | none => .fail .notList

/-- The tags of a scenario. -/
def tags (data : Data) : Checked (List String) :=
  match listItems? data with
  | some items => tagSet <$> Checked.each text items
  | none => .fail .notTagSet

/-- A scenario. -/
def scenario (data : Data) : Checked Scenario :=
  match members? data with
  | none => .fail (.notModel "TestScenario")
  | some m =>
    Scenario.mk <$> required "id" text m <*> required "name" text m <*> required "url" text m
      <*> withDefault "steps" [] (listOf step) m
      <*> withDefault "expectations" [] (listOf expectation) m
      <*> withDefault "tags" [] tags m

/-- The scenarios of a document, listed under either of two names; the first is preferred. -/
def document (data : Data) : Checked (List Scenario) :=
  match members? data with
  | none => .fail (.notModel "ScenarioDocument")
  | some m =>
    match Data.member? "testScenarios" m, Data.member? "test_scenarios" m with
    | none, some listed => Checked.within (.field "test_scenarios") (listOf scenario listed)
    | _, _ => required "testScenarios" (listOf scenario) m

end BrowserScenario.Schema
