import BrowserScenario.Proofs.Schema.Member
import Mathlib.Data.List.Nodup

/-!
# Steps and expectations in documents

A step is an object that names its action and has the optional text fields of that action; typing
has a delay besides. An expectation is an object that names its kind and has the optional text
fields of that kind. Tables list the fields of each action and kind, with the names under which a
field may be given. Main statements: the schema gives exactly the steps and the expectations that
an object stands for, and an object stands for one exactly when it is accepted.
-/

namespace BrowserScenario.Schema

open BrowserScenario.Time

variable {α : Type} {data : Data} {members : Members}

/-- Names of kinds of records, each with its text fields, and of each field the names under which
it may be given. -/
abbrev FieldTable := List (String × List (List String))

/-- The text fields of the actions. -/
def stepFields : FieldTable := [
  ("fill", [["selector"], ["value"]]),
  ("click", [["selector"], ["skipIfHasClass", "skip_if_has_class"]]),
  ("type", [["selector"], ["value"]]),
  ("select", [["selector"], ["value"]]),
  ("check", [["selector"]]),
  ("uncheck", [["selector"]]),
  ("hover", [["selector"]]),
  ("wait", [["value"]])]

/-- The text fields of the kinds of expectations. -/
def expectationFields : FieldTable := [
  ("url", [["value"]]),
  ("text", [["selector"], ["value"]]),
  ("notText", [["selector"], ["value"]]),
  ("visible", [["selector"]]),
  ("hidden", [["selector"]]),
  ("attribute", [["selector"], ["attribute"], ["value"]]),
  ("count", [["selector"], ["value"]])]

/-- The texts of a step, in the order of the fields of its action. -/
def stepTexts : Step → List (Option String)
  | .fill selector value => [selector, value]
  | .click selector skipClass => [selector, skipClass]
  | .type selector value _ => [selector, value]
  | .select selector value => [selector, value]
  | .check selector => [selector]
  | .uncheck selector => [selector]
  | .hover selector => [selector]
  | .wait value => [value]

/-- The delay of a step that has one. -/
def stepDelay? : Step → Option Duration
  | .type _ _ delay => delay
  | _ => none

/-- The texts of an expectation, in the order of the fields of its kind. -/
def expectationTexts : Expectation → List (Option String)
  | .url value => [value]
  | .text selector value => [selector, value]
  | .notText selector value => [selector, value]
  | .visible selector => [selector]
  | .hidden selector => [selector]
  | .hasAttribute selector name value => [selector, name, value]
  | .count selector value => [selector, value]

/-- Fields that have the given texts, one each. -/
def FieldsOf (members : Members) (fields : List (List String)) (texts : List (Option String)) :
    Prop :=
  List.Forall₂ (fun names text => OptionalOf TextOf (firstMember? names members) text) fields texts

/-- Members of a record of some kind whose fields have the given texts. -/
def RecordOf (table : FieldTable) (discriminator kind : String) (texts : List (Option String))
    (members : Members) : Prop :=
  Data.member? discriminator members = some (.text kind) ∧
    ∃ fields, (kind, fields) ∈ table ∧ FieldsOf members fields texts

/-- Members of a record of some kind whose fields are absent, null or textual. -/
def IsRecord (table : FieldTable) (discriminator kind : String) (members : Members) : Prop :=
  Data.member? discriminator members = some (.text kind) ∧
    ∃ fields, (kind, fields) ∈ table ∧
      ∀ names ∈ fields, OptionallyA IsTextual (firstMember? names members)

/-- The step that an object stands for. -/
def StepOf (data : Data) (step : Step) : Prop :=
  ∃ members, data = .map members ∧
    RecordOf stepFields "action" step.action (stepTexts step) members ∧
      (step.action = "type" →
        OptionalOf DelayOf (Data.member? "delay" members) (stepDelay? step))

/-- The expectation that an object stands for. -/
def ExpectationOf (data : Data) (expectation : Expectation) : Prop :=
  ∃ members, data = .map members ∧
    RecordOf expectationFields "type" expectation.kind (expectationTexts expectation) members

/-- An object that is accepted for a step. -/
def IsStep (data : Data) : Prop :=
  ∃ members action, data = .map members ∧ IsRecord stepFields "action" action members ∧
    (action = "type" → OptionallyA IsDelay (Data.member? "delay" members))

/-- An object that is accepted for an expectation. -/
def IsExpectation (data : Data) : Prop :=
  ∃ members kind, data = .map members ∧ IsRecord expectationFields "type" kind members

/-- The kind that a tag names is the kind of that name, where no two kinds have one name. -/
theorem kindOf?_eq_some_iff {kinds : List (String × (Members → Checked α))}
    (hnames : (kinds.map Prod.fst).Nodup) {tag : Data} {kind : String × (Members → Checked α)} :
    kindOf? kinds tag = some kind ↔ kind ∈ kinds ∧ tag = .text kind.1 := by
  apply Iff.intro
  · intro h
    cases tag with
    | text name =>
      have hfound : (kinds.find? fun other => other.1 == name) = some kind := h
      have hname : kind.1 = name := by simpa using List.find?_some hfound
      exact ⟨List.mem_of_find?_eq_some hfound, by rw [hname]⟩
    | _ => exact nomatch h
  · intro h
    obtain ⟨hkind, rfl⟩ := h
    have hfound : (kinds.find? fun other => other.1 == kind.1).isSome = true :=
      List.find?_isSome.2 ⟨kind, hkind, beq_self_eq_true _⟩
    obtain ⟨other, hother⟩ := Option.isSome_iff_exists.1 hfound
    have hname : other.1 = kind.1 := by simpa using List.find?_some hother
    have hmem : other ∈ kinds := List.mem_of_find?_eq_some hother
    obtain rfl : other = kind := List.inj_on_of_nodup_map hnames hmem hkind hname
    exact hother

/-- A record that names one of several kinds is checked as a record of this kind. -/
theorem tagged_eq_within {kinds : List (String × (Members → Checked α))}
    (hnames : (kinds.map Prod.fst).Nodup) {discriminator : String}
    {kind : String × (Members → Checked α)} (hkind : kind ∈ kinds)
    (htag : Data.member? discriminator members = some (.text kind.1)) :
    tagged discriminator kinds (.map members) =
      Checked.within (.field kind.1) (kind.2 members) := by
  have hfound : kindOf? kinds (.text kind.1) = some kind :=
    (kindOf?_eq_some_iff hnames).2 ⟨hkind, rfl⟩
  simp only [tagged, members?, htag, hfound]

/-- The check of a record of one of several kinds gives what the check of its own kind gives. -/
theorem tagged_eq_valid_iff {kinds : List (String × (Members → Checked α))}
    (hnames : (kinds.map Prod.fst).Nodup) {discriminator : String} (hdata : data.IsJson)
    {value : α} :
    tagged discriminator kinds data = .valid value ↔
      ∃ members kind, data = .map members ∧ kind ∈ kinds ∧
        Data.member? discriminator members = some (.text kind.1) ∧
          kind.2 members = .valid value := by
  apply Iff.intro
  · intro h
    unfold tagged at h
    split at h
    · exact absurd h (Checked.fail_ne_valid _ _)
    · rename_i members hmembers
      split at h
      · exact absurd h (Checked.fail_ne_valid _ _)
      · rename_i tag htag
        split at h
        · exact absurd h (Checked.fail_ne_valid _ _)
        · rename_i name check hkind
          obtain ⟨hmem, rfl⟩ := (kindOf?_eq_some_iff hnames).1 hkind
          have hvalue := (Checked.within_eq_valid_iff _ _ _).1 h
          exact ⟨members, (name, check), (members?_eq_some_iff hdata).1 hmembers, hmem, htag, hvalue⟩
  · intro h
    obtain ⟨members, kind, rfl, hmem, htag, hvalue⟩ := h
    rw [tagged_eq_within hnames hmem htag]
    exact (Checked.within_eq_valid_iff _ _ _).2 hvalue

/-- The check of a kind of steps gives the steps of its action whose fields the members have. -/
theorem stepKind_eq_valid_iff {kind : String × (Members → Checked Step)} (hkind : kind ∈ stepKinds)
    (hmembers : (Data.map members).IsJson) {step : Step} :
    kind.2 members = .valid step ↔ step.action = kind.1 ∧
      (∃ fields, (kind.1, fields) ∈ stepFields ∧ FieldsOf members fields (stepTexts step)) ∧
        (kind.1 = "type" →
          OptionalOf DelayOf (Data.member? "delay" members) (stepDelay? step)) := by
  simp only [stepKinds, List.mem_cons, List.not_mem_nil, or_false] at hkind
  rcases hkind with rfl | rfl | rfl | rfl | rfl | rfl | rfl | rfl <;>
    cases step <;>
      simp [Checked.seq_eq_valid_iff, Checked.map_eq_valid_iff, textMember_eq_valid_iff hmembers,
        skipClassMember_eq_valid_iff hmembers, delayMember_eq_valid_iff hmembers, Step.action,
        stepFields, stepTexts, stepDelay?, FieldsOf]

/-- The check of a kind of expectations gives the expectations of that kind whose fields the members
have. -/
theorem expectationKind_eq_valid_iff {kind : String × (Members → Checked Expectation)}
    (hkind : kind ∈ expectationKinds) (hmembers : (Data.map members).IsJson)
    {expectation : Expectation} :
    kind.2 members = .valid expectation ↔ expectation.kind = kind.1 ∧
      ∃ fields, (kind.1, fields) ∈ expectationFields ∧
        FieldsOf members fields (expectationTexts expectation) := by
  simp only [expectationKinds, List.mem_cons, List.not_mem_nil, or_false] at hkind
  rcases hkind with rfl | rfl | rfl | rfl | rfl | rfl | rfl <;>
    cases expectation <;>
      simp [Checked.seq_eq_valid_iff, Checked.map_eq_valid_iff, textMember_eq_valid_iff hmembers,
        Expectation.kind, expectationFields, expectationTexts, FieldsOf, and_assoc]

/-- A kind in a table of fields is a kind that is checked for, if both have the same kinds. -/
theorem exists_kind_of_fields {kinds : List (String × (Members → Checked α))} {table : FieldTable}
    (hsame : table.map Prod.fst = kinds.map Prod.fst) {name : String} {fields : List (List String)}
    (hfields : (name, fields) ∈ table) : ∃ kind ∈ kinds, kind.1 = name := by
  have hname : name ∈ table.map Prod.fst := List.mem_map_of_mem hfields
  rw [hsame] at hname
  exact List.mem_map.1 hname

/-- The check of a step gives the step that an object stands for. -/
theorem step_gives : Gives step StepOf := by
  intro data hdata value
  unfold step
  rw [tagged_eq_valid_iff (by decide) hdata]
  apply Iff.intro
  · intro h
    obtain ⟨members, kind, rfl, hkind, htag, hvalue⟩ := h
    obtain ⟨haction, hfields, hdelay⟩ := (stepKind_eq_valid_iff hkind hdata).1 hvalue
    rw [← haction] at htag hfields hdelay
    exact ⟨members, rfl, ⟨htag, hfields⟩, hdelay⟩
  · intro h
    obtain ⟨members, rfl, ⟨htag, fields, hfields, htexts⟩, hdelay⟩ := h
    have hsame : stepFields.map Prod.fst = stepKinds.map Prod.fst := rfl
    obtain ⟨kind, hkind, haction⟩ := exists_kind_of_fields hsame hfields
    rw [← haction] at htag hfields hdelay
    refine ⟨members, kind, rfl, hkind, htag, ?_⟩
    exact (stepKind_eq_valid_iff hkind hdata).2 ⟨haction.symm, ⟨fields, hfields, htexts⟩, hdelay⟩

/-- The check of an expectation gives the expectation that an object stands for. -/
theorem expectation_gives : Gives expectation ExpectationOf := by
  intro data hdata value
  unfold expectation
  rw [tagged_eq_valid_iff (by decide) hdata]
  apply Iff.intro
  · intro h
    obtain ⟨members, kind, rfl, hkind, htag, hvalue⟩ := h
    obtain ⟨hname, hfields⟩ := (expectationKind_eq_valid_iff hkind hdata).1 hvalue
    rw [← hname] at htag hfields
    exact ⟨members, rfl, htag, hfields⟩
  · intro h
    obtain ⟨members, rfl, htag, fields, hfields, htexts⟩ := h
    have hsame : expectationFields.map Prod.fst = expectationKinds.map Prod.fst := rfl
    obtain ⟨kind, hkind, hname⟩ := exists_kind_of_fields hsame hfields
    rw [← hname] at htag hfields
    refine ⟨members, kind, rfl, hkind, htag, ?_⟩
    exact (expectationKind_eq_valid_iff hkind hdata).2 ⟨hname.symm, fields, hfields, htexts⟩

/-- The fields of some members have texts exactly when each is absent, null or textual. -/
theorem exists_fieldsOf_iff {fields : List (List String)} :
    (∃ texts, FieldsOf members fields texts) ↔
      ∀ names ∈ fields, OptionallyA IsTextual (firstMember? names members) := by
  unfold FieldsOf
  rw [exists_forall₂_iff]
  simp only [optionallyA_iff fun _ => isTextual_iff]

/-- There is a step of each action with any texts for its fields and any delay. -/
theorem exists_step {action : String} {fields : List (List String)}
    (hfields : (action, fields) ∈ stepFields) {texts : List (Option String)}
    (hlength : texts.length = fields.length) (delay : Option Duration) :
    ∃ step : Step, step.action = action ∧ stepTexts step = texts ∧
      (action = "type" → stepDelay? step = delay) := by
  simp only [stepFields, List.mem_cons, Prod.mk.injEq, List.not_mem_nil, or_false] at hfields
  rcases hfields with ⟨rfl, rfl⟩ | ⟨rfl, rfl⟩ | ⟨rfl, rfl⟩ | ⟨rfl, rfl⟩ | ⟨rfl, rfl⟩ | ⟨rfl, rfl⟩ |
    ⟨rfl, rfl⟩ | ⟨rfl, rfl⟩
  · obtain ⟨selector, value, rfl⟩ := List.length_eq_two.1 hlength
    exact ⟨.fill selector value, rfl, rfl, by simp⟩
  · obtain ⟨selector, skipClass, rfl⟩ := List.length_eq_two.1 hlength
    exact ⟨.click selector skipClass, rfl, rfl, by simp⟩
  · obtain ⟨selector, value, rfl⟩ := List.length_eq_two.1 hlength
    exact ⟨.type selector value delay, rfl, rfl, fun _ => rfl⟩
  · obtain ⟨selector, value, rfl⟩ := List.length_eq_two.1 hlength
    exact ⟨.select selector value, rfl, rfl, by simp⟩
  · obtain ⟨selector, rfl⟩ := List.length_eq_one_iff.1 hlength
    exact ⟨.check selector, rfl, rfl, by simp⟩
  · obtain ⟨selector, rfl⟩ := List.length_eq_one_iff.1 hlength
    exact ⟨.uncheck selector, rfl, rfl, by simp⟩
  · obtain ⟨selector, rfl⟩ := List.length_eq_one_iff.1 hlength
    exact ⟨.hover selector, rfl, rfl, by simp⟩
  · obtain ⟨value, rfl⟩ := List.length_eq_one_iff.1 hlength
    exact ⟨.wait value, rfl, rfl, by simp⟩

/-- There is an expectation of each kind with any texts for its fields. -/
theorem exists_expectation {kind : String} {fields : List (List String)}
    (hfields : (kind, fields) ∈ expectationFields) {texts : List (Option String)}
    (hlength : texts.length = fields.length) :
    ∃ expectation : Expectation, expectation.kind = kind ∧ expectationTexts expectation = texts := by
  simp only [expectationFields, List.mem_cons, Prod.mk.injEq, List.not_mem_nil, or_false] at hfields
  rcases hfields with ⟨rfl, rfl⟩ | ⟨rfl, rfl⟩ | ⟨rfl, rfl⟩ | ⟨rfl, rfl⟩ | ⟨rfl, rfl⟩ | ⟨rfl, rfl⟩ |
    ⟨rfl, rfl⟩
  · obtain ⟨value, rfl⟩ := List.length_eq_one_iff.1 hlength
    exact ⟨.url value, rfl, rfl⟩
  · obtain ⟨selector, value, rfl⟩ := List.length_eq_two.1 hlength
    exact ⟨.text selector value, rfl, rfl⟩
  · obtain ⟨selector, value, rfl⟩ := List.length_eq_two.1 hlength
    exact ⟨.notText selector value, rfl, rfl⟩
  · obtain ⟨selector, rfl⟩ := List.length_eq_one_iff.1 hlength
    exact ⟨.visible selector, rfl, rfl⟩
  · obtain ⟨selector, rfl⟩ := List.length_eq_one_iff.1 hlength
    exact ⟨.hidden selector, rfl, rfl⟩
  · obtain ⟨selector, name, value, rfl⟩ := List.length_eq_three.1 hlength
    exact ⟨.hasAttribute selector name value, rfl, rfl⟩
  · obtain ⟨selector, value, rfl⟩ := List.length_eq_two.1 hlength
    exact ⟨.count selector value, rfl, rfl⟩

/-- An object is accepted for a step exactly when it stands for one. -/
theorem isStep_iff {data : Data} : IsStep data ↔ ∃ step, StepOf data step := by
  apply Iff.intro
  · intro h
    obtain ⟨members, action, rfl, ⟨htag, fields, hfields, htextual⟩, hdelay⟩ := h
    obtain ⟨texts, htexts⟩ := exists_fieldsOf_iff.2 htextual
    -- A delay is only looked for where there is one, so one is chosen for the other actions.
    have hchosen : ∃ delay, action = "type" →
        OptionalOf DelayOf (Data.member? "delay" members) delay := by
      by_cases haction : action = "type"
      · obtain ⟨delay, hvalue⟩ := (optionallyA_iff fun _ => isDelay_iff).1 (hdelay haction)
        exact ⟨delay, fun _ => hvalue⟩
      · exact ⟨none, fun h => absurd h haction⟩
    obtain ⟨delay, hvalue⟩ := hchosen
    have hlength : texts.length = fields.length := htexts.length_eq.symm
    obtain ⟨step, rfl, rfl, hstep⟩ := exists_step hfields hlength delay
    refine ⟨step, members, rfl, ⟨htag, fields, hfields, htexts⟩, fun haction => ?_⟩
    rw [hstep haction]
    exact hvalue haction
  · intro h
    obtain ⟨step, members, rfl, ⟨htag, fields, hfields, htexts⟩, hdelay⟩ := h
    have htextual := exists_fieldsOf_iff.1 ⟨_, htexts⟩
    refine ⟨members, step.action, rfl, ⟨htag, fields, hfields, htextual⟩, fun haction => ?_⟩
    exact (optionallyA_iff fun _ => isDelay_iff).2 ⟨_, hdelay haction⟩

/-- An object is accepted for an expectation exactly when it stands for one. -/
theorem isExpectation_iff {data : Data} :
    IsExpectation data ↔ ∃ expectation, ExpectationOf data expectation := by
  apply Iff.intro
  · intro h
    obtain ⟨members, kind, rfl, htag, fields, hfields, htextual⟩ := h
    obtain ⟨texts, htexts⟩ := exists_fieldsOf_iff.2 htextual
    have hlength : texts.length = fields.length := htexts.length_eq.symm
    obtain ⟨expectation, rfl, rfl⟩ := exists_expectation hfields hlength
    exact ⟨expectation, members, rfl, htag, fields, hfields, htexts⟩
  · intro h
    obtain ⟨expectation, members, rfl, htag, fields, hfields, htexts⟩ := h
    have htextual := exists_fieldsOf_iff.1 ⟨_, htexts⟩
    exact ⟨members, expectation.kind, rfl, htag, fields, hfields, htextual⟩

end BrowserScenario.Schema
