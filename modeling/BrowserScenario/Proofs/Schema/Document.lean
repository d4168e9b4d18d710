import BrowserScenario.Proofs.Schema.Record
import BrowserScenario.Scenario.Load

/-!
# Scenario documents

A scenario is an object with an id, a name and an address, which are textual, and perhaps with
steps, expectations and tags. A document is an object with an array of scenarios under one of two
names. Main statement: decoded JSON is read as a document exactly when it is one, and the
scenarios are then those of the array, in order, each with its steps and expectations in order.
-/

namespace BrowserScenario.Schema

variable {α : Type} {data : Data} {members : Members}

/-- The tags that an optional list stands for: its texts in increasing order, each once. -/
def TagsOf (field : Option Data) (tags : List String) : Prop :=
  ∃ texts, ListOf TextOf field texts ∧ tags = tagSet texts

/-- The scenario that an object stands for. -/
def ScenarioOf (data : Data) (scenario : Scenario) : Prop :=
  ∃ members, data = .map members ∧
    RequiredOf TextOf (Data.member? "id" members) scenario.id ∧
    RequiredOf TextOf (Data.member? "name" members) scenario.name ∧
    RequiredOf TextOf (Data.member? "url" members) scenario.url ∧
    ListOf StepOf (Data.member? "steps" members) scenario.steps ∧
    ListOf ExpectationOf (Data.member? "expectations" members) scenario.expectations ∧
    TagsOf (Data.member? "tags" members) scenario.tags

/-- An object that is accepted for a scenario. -/
def IsScenario (data : Data) : Prop :=
  ∃ members, data = .map members ∧
    (∀ name ∈ ["id", "name", "url"], ∃ text, Data.member? name members = some text ∧
      IsTextual text) ∧
    OptionallyListOf IsStep (Data.member? "steps" members) ∧
    OptionallyListOf IsExpectation (Data.member? "expectations" members) ∧
    OptionallyListOf IsTextual (Data.member? "tags" members)

/-- The names of the list of scenarios; the first is preferred. -/
def listNames : List String := ["testScenarios", "test_scenarios"]

/-- The scenarios that a document stands for, one for each item of its list, in order. -/
def DocumentOf (data : Data) (scenarios : List Scenario) : Prop :=
  ∃ members items, data = .map members ∧ firstMember? listNames members = some (.list items) ∧
    List.Forall₂ ScenarioOf items scenarios

/-- An object that is accepted for a document. -/
def IsDocument (data : Data) : Prop :=
  ∃ members items, data = .map members ∧ firstMember? listNames members = some (.list items) ∧
    ∀ item ∈ items, IsScenario item

/-- The check of tags gives the texts of the list as a set. -/
theorem tags_gives : Gives tags fun data => TagsOf (some data) := by
  intro data hdata value
  have htexts : tags data = .valid value ↔
      ∃ texts, listOf text data = .valid texts ∧ value = tagSet texts := by
    unfold tags listOf
    cases listItems? data with
    | none =>
      apply Iff.intro
      · intro h
        exact absurd h (Checked.fail_ne_valid _ _)
      · intro h
        obtain ⟨texts, htexts, -⟩ := h
        exact absurd htexts (Checked.fail_ne_valid _ _)
    | some items => exact Checked.map_eq_valid_iff _ _ _
  rw [htexts]
  simp only [TagsOf, listOf_gives text_gives data hdata]

/-- Tags that are absent are none. -/
theorem tagsOf_absent_iff (value : List String) : [] = value ↔ TagsOf none value := by
  apply Iff.intro
  · intro h
    exact ⟨[], .absent, h.symm⟩
  · intro h
    obtain ⟨texts, htexts, rfl⟩ := h
    cases htexts
    rfl

/-- The check of a scenario gives the values that the checks of its members give. -/
theorem scenario_eq_valid_iff {value : Scenario} :
    scenario data = .valid value ↔ ∃ members, members? data = some members ∧
      required "id" text members = .valid value.id ∧
      required "name" text members = .valid value.name ∧
      required "url" text members = .valid value.url ∧
      withDefault "steps" [] (listOf step) members = .valid value.steps ∧
      withDefault "expectations" [] (listOf expectation) members = .valid value.expectations ∧
      withDefault "tags" [] tags members = .valid value.tags := by
  unfold scenario
  cases members? data with
  | none =>
    apply Iff.intro
    · intro h
      exact absurd h (Checked.fail_ne_valid _ _)
    · intro h
      obtain ⟨members, hmembers, -⟩ := h
      exact nomatch hmembers
  | some members =>
    simp only [Checked.seq_eq_valid_iff, Checked.map_eq_valid_iff]
    apply Iff.intro
    · intro h
      obtain ⟨_, tags, ⟨_, expectations, ⟨_, steps, ⟨_, url, ⟨_, name, ⟨id, hid, rfl⟩, hname, rfl⟩,
        hurl, rfl⟩, hsteps, rfl⟩, hexpectations, rfl⟩, htags, rfl⟩ := h
      exact ⟨members, rfl, hid, hname, hurl, hsteps, hexpectations, htags⟩
    · intro h
      obtain ⟨others, hothers, hid, hname, hurl, hsteps, hexpectations, htags⟩ := h
      obtain rfl : members = others := Option.some.inj hothers
      exact ⟨_, _, ⟨_, _, ⟨_, _, ⟨_, _, ⟨_, _, ⟨_, hid, rfl⟩, hname, rfl⟩, hurl, rfl⟩, hsteps, rfl⟩,
        hexpectations, rfl⟩, htags, rfl⟩

/-- The check of a scenario gives the scenario that an object stands for. -/
theorem scenario_gives : Gives scenario ScenarioOf := by
  intro data hdata value
  rw [scenario_eq_valid_iff]
  refine exists_congr fun members => ?_
  rw [members?_eq_some_iff hdata]
  refine and_congr_right fun hmembers => ?_
  subst hmembers
  simp only [required_eq_valid_iff text_gives hdata, listMember_eq_valid_iff step_gives hdata,
    listMember_eq_valid_iff expectation_gives hdata,
    withDefault_eq_valid_iff tags_gives tagsOf_absent_iff hdata]

/-- An object is accepted for a scenario exactly when it stands for one. -/
theorem isScenario_iff {data : Data} : IsScenario data ↔ ∃ scenario, ScenarioOf data scenario := by
  apply Iff.intro
  · intro h
    obtain ⟨members, rfl, htextual, hsteps, hexpectations, htags⟩ := h
    have hrequired : ∀ name ∈ ["id", "name", "url"], ∃ text,
        RequiredOf TextOf (Data.member? name members) text := by
      intro name hname
      obtain ⟨data, hdata, hkind⟩ := htextual name hname
      obtain ⟨text, htext⟩ := isTextual_iff.1 hkind
      exact ⟨text, data, hdata, htext⟩
    obtain ⟨id, hid⟩ := hrequired "id" (by simp)
    obtain ⟨name, hname⟩ := hrequired "name" (by simp)
    obtain ⟨url, hurl⟩ := hrequired "url" (by simp)
    obtain ⟨steps, hsteps⟩ := (optionallyListOf_iff fun _ => isStep_iff).1 hsteps
    obtain ⟨expectations, hexpectations⟩ :=
      (optionallyListOf_iff fun _ => isExpectation_iff).1 hexpectations
    obtain ⟨texts, htexts⟩ := (optionallyListOf_iff fun _ => isTextual_iff).1 htags
    exact ⟨⟨id, name, url, steps, expectations, tagSet texts⟩, members, rfl, hid, hname, hurl, hsteps,
      hexpectations, texts, htexts, rfl⟩
  · intro h
    obtain ⟨scenario, members, rfl, hid, hname, hurl, hsteps, hexpectations, texts, htexts, -⟩ := h
    have htextual {field : Option Data} {text : String} (h : RequiredOf TextOf field text) :
        ∃ data, field = some data ∧ IsTextual data := by
      obtain ⟨data, hdata, htext⟩ := h
      exact ⟨data, hdata, isTextual_iff.2 ⟨text, htext⟩⟩
    refine ⟨members, rfl, ?_, ?_, ?_, ?_⟩
    · simp only [List.forall_mem_cons, List.not_mem_nil]
      exact ⟨htextual hid, htextual hname, htextual hurl, by simp⟩
    · exact (optionallyListOf_iff fun _ => isStep_iff).2 ⟨_, hsteps⟩
    · exact (optionallyListOf_iff fun _ => isExpectation_iff).2 ⟨_, hexpectations⟩
    · exact (optionallyListOf_iff fun _ => isTextual_iff).2 ⟨_, htexts⟩

/-- The check of an object gives the scenarios of its list, under the name that is preferred. -/
theorem document_map_eq_valid_iff {scenarios : List Scenario} :
    document (.map members) = .valid scenarios ↔
      ∃ listed, firstMember? listNames members = some listed ∧
        listOf scenario listed = .valid scenarios := by
  unfold document listNames
  rw [firstMember?_pair]
  simp only [members?]
  cases hfirst : Data.member? "testScenarios" members with
  | some listed =>
    simp only [required, hfirst, Checked.within_eq_valid_iff, Option.some_or, Option.some.injEq,
      exists_eq_left']
  | none =>
    cases hsecond : Data.member? "test_scenarios" members with
    | some listed =>
      simp only [Checked.within_eq_valid_iff, Option.none_or, Option.some.injEq, exists_eq_left']
    | none =>
      have hfail := Checked.fail_ne_valid .required scenarios
      simp only [required, hfirst, Checked.within_eq_valid_iff, hfail, Option.none_or]
      simp

/-- The check of a document gives the scenarios that an object stands for. -/
theorem document_gives : Gives document DocumentOf := by
  intro data hdata scenarios
  cases hmembers : members? data with
  | none =>
    apply Iff.intro
    · intro h
      unfold document at h
      rw [hmembers] at h
      exact absurd h (Checked.fail_ne_valid _ _)
    · intro h
      obtain ⟨members, items, rfl, -⟩ := h
      exact nomatch hmembers
  | some members =>
    obtain rfl := (members?_eq_some_iff hdata).1 hmembers
    rw [document_map_eq_valid_iff]
    apply Iff.intro
    · intro h
      obtain ⟨listed, hlisted, hvalid⟩ := h
      have hjson : listed.IsJson := isJson_of_firstMember? hdata hlisted
      have hscenarios := (listOf_gives scenario_gives listed hjson scenarios).1 hvalid
      cases hscenarios with
      | given hitems => exact ⟨members, _, rfl, hlisted, hitems⟩
    · intro h
      obtain ⟨others, items, hothers, hitems, hscenarios⟩ := h
      obtain rfl : members = others := by simpa using hothers
      have hjson : (Data.list items).IsJson := isJson_of_firstMember? hdata hitems
      exact ⟨_, hitems, (listOf_gives scenario_gives _ hjson scenarios).2 (.given hscenarios)⟩

/-- An object is accepted for a document exactly when it stands for one. -/
theorem isDocument_iff {data : Data} : IsDocument data ↔ ∃ scenarios, DocumentOf data scenarios := by
  apply Iff.intro
  · intro h
    obtain ⟨members, items, rfl, hitems, haccepted⟩ := h
    obtain ⟨scenarios, hscenarios⟩ :=
      exists_forall₂_iff.2 fun item hitem => isScenario_iff.1 (haccepted item hitem)
    exact ⟨scenarios, members, items, rfl, hitems, hscenarios⟩
  · intro h
    obtain ⟨scenarios, members, items, rfl, hitems, hscenarios⟩ := h
    refine ⟨members, items, rfl, hitems, fun item hitem => isScenario_iff.2 ?_⟩
    exact exists_forall₂_iff.1 ⟨scenarios, hscenarios⟩ item hitem

/-- The scenarios of a decoded document are those that its check gives. -/
theorem ofDocument_eq_ok_iff {scenarios : List Scenario} :
    Scenario.ofDocument data = .ok scenarios ↔ document data = .valid scenarios := by
  unfold Scenario.ofDocument
  cases document data with
  | valid value => simp
  | invalid first more =>
    simp only [reduceCtorEq, iff_false]
    split <;> exact nofun

/-- Decoded JSON is read as a document exactly when it is one, and the scenarios that are read are
exactly those that it stands for. -/
theorem ofDocument_exact (data : Data) (hdata : data.IsJson) :
    ((∃ scenarios, Scenario.ofDocument data = .ok scenarios) ↔ IsDocument data) ∧
      ∀ scenarios, Scenario.ofDocument data = .ok scenarios ↔ DocumentOf data scenarios := by
  have hgives (scenarios : List Scenario) :
      Scenario.ofDocument data = .ok scenarios ↔ DocumentOf data scenarios := by
    rw [ofDocument_eq_ok_iff]
    exact document_gives data hdata scenarios
  refine ⟨?_, hgives⟩
  rw [isDocument_iff]
  simp only [hgives]

/-- A document with its list under the second name, and in it a scenario with a numeric id, a click
whose class is under its second name, and a delay that is given as text. -/
def guardedLogin : Data :=
  .map [(.text "test_scenarios", .list [.map [
    (.text "id", .int 7), (.text "name", .text "login"), (.text "url", .text "/"),
    (.text "steps", .list [
      .map [(.text "action", .text "click"), (.text "skip_if_has_class", .text "on")],
      .map [(.text "action", .text "type"), (.text "delay", .text "25"), (.text "value", .null)]]),
    (.text "tags", .list [.text "b", .text "a", .text "b"])]])]

/-- The scenario of the document with a guarded click. -/
def guardedLoginScenario : Scenario where
  id := "7"
  name := "login"
  url := "/"
  steps := [.click none (some "on"), .type none none (some (.floating (Number.Binary64.ofInt 25)))]
  expectations := []
  tags := ["a", "b"]

/-- The document with a guarded click is one, and it stands for its scenario. -/
theorem ofDocument_exact_guardedLogin :
    guardedLogin.IsJson ∧ IsDocument guardedLogin ∧
      DocumentOf guardedLogin [guardedLoginScenario] := by
  have hjson : guardedLogin.IsJson := by
    have hid : Number.isWritable 7 = true := by decide
    simp [guardedLogin, hid]
  have hread : Scenario.ofDocument guardedLogin = .ok [guardedLoginScenario] := by
    decide +kernel
  have hexact := ofDocument_exact guardedLogin hjson
  exact ⟨hjson, hexact.1.1 ⟨_, hread⟩, (hexact.2 _).1 hread⟩

end BrowserScenario.Schema
