import BrowserScenario.Proofs.Schema.Document

/-!
# Records at their places

A record of a document stands at a place of a list of a scenario, which stands at a position of the
list of scenarios. Main statement: in an accepted document, what a record is read as stands at the
same place of the scenario at the same position.
-/

namespace BrowserScenario.Schema

variable {α : Type} {data : Data} {record : Members} {position place : Nat}

/-- Some list of the scenario at a position of a document has a record at a place. -/
def RecordAt (data : Data) (list : String) (position place : Nat) (record : Members) : Prop :=
  ∃ members records scenario items, data = .map members ∧
    firstMember? listNames members = some (.list records) ∧
    records[position]? = some (.map scenario) ∧
    Data.member? list scenario = some (.list items) ∧ items[place]? = some (.map record)

/-- Of two lists that are related item by item, the second has an item where the first has one. -/
theorem exists_getElem?_of_forall₂ {β γ : Type} {holds : β → γ → Prop} {items : List β}
    {values : List γ} (h : List.Forall₂ holds items values) {item : β}
    (hitem : items[position]? = some item) :
    ∃ value, values[position]? = some value ∧ holds item value := by
  obtain ⟨hlt, rfl⟩ := List.getElem?_eq_some_iff.1 hitem
  have hlt' : position < values.length := h.length_eq ▸ hlt
  exact ⟨values[position], List.getElem?_eq_getElem hlt', h.get hlt hlt'⟩

/-- What an item of a list is read as stands at the position of the item. -/
theorem exists_of_listOf {check : Data → Checked α} {items : List Data} {values : List α}
    (h : listOf check (.list items) = .valid values) {item : Data}
    (hitem : items[position]? = some item) :
    ∃ value, values[position]? = some value ∧ check item = .valid value :=
  exists_getElem?_of_forall₂ ((Checked.each_eq_valid_iff check items values).1 h) hitem

/-- What an item of a list member is read as stands at the position of the item. -/
theorem exists_of_listMember {check : Data → Checked α} {name : String} {members : Members}
    {items : List Data} {values : List α}
    (h : withDefault name [] (listOf check) members = .valid values)
    (hmember : Data.member? name members = some (.list items)) {item : Data}
    (hitem : items[place]? = some item) :
    ∃ value, values[place]? = some value ∧ check item = .valid value := by
  simp only [withDefault, hmember] at h
  exact exists_of_listOf ((Checked.within_eq_valid_iff _ _ _).1 h) hitem

/-- A record of a list of an accepted document is read as what stands at its place. -/
theorem RecordAt.exists_value {list : String} {check : Data → Checked α}
    {values : Scenario → List α}
    (hlist : ∀ members scenario, Schema.scenario (.map members) = .valid scenario →
      withDefault list [] (listOf check) members = .valid (values scenario))
    {scenarios : List Scenario} (h : Scenario.ofDocument data = .ok scenarios)
    (hrecord : RecordAt data list position place record) :
    ∃ scenario value, scenarios[position]? = some scenario ∧
      (values scenario)[place]? = some value ∧ check (.map record) = .valid value := by
  obtain ⟨members, records, object, items, rfl, hrecords, hobject, hitems, hitem⟩ := hrecord
  obtain ⟨listed, hlisted, hscenarios⟩ :=
    document_map_eq_valid_iff.1 (ofDocument_eq_ok_iff.1 h)
  obtain rfl : .list records = listed := Option.some.inj (hrecords.symm.trans hlisted)
  obtain ⟨scenario, hscenario, hvalid⟩ := exists_of_listOf hscenarios hobject
  obtain ⟨value, hvalue, hchecked⟩ := exists_of_listMember (hlist _ _ hvalid) hitems hitem
  exact ⟨scenario, value, hscenario, hvalue, hchecked⟩

/-- A step of an accepted document is read as the step at its place. -/
theorem RecordAt.exists_step {scenarios : List Scenario}
    (h : Scenario.ofDocument data = .ok scenarios)
    (hrecord : RecordAt data "steps" position place record) :
    ∃ scenario value, scenarios[position]? = some scenario ∧
      scenario.steps[place]? = some value ∧ step (.map record) = .valid value := by
  refine hrecord.exists_value (fun members scenario hscenario => ?_) h
  obtain ⟨others, hothers, -, -, -, hsteps, -⟩ := scenario_eq_valid_iff.1 hscenario
  obtain rfl : members = others := Option.some.inj hothers
  exact hsteps

/-- An expectation of an accepted document is read as the expectation at its place. -/
theorem RecordAt.exists_expectation {scenarios : List Scenario}
    (h : Scenario.ofDocument data = .ok scenarios)
    (hrecord : RecordAt data "expectations" position place record) :
    ∃ scenario value, scenarios[position]? = some scenario ∧
      scenario.expectations[place]? = some value ∧ expectation (.map record) = .valid value := by
  refine hrecord.exists_value (fun members scenario hscenario => ?_) h
  obtain ⟨others, hothers, -, -, -, -, hexpectations, -⟩ := scenario_eq_valid_iff.1 hscenario
  obtain rfl : members = others := Option.some.inj hothers
  exact hexpectations

end BrowserScenario.Schema
