import BrowserScenario.Proofs.Run.WellFormed
import BrowserScenario.Proofs.Scenario.Fieldwise
import BrowserScenario.Proofs.Schema.Document

/-!
# What accepted documents are free of

Properties that every value has which a check of the schema gives, whatever data it is given: of
JSON or of YAML, with or without members that the schema does not name. What the checks of the
parts ensure, the check of the whole ensures of the parts. Main statement: the scenarios of an
accepted document have no delay below zero.
-/

namespace BrowserScenario.Schema

open BrowserScenario.Time

variable {α β : Type}

/-- Every value that a check gives has a property. -/
def Ensures (check : β → Checked α) (property : α → Prop) : Prop :=
  ∀ input value, check input = .valid value → property value

/-- A member that may be absent has what its check ensures and what its default has. -/
theorem Ensures.withDefault {check : Data → Checked α} {property : α → Prop}
    (hcheck : Ensures check property) (name : String) {default : α} (hdefault : property default) :
    Ensures (withDefault name default check) property := by
  intro members value h
  unfold Schema.withDefault at h
  split at h
  · rename_i data hdata
    exact hcheck data value ((Checked.within_eq_valid_iff _ _ _).1 h)
  · obtain rfl : default = value := Checked.valid.inj h
    exact hdefault

/-- A member that has to be there has what its check ensures. -/
theorem Ensures.required {check : Data → Checked α} {property : α → Prop}
    (hcheck : Ensures check property) (name : String) : Ensures (required name check) property := by
  intro members value h
  have hvalue := (Checked.within_eq_valid_iff _ _ _).1 h
  split at hvalue
  · rename_i data hdata
    exact hcheck data value hvalue
  · exact absurd hvalue (Checked.fail_ne_valid _ _)

/-- The items of a list have what the check of an item ensures. -/
theorem Ensures.listOf {check : Data → Checked α} {property : α → Prop}
    (hcheck : Ensures check property) :
    Ensures (listOf check) fun values => ∀ value ∈ values, property value := by
  intro data values h
  unfold Schema.listOf at h
  split at h
  · rename_i items hitems
    have hvalues := (Checked.each_eq_valid_iff check items values).1 h
    exact forall_mem_of_forall₂ hvalues fun item hitem value => hcheck item value
  · exact absurd h (Checked.fail_ne_valid _ _)

/-- A kind that a tag names is among the kinds. -/
theorem mem_of_kindOf? {kinds : List (String × (Members → Checked α))} {tag : Data}
    {kind : String × (Members → Checked α)} (h : kindOf? kinds tag = some kind) : kind ∈ kinds := by
  cases tag with
  | text name => exact List.mem_of_find?_eq_some h
  | _ => exact nomatch h

/-- A record of one of several kinds has what the check of each kind ensures. -/
theorem Ensures.tagged {kinds : List (String × (Members → Checked α))} {property : α → Prop}
    (hkinds : ∀ kind ∈ kinds, Ensures kind.2 property) (discriminator : String) :
    Ensures (tagged discriminator kinds) property := by
  intro data value h
  unfold Schema.tagged at h
  split at h
  · exact absurd h (Checked.fail_ne_valid _ _)
  · rename_i members hmembers
    split at h
    · exact absurd h (Checked.fail_ne_valid _ _)
    · split at h
      · exact absurd h (Checked.fail_ne_valid _ _)
      · rename_i name check hkind
        have hvalue := (Checked.within_eq_valid_iff _ _ _).1 h
        exact hkinds (name, check) (mem_of_kindOf? hkind) members value hvalue

/-- A delay that is accepted is not below zero. -/
theorem optionalDelay_ensures :
    Ensures optionalDelay fun field => ∀ delay, field = some delay → delay.IsNonnegative := by
  intro data field h
  unfold optionalDelay at h
  split at h
  · obtain rfl : none = field := Checked.valid.inj h
    exact fun delay hdelay => nomatch hdelay
  · obtain ⟨number, hnumber, rfl⟩ := (Checked.map_eq_valid_iff _ _ _).1 h
    intro delay hdelay
    obtain rfl := Option.some.inj hdelay
    exact (nonnegative_eq_valid_iff.1 hnumber).2

/-- The delay of a step that is accepted has what the check of a delay ensures. -/
theorem Ensures.step {property : Duration → Prop}
    (hdelay : Ensures optionalDelay fun field => ∀ delay, field = some delay → property delay) :
    Ensures Schema.step fun step => ∀ delay, step.record.delay = some delay → property delay := by
  refine .tagged (fun kind hkind members step h => ?_) "action"
  cases step with
  | type selector text field =>
    simp only [stepKinds, List.mem_cons, List.not_mem_nil, or_false] at hkind
    -- Only the kind of steps that type gives such a step.
    rcases hkind with rfl | rfl | rfl | rfl | rfl | rfl | rfl | rfl <;>
      simp [Checked.seq_eq_valid_iff, Checked.map_eq_valid_iff] at h
    have hmember : Ensures (Schema.withDefault "delay" none optionalDelay) _ :=
      hdelay.withDefault "delay" (by simp)
    exact hmember members field h.2
  | _ => simp [Step.record]

/-- The steps of a scenario that is accepted have what the check of a step ensures. -/
theorem Ensures.scenario_steps {property : Step → Prop} (hstep : Ensures Schema.step property) :
    Ensures scenario fun scenario => ∀ step ∈ scenario.steps, property step := by
  intro data value h
  obtain ⟨members, -, -, -, -, hsteps, -, -⟩ := scenario_eq_valid_iff.1 h
  exact hstep.listOf.withDefault "steps" (by simp) members value.steps hsteps

/-- The scenarios of a document that is accepted have what the check of a scenario ensures. -/
theorem Ensures.document {property : Scenario → Prop} (hscenario : Ensures scenario property) :
    Ensures document fun scenarios => ∀ scenario ∈ scenarios, property scenario := by
  intro data scenarios h
  unfold Schema.document at h
  split at h
  · exact absurd h (Checked.fail_ne_valid _ _)
  · rename_i members hmembers
    split at h
    · rename_i listed _ _
      exact hscenario.listOf listed scenarios ((Checked.within_eq_valid_iff _ _ _).1 h)
    · exact hscenario.listOf.required "testScenarios" members scenarios h

/-- The scenarios of an accepted document have no delay below zero. -/
theorem document_ensures :
    Ensures document fun scenarios => ∀ scenario ∈ scenarios, scenario.DelaysNonnegative :=
  optionalDelay_ensures.step.scenario_steps.document

end BrowserScenario.Schema
