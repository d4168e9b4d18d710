import BrowserScenario.Scenario.Resolve

/-!
# Parts of resolved scenarios

A scenario that can be resolved has resolved parts: without variables it stays as it is, and
otherwise its address, its steps and its expectations are those that their own resolution gives,
and all else is kept.
-/

namespace BrowserScenario

/-- A sequence that gives a value has given one in its first part. -/
theorem exists_of_bind_eq_ok {ε α β : Type} {first : Except ε α} {next : α → Except ε β}
    {result : β} (h : (first >>= next) = .ok result) :
    ∃ value, first = .ok value ∧ next value = .ok result := by
  cases first with
  | error problem => exact nomatch h
  | ok value => exact ⟨value, rfl, h⟩

/-- A resolved scenario is the scenario itself, or the scenario with its parts resolved. -/
theorem resolve_cases {values : Variables} {scenario resolved : Scenario}
    (h : scenario.resolve values = .ok resolved) :
    (values.isEmpty = true ∧ resolved = scenario) ∨
      (values.isEmpty = false ∧ ∃ url steps expectations,
        Template.fill values scenario.url = .ok url ∧
          scenario.steps.mapM (Step.resolve values) = .ok steps ∧
          scenario.expectations.mapM (Expectation.resolve values) = .ok expectations ∧
          resolved = { scenario with url, steps, expectations }) := by
  unfold Scenario.resolve at h
  by_cases hempty : values.isEmpty = true
  · rw [if_pos hempty] at h
    exact Or.inl ⟨hempty, (Except.ok.inj h).symm⟩
  · rw [if_neg hempty] at h
    obtain ⟨url, hurl, h⟩ := exists_of_bind_eq_ok h
    obtain ⟨steps, hsteps, h⟩ := exists_of_bind_eq_ok h
    obtain ⟨expectations, hexpectations, h⟩ := exists_of_bind_eq_ok h
    exact Or.inr ⟨Bool.eq_false_iff.mpr hempty, url, steps, expectations, hurl, hsteps,
      hexpectations, (Except.ok.inj h).symm⟩

/-- Resolving a scenario keeps its identity. -/
theorem id_resolve {values : Variables} {scenario resolved : Scenario}
    (h : scenario.resolve values = .ok resolved) : resolved.id = scenario.id := by
  rcases resolve_cases h with ⟨-, rfl⟩ | ⟨-, url, steps, expectations, -, -, -, rfl⟩
  · rfl
  · rfl

end BrowserScenario
