import BrowserScenario.Proofs.Number.Decimal
import BrowserScenario.Proofs.Scenario.Record
import BrowserScenario.Proofs.Scenario.Stable
import BrowserScenario.Proofs.Schema.Place
import BrowserScenario.Run.Expectation

/-!
# Whole numbers from documents to the browser

A whole number is given in a document as a number or as its decimal, is held as a text, goes through
the replacement of placeholders, and is read back when the page is called. Main statement: a pause
and a number of elements arrive as they were given, whatever the variables are; only a pause below
zero is lengthened to none.
-/

namespace BrowserScenario

open BrowserScenario.Number BrowserScenario.Schema BrowserScenario.Template

/-- The whole number that a value is given for: the number, or its decimal as a text. -/
inductive Numeral : Data → Int → Prop
  | number (n : Int) : Numeral (.int n) n
  | decimal (n : Int) : Numeral (.text (Data.intText n)) n

/-- A list of a scenario has an item at a place, and no variables change it, neither there nor on
its own. -/
structure Scenario.Fixed {α : Type} (items : Scenario → List α)
    (resolve : Variables → α → Except String α) (scenario : Scenario) (place : Nat) (item : α) :
    Prop where
  found : (items scenario)[place]? = some item
  resolve_eq : ∀ values, resolve values item = .ok item
  kept : ∀ values resolved, scenario.resolve values = .ok resolved →
    (items resolved)[place]? = some item

/-- An item that is computed to itself stays at its place. -/
theorem getElem?_of_mapM {α ε : Type} {compute : α → Except ε α} {items results : List α}
    (h : items.mapM compute = .ok results) {place : Nat} {item : α}
    (hitem : items[place]? = some item) (hfixed : compute item = .ok item) :
    results[place]? = some item := by
  obtain ⟨result, hresult, hcomputed⟩ := exists_getElem?_of_forall₂ (forall₂_of_mapM h) hitem
  obtain rfl : item = result := Except.ok.inj (hfixed.symm.trans hcomputed)
  exact hresult

/-- A step that all variables resolve to itself is fixed where it stands. -/
theorem Scenario.fixed_step {scenario : Scenario} {place : Nat} {step : Step}
    (hfound : scenario.steps[place]? = some step)
    (hresolve : ∀ values, step.resolve values = .ok step) :
    scenario.Fixed Scenario.steps Step.resolve place step := by
  refine ⟨hfound, hresolve, fun values resolved h => ?_⟩
  rcases resolve_cases h with ⟨-, rfl⟩ | ⟨-, url, steps, expectations, -, hsteps, -, rfl⟩
  · exact hfound
  · exact getElem?_of_mapM hsteps hfound (hresolve values)

/-- An expectation that all variables resolve to itself is fixed where it stands. -/
theorem Scenario.fixed_expectation {scenario : Scenario} {place : Nat}
    {expectation : Expectation} (hfound : scenario.expectations[place]? = some expectation)
    (hresolve : ∀ values, expectation.resolve values = .ok expectation) :
    scenario.Fixed Scenario.expectations Expectation.resolve place expectation := by
  refine ⟨hfound, hresolve, fun values resolved h => ?_⟩
  rcases resolve_cases h with ⟨-, rfl⟩ | ⟨-, url, steps, expectations, -, -, hexpectations, rfl⟩
  · exact hfound
  · exact getElem?_of_mapM hexpectations hfound (hresolve values)

/-- The decimal of a whole number is plain. -/
theorem plain_intText (n : Int) : Plain (Data.intText n) := by
  have h := bare_append_of_noDollar (dollar_not_mem_intText n) (bare_nil [])
  rwa [List.append_nil] at h

/-- A whole number is held as its decimal. -/
theorem Numeral.optionalText {value : Data} {n : Int} (h : Numeral value n)
    (hlimit : (Nat.toDigits 10 n.natAbs).length ≤ digitLimit) :
    Schema.optionalText value = .valid (some (Data.intText n)) := by
  cases h with
  | number n =>
    have hwritten : text (.int n) = .valid (Data.intText n) := if_pos (decide_eq_true hlimit)
    change some <$> text (.int n) = _
    rw [hwritten]
    rfl
  | decimal n => rfl

/-- A whole number that is held as its decimal is read back. -/
theorem integerField_intText (default n : Int)
    (hlimit : (Nat.toDigits 10 n.natAbs).length ≤ digitLimit) :
    integerField default (some (Data.intText n)) = .ok n := by
  have hread := @leadingInteger_intText default n [] [] hlimit (by simp) (by simp)
  rw [List.nil_append, List.append_nil] at hread
  simp only [integerField, Option.getD_some, hread]
  rfl

/-- A member for a whole number is read as its decimal. -/
theorem textMember_numeral {record : Members} {name : String} {value : Data} {n : Int}
    (hvalue : Data.member? name record = some value) (hnumeral : Numeral value n)
    (hlimit : (Nat.toDigits 10 n.natAbs).length ≤ digitLimit) :
    textMember name record = .valid (some (Data.intText n)) := by
  simp only [textMember, withDefault, hvalue, hnumeral.optionalText hlimit]
  rfl

/-- A member that is read as a text is read as the one it stands for. -/
theorem eq_of_textMember {record : Members} {name s : String} {field : Data} {read : Option String}
    (hmember : Data.member? name record = some field) (hfield : TextOf field s)
    (h : textMember name record = .valid read) : read = some s := by
  simp only [textMember, withDefault, hmember, Checked.within_eq_valid_iff] at h
  cases hfield with
  | text s => exact (Checked.valid.inj h).symm
  | int n =>
    change some <$> text (.int n) = _ at h
    obtain ⟨t, ht, rfl⟩ := (Checked.map_eq_valid_iff _ _ _).1 h
    simp only [text] at ht
    split at ht
    · rw [← Checked.valid.inj ht]
    · exact absurd ht (Checked.fail_ne_valid _ _)
  | float x => exact (Checked.valid.inj h).symm

/-- A record of a pause is read as a step that waits. -/
theorem step_wait {record : Members} {value : Data} {n : Int}
    (haction : Data.member? "action" record = some (.text "wait"))
    (hvalue : Data.member? "value" record = some value) (hnumeral : Numeral value n)
    (hlimit : (Nat.toDigits 10 n.natAbs).length ≤ digitLimit) :
    Schema.step (.map record) = .valid (.wait (some (Data.intText n))) := by
  have hkind : ("wait", fun m => .wait <$> textMember "value" m) ∈ stepKinds := by
    simp [stepKinds]
  rw [Schema.step, tagged_eq_within (by decide) hkind haction]
  simp only [textMember_numeral hvalue hnumeral hlimit]
  rfl

/-- A record of a number of elements that is accepted is read as an expectation that counts. -/
theorem expectation_count {record : Members} {value field : Data} {n : Int} {selector : String}
    {expectation : Expectation}
    (hcount : Data.member? "type" record = some (.text "count"))
    (hselector : Data.member? "selector" record = some field) (hfield : TextOf field selector)
    (hvalue : Data.member? "value" record = some value) (hnumeral : Numeral value n)
    (hlimit : (Nat.toDigits 10 n.natAbs).length ≤ digitLimit)
    (h : Schema.expectation (.map record) = .valid expectation) :
    expectation = .count (some selector) (some (Data.intText n)) := by
  have hkind : ("count", fun m => .count <$> textMember "selector" m <*> textMember "value" m) ∈
      expectationKinds := by
    simp [expectationKinds]
  rw [Schema.expectation, tagged_eq_within (by decide) hkind hcount,
    Checked.within_eq_valid_iff] at h
  obtain ⟨_, number, hcounted, hnumber, rfl⟩ := (Checked.seq_eq_valid_iff _ _ _).1 h
  obtain ⟨read, hread, rfl⟩ := (Checked.map_eq_valid_iff _ _ _).1 hcounted
  obtain rfl := eq_of_textMember hselector hfield hread
  rw [textMember_numeral hvalue hnumeral hlimit] at hnumber
  rw [← Checked.valid.inj hnumber]

section Calls

variable {σ : Type} {n : Int}

/-- A pause that is held as the decimal of a number is made for this number of milliseconds. -/
theorem perform_wait (browser : Browser σ)
    (hlimit : (Nat.toDigits 10 n.natAbs).length ≤ digitLimit) :
    (Step.wait (some (Data.intText n))).perform browser =
      Run.interact browser (.wait (max 0 n)) := by
  simp only [Step.perform, integerField_intText defaultPause n hlimit, Run.ofExcept, pure_bind]

/-- A number of elements that is held as its decimal is awaited. -/
theorem perform_count (browser : Browser σ) {selector : String} (hselector : selector ≠ "")
    (hlimit : (Nat.toDigits 10 n.natAbs).length ≤ digitLimit) :
    (Expectation.count (some selector) (some (Data.intText n))).perform browser =
      Run.expect browser (.count selector n) := by
  simp only [Expectation.perform, filled?_some hselector, integerField_intText 0 n hlimit,
    Run.ofExcept, pure_bind]

end Calls

/-- A whole number in an accepted document arrives at the browser as it was given, as a number or as
its decimal, whether the record is run as it was read, as it is resolved on its own, or as it stands
in its scenario once this is resolved. A step that waits pauses for this number of milliseconds, or
not at all when it is below zero. An expectation that counts the elements of a selector that is not
empty and has no markers awaits this number of them. -/
theorem numeral_arrives {data : Data} {scenarios : List Scenario}
    (h : Scenario.ofDocument data = .ok scenarios) {position place : Nat} {record : Members}
    {value : Data} {n : Int} (hvalue : Data.member? "value" record = some value)
    (hnumeral : Numeral value n) (hlimit : (Nat.toDigits 10 n.natAbs).length ≤ digitLimit) :
    (RecordAt data "steps" position place record →
      Data.member? "action" record = some (.text "wait") →
      ∃ scenario step, scenarios[position]? = some scenario ∧
        scenario.Fixed Scenario.steps Step.resolve place step ∧
          ∀ {σ : Type} (browser : Browser σ),
            step.perform browser = Run.interact browser (.wait (max 0 n))) ∧
    ∀ field selector, RecordAt data "expectations" position place record →
      Data.member? "type" record = some (.text "count") →
      Data.member? "selector" record = some field → TextOf field selector → selector ≠ "" →
      Plain selector →
      ∃ scenario expectation, scenarios[position]? = some scenario ∧
        scenario.Fixed Scenario.expectations Expectation.resolve place expectation ∧
          ∀ {σ : Type} (browser : Browser σ),
            expectation.perform browser = Run.expect browser (.count selector n) := by
  refine ⟨fun hrecord haction => ?_,
    fun field selector hrecord hkind hfound hfield hne hplain => ?_⟩
  · obtain ⟨scenario, step, hscenario, hstep, hchecked⟩ := hrecord.exists_step h
    obtain rfl := Checked.valid.inj
      ((step_wait haction hvalue hnumeral hlimit).symm.trans hchecked)
    refine ⟨scenario, _, hscenario, Scenario.fixed_step hstep fun values => ?_, fun browser =>
      perform_wait browser hlimit⟩
    have htexts : ∀ text, some text ∈
        (Step.wait (some (Data.intText n))).record.templates → text = Data.intText n := by
      simp [StepRecord.templates, Step.record]
    exact Step.resolve_of_plain fun text htext => htexts text htext ▸ plain_intText n
  · obtain ⟨scenario, expectation, hscenario, hexpectation, hchecked⟩ :=
      hrecord.exists_expectation h
    obtain rfl := expectation_count hkind hfound hfield hvalue hnumeral hlimit hchecked
    refine ⟨scenario, _, hscenario, Scenario.fixed_expectation hexpectation fun values => ?_,
      fun browser => perform_count browser hne hlimit⟩
    have htexts : ∀ text, some text ∈
        (Expectation.count (some selector) (some (Data.intText n))).record.templates →
          text = selector ∨ text = Data.intText n := by
      simp [ExpectationRecord.templates, Expectation.record]
    refine Expectation.resolve_of_plain fun text htext => ?_
    rcases htexts text htext with rfl | rfl
    · exact hplain
    · exact plain_intText n

/-- A step that waits for a number of milliseconds below zero. -/
def negativePause : Members :=
  [(.text "action", .text "wait"), (.text "value", .int (-250))]

/-- An expectation of twelve elements, with the number as its decimal. -/
def twelveItems : Members :=
  [(.text "type", .text "count"), (.text "selector", .text "li"), (.text "value", .text "12")]

/-- A document with a pause and a number of elements. -/
def pausedList : Data :=
  .map [(.text "testScenarios", .list [.map [
    (.text "id", .text "1"), (.text "name", .text "list"), (.text "url", .text "/"),
    (.text "steps", .list [.map negativePause]),
    (.text "expectations", .list [.map twelveItems])]])]

/-- The scenario of the document with a pause and a number of elements. -/
def pausedListScenario : Scenario where
  id := "1"
  name := "list"
  url := "/"
  steps := [.wait (some "-250")]
  expectations := [.count (some "li") (some "12")]
  tags := []

/-- A pause below zero is not made, and the twelve elements are awaited. -/
theorem numeral_arrives_pausedList :
    (Scenario.ofDocument pausedList = .ok [pausedListScenario] ∧
      RecordAt pausedList "steps" 0 0 negativePause ∧
        RecordAt pausedList "expectations" 0 0 twelveItems) ∧
      (∃ scenario step, [pausedListScenario][0]? = some scenario ∧
        scenario.Fixed Scenario.steps Step.resolve 0 step ∧
          ∀ {σ : Type} (browser : Browser σ),
            step.perform browser = Run.interact browser (.wait (max 0 (-250)))) ∧
        ∃ scenario expectation, [pausedListScenario][0]? = some scenario ∧
          scenario.Fixed Scenario.expectations Expectation.resolve 0 expectation ∧
            ∀ {σ : Type} (browser : Browser σ),
              expectation.perform browser = Run.expect browser (.count "li" 12) := by
  have hread : Scenario.ofDocument pausedList = .ok [pausedListScenario] := by decide +kernel
  have hpause : RecordAt pausedList "steps" 0 0 negativePause :=
    ⟨_, _, _, _, rfl, rfl, rfl, rfl, rfl⟩
  have hitems : RecordAt pausedList "expectations" 0 0 twelveItems :=
    ⟨_, _, _, _, rfl, rfl, rfl, rfl, rfl⟩
  have hplain : Plain "li" := bare_of_noBrace (by decide)
  exact ⟨⟨hread, hpause, hitems⟩,
    (numeral_arrives hread rfl (.number (-250)) (by decide)).1 hpause rfl,
    (numeral_arrives hread rfl (.decimal 12) (by decide)).2 _ "li" hitems rfl rfl (.text "li")
      (by decide) hplain⟩

end BrowserScenario
