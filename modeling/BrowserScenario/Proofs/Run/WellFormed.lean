import BrowserScenario.Proofs.Run.Plan
import BrowserScenario.Proofs.Scenario.Record

/-!
# Well-formed calls

A call is well formed when the selector it takes is not empty, when the text that is looked for
and the name of an attribute are not empty, when a pause is not below zero, and when a delay is
neither below zero nor the zero with a minus sign. Main statement: the plan of a scenario whose
delays are not below zero asks for well-formed calls only, and it does not end at a record of an
unknown kind.
-/

namespace BrowserScenario

open BrowserScenario.Number BrowserScenario.Time

/-- A number with a minus sign, which a zero may have too. -/
def Number.Binary64.HasMinus : Binary64 → Prop
  | .nan => False
  | .infinite negative => negative = true
  | .finite negative _ _ => negative = true

/-- A duration below zero, or the zero with a minus sign. -/
def Time.Duration.IsNegative : Duration → Prop
  | .whole count => count < 0
  | .floating count => count.HasMinus

/-- A duration that is zero or above; the zero with a minus sign counts as zero. -/
def Time.Duration.IsNonnegative : Duration → Prop
  | .whole count => 0 ≤ count
  | .floating count => count.isNonnegative = true

/-- An interaction with a selector that is not empty, where it takes one, and with a pause or a
delay that is not negative. -/
def Interaction.WellFormed : Interaction → Prop
  | .navigate _ => True
  | .fill selector _ => selector ≠ ""
  | .click selector => selector ≠ ""
  | .typeText selector _ delay => selector ≠ "" ∧ ¬ delay.IsNegative
  | .selectOption selector _ => selector ≠ ""
  | .check selector => selector ≠ ""
  | .uncheck selector => selector ≠ ""
  | .hover selector => selector ≠ ""
  | .wait milliseconds => 0 ≤ milliseconds

/-- A check with a selector that is not empty, where it takes one, and with the text or the name
of the attribute that it looks for. -/
def Check.WellFormed : Check → Prop
  | .url _ => True
  | .text selector part => selector ≠ "" ∧ part ≠ ""
  | .notText selector part => selector ≠ "" ∧ part ≠ ""
  | .visible selector => selector ≠ ""
  | .hidden selector => selector ≠ ""
  | .hasAttribute selector name _ => selector ≠ "" ∧ name ≠ ""
  | .count selector _ => selector ≠ ""

/-- A call that is well formed; a picture may be asked for at any path. -/
def Call.WellFormed : Call → Prop
  | .interact interaction => interaction.WellFormed
  | .expect check => check.WellFormed
  | .classList selector => selector ≠ ""
  | .screenshot _ _ => True

/-- The kinds of failures at records whose action or type is not known. -/
def unknownKinds : List String := ["UnknownAction", "UnknownExpectation"]

/-- A plan that asks for well-formed calls only and does not end at a record of an unknown kind. -/
structure Plan.Executable (plan : Plan) : Prop where
  calls : ∀ primitive ∈ plan.calls, primitive.call.WellFormed
  known : ∀ rejection, plan.rejection = some rejection → rejection.kind ∉ unknownKinds

/-- A scenario without a delay below zero. -/
def Scenario.DelaysNonnegative (scenario : Scenario) : Prop :=
  ∀ step ∈ scenario.steps, ∀ delay, step.record.delay = some delay → delay.IsNonnegative

/-- A delay that is not below zero is not negative once all zeros are in one spelling. -/
theorem Time.Duration.not_isNegative_orZero {field : Option Duration}
    (h : ∀ delay, field = some delay → delay.IsNonnegative) :
    ¬ (Duration.orZero field).IsNegative := by
  cases field with
  | none => exact Int.lt_irrefl 0
  | some delay =>
    have hdelay := h delay rfl
    by_cases hzero : delay.isZero = true
    · simp only [orZero, if_pos hzero]
      exact Int.lt_irrefl 0
    · simp only [orZero, if_neg hzero]
      cases delay with
      | whole count => exact Int.not_lt.2 hdelay
      | floating count =>
        cases count with
        | nan => exact not_false
        | infinite negative =>
          simpa [IsNonnegative, IsNegative, Binary64.isNonnegative, Binary64.HasMinus] using hdelay
        | finite negative mantissa exponent =>
          have hmantissa : mantissa ≠ 0 := by
            rintro rfl
            exact hzero rfl
          simpa [IsNonnegative, IsNegative, Binary64.isNonnegative, Binary64.HasMinus,
            hmantissa] using hdelay

namespace Plan.Executable

variable {first second : Plan} {field : Option String}

/-- The plan without calls. -/
theorem nothing : Plan.nothing.Executable :=
  ⟨by simp [Plan.nothing], by simp [Plan.nothing]⟩

/-- The plan of one well-formed call. -/
theorem make {primitive : Primitive} (h : primitive.call.WellFormed) :
    (Plan.make primitive).Executable :=
  ⟨by simpa [Plan.make] using h, by simp [Plan.make]⟩

/-- The plan of a record whose kind is known. -/
theorem reject {rejection : Rejection} (h : rejection.kind ∉ unknownKinds) :
    (Plan.reject rejection).Executable :=
  ⟨by simp [Plan.reject], by simpa [Plan.reject] using h⟩

/-- A plan that needs a field goes on with a text that is not empty. -/
theorem needing {rejection : Rejection} {next : String → Plan}
    (hrejection : rejection.kind ∉ unknownKinds)
    (h : ∀ text, text ≠ "" → (next text).Executable) :
    (Plan.needing field rejection next).Executable := by
  unfold Plan.needing
  split
  · rename_i text hfield
    exact h text (ne_empty_of_filled? hfield)
  · exact reject hrejection

/-- A plan that passes over an empty field goes on with a text that is not empty. -/
theorem passingOver {next : String → Plan} (h : ∀ text, text ≠ "" → (next text).Executable) :
    (Plan.passingOver field next).Executable := by
  unfold Plan.passingOver
  split
  · rename_i text hfield
    exact h text (ne_empty_of_filled? hfield)
  · exact nothing

/-- A plan that counts by a field is rejected, if at all, for a number with too many digits. -/
theorem counting {default : Int} {next : Int → Plan} (h : ∀ number, (next number).Executable) :
    (Plan.counting default field next).Executable := by
  unfold Plan.counting integerField
  cases leadingInteger default (field.getD "").toList with
  | ok number => exact h number
  | error refusal => exact reject (by simp [Rejection.kind, unknownKinds])

/-- The plan of a click on a selector that is not empty. -/
theorem click (classes : ClassLists) {selector : String} (skipClass : Option String)
    (h : selector ≠ "") : (Plan.click classes selector skipClass).Executable := by
  unfold Plan.click
  split
  · exact make h
  · refine ⟨fun primitive hprimitive => ?_, by simp⟩
    rcases List.mem_cons.1 hprimitive with rfl | hrest
    · exact h
    · split at hrest
      · exact absurd hrest List.not_mem_nil
      · obtain rfl := List.mem_singleton.1 hrest
        exact h

/-- Plans one after the other. -/
theorem followedBy (hfirst : first.Executable) (hsecond : second.Executable) :
    (first.followedBy second).Executable := by
  cases hend : first.rejection with
  | some rejection =>
    rw [followedBy_of_rejected hend]
    exact hfirst
  | none =>
    rw [followedBy_of_complete hend]
    refine ⟨fun primitive hprimitive => ?_, hsecond.known⟩
    rcases List.mem_append.1 hprimitive with hmem | hmem
    · exact hfirst.calls primitive hmem
    · exact hsecond.calls primitive hmem

/-- Plans in turn. -/
theorem inTurn {plans : List (ClassLists → Plan)}
    (h : ∀ plan ∈ plans, ∀ classes, (plan classes).Executable) (classes : ClassLists) :
    (Plan.inTurn classes plans).Executable := by
  induction plans generalizing classes with
  | nil => exact nothing
  | cons plan rest ih =>
    have hrest := ih fun other hother => h other (List.mem_cons_of_mem _ hother)
    exact (h plan List.mem_cons_self classes).followedBy (hrest _)

end Plan.Executable

/-- What is carried out of a plan is part of the plan. -/
theorem Plan.Carried.mem_calls {incidents : Incidents} {plan : Plan} {made : List Primitive}
    {failure : Option Failure} (h : plan.Carried incidents made failure) :
    ∀ primitive ∈ made, primitive ∈ plan.calls := by
  cases h with
  | whole => exact fun primitive hmade => hmade
  | rejected => exact fun primitive hmade => hmade
  | @cut before rest call incident hplan =>
    intro primitive hmade
    rw [hplan, List.append_cons]
    exact List.mem_append_left rest hmade

/-- A plan whose records are of known kinds fails with no other kind than the browser reports. -/
theorem Plan.Carried.raised_of_unknown {incidents : Incidents} {plan : Plan}
    {made : List Primitive} {failure : Failure} (h : plan.Carried incidents made (some failure))
    (hplan : plan.Executable) (hkind : failure.kind ∈ unknownKinds) :
    ∃ incident, failure = .raised incident := by
  cases h with
  | rejected hcalls hend => exact absurd hkind (hplan.known _ hend)
  | cut => exact ⟨_, rfl⟩

/-- The plan of a step whose delay is not below zero. -/
theorem Step.plan_executable (step : Step)
    (hdelay : ∀ delay, step.record.delay = some delay → delay.IsNonnegative)
    (classes : ClassLists) : (step.plan classes).Executable := by
  have hmissing : (Rejection.missingSelector step.action).kind ∉ unknownKinds := by
    simp [Rejection.kind, unknownKinds]
  cases step with
  | fill selector value => exact .needing hmissing fun selector hselector => .make hselector
  | click selector skipClass =>
    exact .needing hmissing fun selector hselector => .click classes skipClass hselector
  | type selector value delay =>
    exact .needing hmissing fun selector hselector =>
      .make ⟨hselector, Duration.not_isNegative_orZero hdelay⟩
  | select selector value => exact .needing hmissing fun selector hselector => .make hselector
  | check selector => exact .needing hmissing fun selector hselector => .make hselector
  | uncheck selector => exact .needing hmissing fun selector hselector => .make hselector
  | hover selector => exact .needing hmissing fun selector hselector => .make hselector
  | wait value => exact .counting fun pause => .make (Int.le_max_left 0 pause)

/-- The plan of an expectation. -/
theorem Expectation.plan_executable (expectation : Expectation) : expectation.plan.Executable := by
  have hincomplete (part : NeededPart) :
      (Rejection.incomplete part expectation.kind).kind ∉ unknownKinds := by
    simp [Rejection.kind, unknownKinds]
  cases expectation with
  | url value => exact .make trivial
  | text selector value =>
    exact .needing (hincomplete .selector) fun selector hselector =>
      .needing (hincomplete .value) fun value hvalue => .make ⟨hselector, hvalue⟩
  | notText selector value =>
    exact .needing (hincomplete .selector) fun selector hselector =>
      .needing (hincomplete .value) fun value hvalue => .make ⟨hselector, hvalue⟩
  | visible selector => exact .passingOver fun selector hselector => .make hselector
  | hidden selector => exact .passingOver fun selector hselector => .make hselector
  | hasAttribute selector name value =>
    exact .passingOver fun selector hselector =>
      .passingOver fun name hname => .make ⟨hselector, hname⟩
  | count selector value =>
    exact .passingOver fun selector hselector => .counting fun number => .make hselector

/-- The plan of a scenario without a delay below zero. -/
theorem Scenario.plan_executable {scenario : Scenario} (h : scenario.DelaysNonnegative)
    (classes : ClassLists) : (scenario.plan classes).Executable := by
  refine .inTurn (fun plan hplan classes => ?_) classes
  rcases List.mem_cons.1 hplan with rfl | hplan
  · exact .make trivial
  · rcases List.mem_append.1 hplan with hstep | hexpectation
    · obtain ⟨step, hmem, rfl⟩ := List.mem_map.1 hstep
      exact step.plan_executable (h step hmem) classes
    · obtain ⟨expectation, -, rfl⟩ := List.mem_map.1 hexpectation
      exact expectation.plan_executable

end BrowserScenario
