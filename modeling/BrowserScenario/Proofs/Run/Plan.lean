import BrowserScenario.Run.Scenario

/-!
# Plans of scenarios

The calls that a resolved scenario is meant to make, told from its data and from the classes of
elements alone: its address is visited, then every step and every expectation has its calls, in
order. A record that cannot be carried out ends the plan. What is carried out of a plan depends on
the calls that meet an incident: it is the whole plan if none does, and otherwise the plan up to
and with the first such call.

Class lists and incidents may depend on the calls that were made before. Main statement: of every
plan exactly one list of calls is carried out, with one outcome.
-/

namespace BrowserScenario

/-- A call that a step or an expectation may make. -/
inductive Primitive
  | interact (interaction : Interaction)
  | expect (check : Check)
  | classList (selector : String)
deriving DecidableEq, Repr

/-- A primitive as a call to a browser. -/
def Primitive.call : Primitive → Call
  | .interact interaction => .interact interaction
  | .expect check => .expect check
  | .classList selector => .classList selector

/-- The classes of elements, by the calls that were made before they are asked for. -/
abbrev ClassLists := List Primitive → String → List String

/-- The classes of elements once some calls were made. -/
def ClassLists.after (classes : ClassLists) (made : List Primitive) : ClassLists :=
  fun later => classes (made ++ later)

/-- The incident that a call meets, if any, by the calls that were made before it. -/
abbrev Incidents := List Primitive → Primitive → Option Incident

/-- The incidents once some calls were made. -/
def Incidents.after (incidents : Incidents) (made : List Primitive) : Incidents :=
  fun later => incidents (made ++ later)

/-- Calls to be made in order, and the record that then cannot be carried out, if there is one. -/
structure Plan where
  calls : List Primitive
  rejection : Option Rejection
deriving DecidableEq, Repr

/-- Classes after two lists of calls are those after both lists together. -/
theorem ClassLists.after_after (classes : ClassLists) (first second : List Primitive) :
    (classes.after first).after second = classes.after (first ++ second) := by
  funext later
  simp only [ClassLists.after, List.append_assoc]

namespace Plan

/-- The plan without calls. -/
def nothing : Plan := ⟨[], none⟩

/-- The plan of one call. -/
def make (primitive : Primitive) : Plan := ⟨[primitive], none⟩

/-- The plan of a record that cannot be carried out. -/
def reject (rejection : Rejection) : Plan := ⟨[], some rejection⟩

/-- One plan after another, which is given up if the first ends in a rejection. -/
def followedBy (first second : Plan) : Plan :=
  match first.rejection with
  | some _ => first
  | none => ⟨first.calls ++ second.calls, second.rejection⟩

/-- A plan made from a field that must be there and not be empty. -/
def needing (field : Option String) (rejection : Rejection) (next : String → Plan) : Plan :=
  match filled? field with
  | some text => next text
  | none => reject rejection

/-- A plan made from a field, which is passed over if it is absent or empty. -/
def passingOver (field : Option String) (next : String → Plan) : Plan :=
  match filled? field with
  | some text => next text
  | none => nothing

/-- A plan made from the integer of a field. -/
def counting (default : Int) (field : Option String) (next : Int → Plan) : Plan :=
  match integerField default field with
  | .ok number => next number
  | .error rejection => reject rejection

/-- The plan of a click: with a suppressing class, the classes of the element are asked for, and
the click is planned only if the class is not among them. -/
def click (classes : ClassLists) (selector : String) (skipClass : Option String) : Plan :=
  match filled? skipClass with
  | none => make (.interact (.click selector))
  | some skipClass =>
    ⟨.classList selector ::
      (if skipClass ∈ classes [] selector then [] else [.interact (.click selector)]), none⟩

/-- Plans one after another, each with the classes as they are told at its place. -/
def inTurn (classes : ClassLists) : List (ClassLists → Plan) → Plan
  | [] => nothing
  | plan :: rest =>
    (plan classes).followedBy (inTurn (classes.after (plan classes).calls) rest)

/-- A plan that ends in a rejection is not gone on with. -/
theorem followedBy_of_rejected {first : Plan} {rejection : Rejection}
    (h : first.rejection = some rejection) (second : Plan) : first.followedBy second = first := by
  simp only [followedBy, h]

/-- A plan without a rejection is gone on with. -/
theorem followedBy_of_complete {first : Plan} (h : first.rejection = none) (second : Plan) :
    first.followedBy second = ⟨first.calls ++ second.calls, second.rejection⟩ := by
  simp only [followedBy, h]

/-- Plans may be put together in any grouping. -/
theorem followedBy_assoc (first second third : Plan) :
    (first.followedBy second).followedBy third = first.followedBy (second.followedBy third) := by
  cases hfirst : first.rejection with
  | some rejection =>
    rw [followedBy_of_rejected hfirst second, followedBy_of_rejected hfirst,
      followedBy_of_rejected hfirst]
  | none =>
    rw [followedBy_of_complete hfirst, followedBy_of_complete hfirst]
    cases hsecond : second.rejection with
    | some rejection =>
      rw [followedBy_of_rejected hsecond third, hsecond]
      exact followedBy_of_rejected rfl third
    | none =>
      rw [followedBy_of_complete hsecond third]
      exact (followedBy_of_complete rfl third).trans (by rw [List.append_assoc])

/-- Plans in turn may be split at any place. -/
theorem inTurn_append (classes : ClassLists) (first second : List (ClassLists → Plan)) :
    inTurn classes (first ++ second) =
      (inTurn classes first).followedBy
        (inTurn (classes.after (inTurn classes first).calls) second) := by
  induction first generalizing classes with
  | nil => rfl
  | cons plan rest ih =>
    simp only [List.cons_append, inTurn]
    rw [ih, ← followedBy_assoc]
    cases hplan : (plan classes).rejection with
    | some rejection => rw [followedBy_of_rejected hplan, followedBy_of_rejected hplan,
        followedBy_of_rejected hplan]
    | none => rw [ClassLists.after_after, followedBy_of_complete hplan]

end Plan

/-- The plan of a step. -/
def Step.plan (step : Step) (classes : ClassLists) : Plan :=
  match step with
  | .fill selector value =>
    .needing selector (.missingSelector step.action) fun selector =>
      .make (.interact (.fill selector (value.getD "")))
  | .click selector skipClass =>
    .needing selector (.missingSelector step.action) fun selector =>
      .click classes selector skipClass
  | .type selector value delay =>
    .needing selector (.missingSelector step.action) fun selector =>
      .make (.interact (.typeText selector (value.getD "") (Time.Duration.orZero delay)))
  | .select selector value =>
    .needing selector (.missingSelector step.action) fun selector =>
      .make (.interact (.selectOption selector (value.getD "")))
  | .check selector =>
    .needing selector (.missingSelector step.action) fun selector =>
      .make (.interact (.check selector))
  | .uncheck selector =>
    .needing selector (.missingSelector step.action) fun selector =>
      .make (.interact (.uncheck selector))
  | .hover selector =>
    .needing selector (.missingSelector step.action) fun selector =>
      .make (.interact (.hover selector))
  | .wait value =>
    .counting defaultPause value fun pause => .make (.interact (.wait (max 0 pause)))

/-- The plan of an expectation. -/
def Expectation.plan (expectation : Expectation) : Plan :=
  match expectation with
  | .url value => .make (.expect (.url (value.getD "")))
  | .text selector value =>
    .needing selector (.incomplete .selector expectation.kind) fun selector =>
      .needing value (.incomplete .value expectation.kind) fun value =>
        .make (.expect (.text selector value))
  | .notText selector value =>
    .needing selector (.incomplete .selector expectation.kind) fun selector =>
      .needing value (.incomplete .value expectation.kind) fun value =>
        .make (.expect (.notText selector value))
  | .visible selector => .passingOver selector fun selector => .make (.expect (.visible selector))
  | .hidden selector => .passingOver selector fun selector => .make (.expect (.hidden selector))
  | .hasAttribute selector name value =>
    .passingOver selector fun selector =>
      .passingOver name fun name =>
        .make (.expect (.hasAttribute selector name (value.getD "")))
  | .count selector value =>
    .passingOver selector fun selector =>
      .counting 0 value fun number => .make (.expect (.count selector number))

/-- The plan of a resolved scenario: its address, its steps, its expectations. -/
def Scenario.plan (classes : ClassLists) (scenario : Scenario) : Plan :=
  .inTurn classes
    ((fun _ => .make (.interact (.navigate scenario.url)))
      :: (scenario.steps.map Step.plan
        ++ scenario.expectations.map fun expectation _ => expectation.plan))

/-- No call of a list meets an incident. -/
def Undisturbed (incidents : Incidents) (calls : List Primitive) : Prop :=
  ∀ before call rest, calls = before ++ call :: rest → incidents before call = none

/-- What is carried out of a plan, and the failure that ends it: the whole plan when nothing
fails, the whole plan up to the first record that is rejected, or the plan cut right after the
first call that meets an incident. -/
inductive Plan.Carried (incidents : Incidents) (plan : Plan) :
    List Primitive → Option Failure → Prop
  | whole (hcalls : Undisturbed incidents plan.calls) (hend : plan.rejection = none) :
    Carried incidents plan plan.calls none
  | rejected {rejection : Rejection} (hcalls : Undisturbed incidents plan.calls)
    (hend : plan.rejection = some rejection) :
    Carried incidents plan plan.calls (some (.rejected rejection))
  | cut {before rest : List Primitive} {call : Primitive} {incident : Incident}
    (hplan : plan.calls = before ++ call :: rest) (hcalls : Undisturbed incidents before)
    (hend : incidents before call = some incident) :
    Carried incidents plan (before ++ [call]) (some (.raised incident))

/-- No incident is met where no call is made. -/
theorem undisturbed_nil (incidents : Incidents) : Undisturbed incidents [] := by
  intro before call rest hcalls
  exact absurd hcalls (by simp)

/-- One call meets no incident. -/
theorem undisturbed_singleton {incidents : Incidents} {primitive : Primitive}
    (h : incidents [] primitive = none) : Undisturbed incidents [primitive] := by
  intro before call rest hcalls
  cases before with
  | nil =>
    obtain ⟨rfl, -⟩ := List.cons.inj hcalls
    exact h
  | cons head tail => exact absurd (List.cons.inj hcalls).2 (by simp)

/-- Calls meet no incident exactly when those in front do not and, after them, the others. -/
theorem undisturbed_append (incidents : Incidents) (first second : List Primitive) :
    Undisturbed incidents (first ++ second) ↔
      Undisturbed incidents first ∧ Undisturbed (incidents.after first) second := by
  apply Iff.intro
  · intro h
    refine ⟨fun before call rest hcalls => ?_, fun before call rest hcalls => ?_⟩
    · apply h before call (rest ++ second)
      rw [hcalls, List.append_assoc, List.cons_append]
    · apply h (first ++ before) call rest
      rw [hcalls, List.append_assoc]
  · intro h before call rest hcalls
    obtain ⟨hfirst, hsecond⟩ := h
    rcases List.append_eq_append_iff.mp hcalls with ⟨more, rfl, hrest⟩ | ⟨more, rfl, hrest⟩
    · exact hsecond more call rest hrest
    · cases more with
      | nil =>
        have hnone := hsecond [] call rest hrest.symm
        simpa only [Incidents.after, List.append_nil] using hnone
      | cons head tail =>
        obtain ⟨rfl, rfl⟩ := List.cons.inj hrest
        exact hfirst before call tail rfl

/-- Calls meet no incident, or there is a first one that does. -/
theorem undisturbed_or_cut (incidents : Incidents) (calls : List Primitive) :
    Undisturbed incidents calls ∨ ∃ before call rest incident,
      calls = before ++ call :: rest ∧ Undisturbed incidents before ∧
        incidents before call = some incident := by
  induction calls generalizing incidents with
  | nil => exact Or.inl (undisturbed_nil incidents)
  | cons first rest ih =>
    cases hfirst : incidents [] first with
    | some incident =>
      exact Or.inr ⟨[], first, rest, incident, rfl, undisturbed_nil incidents, hfirst⟩
    | none =>
      have hsingle : Undisturbed incidents [first] := undisturbed_singleton hfirst
      -- The rest is looked at with the incidents that are left once the first call was made.
      rcases ih (incidents.after [first]) with
        hrest | ⟨before, call, more, incident, rfl, hbefore, hend⟩
      · exact Or.inl ((undisturbed_append incidents [first] rest).mpr ⟨hsingle, hrest⟩)
      · have hcalls := (undisturbed_append incidents [first] before).mpr ⟨hsingle, hbefore⟩
        exact Or.inr ⟨first :: before, call, more, incident, rfl, hcalls, hend⟩

namespace Plan.Carried

variable {incidents : Incidents} {plan first second : Plan} {made later : List Primitive}
  {failure : Option Failure}

/-- Calls that go on after an incident are not undisturbed. -/
theorem not_undisturbed_of_cut {before longer rest : List Primitive} {call : Primitive}
    {incident : Incident} (hlonger : longer = before ++ call :: rest)
    (hend : incidents before call = some incident) : ¬ Undisturbed incidents longer := by
  intro hcalls
  have hnone := hcalls before call rest hlonger
  rw [hend] at hnone
  exact nomatch hnone

/-- No undisturbed calls lie between an incident and a later place in the same calls. -/
theorem eq_nil_of_cut {before more rest tail : List Primitive} {call other : Primitive}
    {incident : Incident} (hrest : call :: rest = more ++ other :: tail)
    (hcalls : Undisturbed incidents (before ++ more))
    (hend : incidents before call = some incident) : more = [] := by
  cases more with
  | nil => rfl
  | cons head between =>
    obtain ⟨rfl, rfl⟩ := List.cons.inj hrest
    exact absurd hcalls (not_undisturbed_of_cut rfl hend)

/-- The first incident of a plan is at one place. -/
theorem cut_unique {before before' rest rest' : List Primitive} {call call' : Primitive}
    {incident incident' : Incident} (hplan : before ++ call :: rest = before' ++ call' :: rest')
    (hcalls : Undisturbed incidents before) (hcalls' : Undisturbed incidents before')
    (hend : incidents before call = some incident)
    (hend' : incidents before' call' = some incident') : before = before' ∧ call = call' := by
  rcases List.append_eq_append_iff.mp hplan with ⟨more, rfl, hrest⟩ | ⟨more, rfl, hrest⟩
  · obtain rfl := eq_nil_of_cut hrest hcalls' hend
    exact ⟨(List.append_nil before).symm, (List.cons.inj hrest).1⟩
  · obtain rfl := eq_nil_of_cut hrest hcalls hend'
    exact ⟨List.append_nil before', (List.cons.inj hrest).1.symm⟩

/-- Of a plan that is carried out without a failure all calls are made. -/
theorem made_eq (h : plan.Carried incidents made none) : made = plan.calls := by
  cases h
  rfl

/-- What is carried out of a plan is determined by the plan and the incidents. -/
theorem unique {other : List Primitive} {cause : Option Failure}
    (h : plan.Carried incidents made failure) (hother : plan.Carried incidents other cause) :
    made = other ∧ failure = cause := by
  cases h with
  | whole hcalls hend =>
    cases hother with
    | whole => exact ⟨rfl, rfl⟩
    | rejected _ hend' => rw [hend] at hend'; exact nomatch hend'
    | cut hplan _ hend' => exact absurd hcalls (not_undisturbed_of_cut hplan hend')
  | rejected hcalls hend =>
    cases hother with
    | whole _ hend' => rw [hend] at hend'; exact nomatch hend'
    | rejected _ hend' =>
      obtain rfl := Option.some.inj (hend.symm.trans hend')
      exact ⟨rfl, rfl⟩
    | cut hplan _ hend' => exact absurd hcalls (not_undisturbed_of_cut hplan hend')
  | cut hplan hcalls hend =>
    cases hother with
    | whole hcalls' _ => exact absurd hcalls' (not_undisturbed_of_cut hplan hend)
    | rejected hcalls' _ => exact absurd hcalls' (not_undisturbed_of_cut hplan hend)
    | cut hplan' hcalls' hend' =>
      obtain ⟨rfl, rfl⟩ := cut_unique (hplan.symm.trans hplan') hcalls hcalls' hend hend'
      obtain rfl := Option.some.inj (hend.symm.trans hend')
      exact ⟨rfl, rfl⟩

/-- Of every plan exactly one list of calls is carried out, and it ends in one way. -/
theorem exists_unique (incidents : Incidents) (plan : Plan) :
    ∃ made failure, plan.Carried incidents made failure ∧
      ∀ other cause, plan.Carried incidents other cause → made = other ∧ failure = cause := by
  have hcarried : ∃ made failure, plan.Carried incidents made failure := by
    rcases undisturbed_or_cut incidents plan.calls with
      hcalls | ⟨before, call, rest, incident, hplan, hcalls, hend⟩
    · cases hrejection : plan.rejection with
      | none => exact ⟨_, _, .whole hcalls hrejection⟩
      | some rejection => exact ⟨_, _, .rejected hcalls hrejection⟩
    · exact ⟨_, _, .cut hplan hcalls hend⟩
  obtain ⟨made, failure, h⟩ := hcarried
  exact ⟨made, failure, h, fun other cause hother => h.unique hother⟩

/-- A plan that has failed has failed in any longer plan. -/
theorem followedBy_of_failed {cause : Failure} (h : first.Carried incidents made (some cause)) :
    (first.followedBy second).Carried incidents made (some cause) := by
  cases h with
  | rejected hcalls hend =>
    rw [followedBy_of_rejected hend]
    exact .rejected hcalls hend
  | @cut before rest call incident hplan hcalls hend =>
    cases hfirst : first.rejection with
    | some rejection =>
      rw [followedBy_of_rejected hfirst]
      exact .cut hplan hcalls hend
    | none =>
      rw [followedBy_of_complete hfirst]
      have hlonger : first.calls ++ second.calls = before ++ call :: (rest ++ second.calls) := by
        rw [hplan, List.append_assoc, List.cons_append]
      exact .cut hlonger hcalls hend

/-- A plan that was carried out wholly goes on with the next one. -/
theorem followedBy_of_whole (h : first.Carried incidents made none)
    (hsecond : second.Carried (incidents.after made) later failure) :
    (first.followedBy second).Carried incidents (made ++ later) failure := by
  cases h with
  | whole hcalls hend =>
    rw [followedBy_of_complete hend]
    cases hsecond with
    | whole hcalls' hend' =>
      exact .whole ((undisturbed_append _ _ _).mpr ⟨hcalls, hcalls'⟩) hend'
    | rejected hcalls' hend' =>
      exact .rejected ((undisturbed_append _ _ _).mpr ⟨hcalls, hcalls'⟩) hend'
    | @cut before rest call incident hplan hcalls' hend' =>
      rw [← List.append_assoc]
      have hlonger : first.calls ++ second.calls = (first.calls ++ before) ++ call :: rest := by
        rw [hplan, List.append_assoc]
      exact .cut hlonger ((undisturbed_append _ _ _).mpr ⟨hcalls, hcalls'⟩) hend'

end Plan.Carried

end BrowserScenario
