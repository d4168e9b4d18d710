import BrowserScenario.Proofs.Run.Outcome
import BrowserScenario.Proofs.Run.Plan

/-!
# Browsers as seen through their calls

Of a browser only the calls made to it and its answers can be seen. Its state after some calls
gives the incident that the next call meets, and the classes it tells then. A run carries out a
plan in a world if its calls are those that the incidents leave of the plan, if its answer is the
failure that ends them, and if it changes neither files nor attachments.

Main statement: runs that are put together, in sequence, over a list or by the fields that they
need, carry out the plans of their parts put together in the same way.
-/

namespace BrowserScenario

variable {σ α β : Type}

namespace Browser

/-- A browser called by a primitive; the answer is empty where it is no list of classes. -/
def respond (browser : Browser σ) : Primitive → Attempt σ (List String)
  | .interact interaction => fun state =>
    ((browser.interact interaction state).1.map fun _ => [],
      (browser.interact interaction state).2)
  | .expect check => fun state =>
    ((browser.expect check state).1.map fun _ => [], (browser.expect check state).2)
  | .classList selector => browser.classList selector

/-- The state of a browser after calls. -/
def stateAfter (browser : Browser σ) (state : σ) (made : List Primitive) : σ :=
  made.foldl (fun state primitive => (browser.respond primitive state).2) state

/-- The incidents that a browser reports from a state on. -/
def incidents (browser : Browser σ) (state : σ) : Incidents := fun made primitive =>
  match (browser.respond primitive (browser.stateAfter state made)).1 with
  | .ok _ => none
  | .error incident => some incident

/-- Class lists are those of a browser from a state on, wherever it tells them. -/
def Tells (browser : Browser σ) (state : σ) (classes : ClassLists) : Prop :=
  ∀ made selector answer,
    (browser.classList selector (browser.stateAfter state made)).1 = .ok answer →
      classes made selector = answer

/-- The state after two lists of calls is that after both lists together. -/
theorem stateAfter_append (browser : Browser σ) (state : σ) (first second : List Primitive) :
    browser.stateAfter state (first ++ second) =
      browser.stateAfter (browser.stateAfter state first) second :=
  List.foldl_append

/-- The incidents after some calls are those from the state that the calls lead to. -/
theorem incidents_after (browser : Browser σ) (state : σ) (made : List Primitive) :
    (browser.incidents state).after made = browser.incidents (browser.stateAfter state made) := by
  funext later primitive
  simp only [Incidents.after, incidents, stateAfter_append]

/-- The class lists of a browser after some calls are those from the state they lead to. -/
theorem Tells.after {browser : Browser σ} {state : σ} {classes : ClassLists}
    (h : browser.Tells state classes) (made : List Primitive) :
    browser.Tells (browser.stateAfter state made) (classes.after made) := by
  intro later selector answer hanswer
  rw [← stateAfter_append] at hanswer
  exact h (made ++ later) selector answer hanswer

/-- Every browser has class lists. -/
theorem exists_tells (browser : Browser σ) (state : σ) : ∃ classes, browser.Tells state classes := by
  refine ⟨fun made selector =>
    ((browser.classList selector (browser.stateAfter state made)).1.toOption).getD [], ?_⟩
  intro made selector answer hanswer
  simp only [hanswer, Except.toOption, Option.getD_some]

end Browser

/-- A world after calls of a browser: the calls are noted, and files and attachments are kept. -/
structure Progress (browser : Browser σ) (before after : World σ) (made : List Primitive) :
    Prop where
  browser_eq : after.browser = browser.stateAfter before.browser made
  calls_eq : after.calls = before.calls ++ made.map Primitive.call
  tree_eq : after.tree = before.tree
  attached_eq : after.attached = before.attached

/-- No call is no progress. -/
theorem Progress.refl (browser : Browser σ) (world : World σ) : Progress browser world world [] :=
  ⟨rfl, (List.append_nil _).symm, rfl, rfl⟩

/-- Progress in two parts is progress by both. -/
theorem Progress.trans {browser : Browser σ} {first second third : World σ}
    {made later : List Primitive} (h : Progress browser first second made)
    (hlater : Progress browser second third later) :
    Progress browser first third (made ++ later) where
  browser_eq := by rw [hlater.browser_eq, h.browser_eq, Browser.stateAfter_append]
  calls_eq := by rw [hlater.calls_eq, h.calls_eq, List.map_append, List.append_assoc]
  tree_eq := hlater.tree_eq.trans h.tree_eq
  attached_eq := hlater.attached_eq.trans h.attached_eq

/-- A run made from a field, which does nothing if the field is absent or empty. -/
def Run.passingOver (field : Option String) (run : String → Run σ Unit) : Run σ Unit :=
  match filled? field with
  | some text => run text
  | none => pure ()

/-- The check of an attribute passes over an element and a name that are not given. -/
theorem Expectation.perform_hasAttribute (browser : Browser σ) (selector name value : Option String) :
    (Expectation.hasAttribute selector name value).perform browser =
      Run.passingOver selector fun selector =>
        Run.passingOver name fun name =>
          Run.expect browser (.hasAttribute selector name (value.getD "")) := by
  simp only [Expectation.perform, Run.passingOver]
  cases filled? selector <;> cases filled? name <;> rfl

/-- What a run answers that ends in a failure or without one. -/
def answerOf : Option Failure → Except Failure Unit
  | none => .ok ()
  | some failure => .error failure

/-- A question for classes is answered as the browser answers it, and it is noted. -/
theorem Run.outcome_classList {browser : Browser σ} {selector : String} {world : World σ} {state : σ}
    {answer : Except Incident (List String)}
    (h : browser.classList selector world.browser = (answer, state)) :
    (Run.classList browser selector).outcome world =
      (answer.mapError .raised,
        { world with browser := state, calls := world.calls ++ [.classList selector] }) := by
  simp only [Run.outcome, Run.classList, Run.call, h]

/-- An interaction is answered by the incident that it meets, if any. -/
theorem Run.answer_interact (browser : Browser σ) (interaction : Interaction) (world : World σ) :
    ((Run.interact browser interaction).outcome world).1 =
      answerOf ((browser.incidents world.browser [] (.interact interaction)).map .raised) := by
  change (browser.interact interaction world.browser).1.mapError Failure.raised = _
  simp only [Browser.incidents, Browser.stateAfter, Browser.respond, List.foldl_nil]
  cases (browser.interact interaction world.browser).1 <;> rfl

/-- A check is answered by the incident that it meets, if any. -/
theorem Run.answer_expect (browser : Browser σ) (check : Check) (world : World σ) :
    ((Run.expect browser check).outcome world).1 =
      answerOf ((browser.incidents world.browser [] (.expect check)).map .raised) := by
  change (browser.expect check world.browser).1.mapError Failure.raised = _
  simp only [Browser.incidents, Browser.stateAfter, Browser.respond, List.foldl_nil]
  cases (browser.expect check world.browser).1 <;> rfl

/-- A run carries out a plan: in every world it makes the calls that the incidents of the browser
leave of the plan, and answers as they end. -/
def CarriesOut (browser : Browser σ) (run : Run σ Unit) (plan : ClassLists → Plan) : Prop :=
  ∀ (world : World σ) (classes : ClassLists), browser.Tells world.browser classes →
    ∃ made failure,
      (plan classes).Carried (browser.incidents world.browser) made failure ∧
        Progress browser world (run.outcome world).2 made ∧
          (run.outcome world).1 = answerOf failure

namespace CarriesOut

variable {browser : Browser σ}

/-- Nothing done carries out the plan without calls. -/
theorem nothing : CarriesOut browser (pure ()) fun _ => .nothing := by
  intro world classes htells
  exact ⟨[], none, .whole (undisturbed_nil _) rfl, .refl browser world, rfl⟩

/-- A rejected record carries out the plan that is rejected. -/
theorem reject (rejection : Rejection) :
    CarriesOut browser (Run.reject rejection) fun _ => .reject rejection := by
  intro world classes htells
  exact ⟨[], some (.rejected rejection), .rejected (undisturbed_nil _) rfl, .refl browser world, rfl⟩

/-- A run that makes one call carries out the plan of that call. -/
theorem make {run : Run σ Unit} {primitive : Primitive}
    (hprogress : ∀ world, Progress browser world (run.outcome world).2 [primitive])
    (hanswer : ∀ world, (run.outcome world).1 =
      answerOf ((browser.incidents world.browser [] primitive).map .raised)) :
    CarriesOut browser run fun _ => .make primitive := by
  intro world classes htells
  cases hincident : browser.incidents world.browser [] primitive with
  | none =>
    refine ⟨[primitive], none, .whole (undisturbed_singleton hincident) rfl, hprogress world, ?_⟩
    rw [hanswer, hincident]
    rfl
  | some incident =>
    refine ⟨[primitive], some (.raised incident), ?_, hprogress world, ?_⟩
    · exact .cut (rfl : (Plan.make primitive).calls = [] ++ primitive :: [])
        (undisturbed_nil _) hincident
    · rw [hanswer, hincident]
      rfl

/-- An interaction carries out the plan to make it. -/
theorem interact (interaction : Interaction) :
    CarriesOut browser (Run.interact browser interaction) fun _ =>
      .make (.interact interaction) :=
  make (fun _ => ⟨rfl, rfl, rfl, rfl⟩) (Run.answer_interact browser interaction)

/-- A check carries out the plan to make it. -/
theorem expect (check : Check) :
    CarriesOut browser (Run.expect browser check) fun _ => .make (.expect check) :=
  make (fun _ => ⟨rfl, rfl, rfl, rfl⟩) (Run.answer_expect browser check)

/-- Runs in sequence carry out their plans one after the other. -/
theorem bind {first second : Run σ Unit} {plan next : ClassLists → Plan}
    (hfirst : CarriesOut browser first plan) (hsecond : CarriesOut browser second next) :
    CarriesOut browser (first >>= fun _ => second) fun classes =>
      (plan classes).followedBy (next (classes.after (plan classes).calls)) := by
  intro world classes htells
  obtain ⟨made, failure, hcarried, hprogress, hanswer⟩ := hfirst world classes htells
  cases failure with
  | some failure =>
    have houtcome : (first >>= fun _ => second).outcome world = first.outcome world :=
      (Run.outcome_bind_of_error (Prod.ext hanswer rfl)).trans (Prod.ext hanswer.symm rfl)
    refine ⟨made, some failure, hcarried.followedBy_of_failed, ?_, ?_⟩
    · rw [houtcome]
      exact hprogress
    · rw [houtcome, hanswer]
  | none =>
    obtain rfl := hcarried.made_eq
    have htells' := htells.after (plan classes).calls
    rw [← hprogress.browser_eq] at htells'
    obtain ⟨later, failure, hcarried', hprogress', hanswer'⟩ := hsecond _ _ htells'
    rw [hprogress.browser_eq, ← Browser.incidents_after] at hcarried'
    have houtcome : (first >>= fun _ => second).outcome world =
        second.outcome (first.outcome world).2 :=
      Run.outcome_bind_of_ok (Prod.ext hanswer rfl)
    rw [← houtcome] at hprogress' hanswer'
    exact ⟨(plan classes).calls ++ later, failure, hcarried.followedBy_of_whole hcarried',
      hprogress.trans hprogress', hanswer'⟩

/-- A run over a list carries out the plans of its items in turn. -/
theorem forM {run : α → Run σ Unit} {plan : α → ClassLists → Plan}
    (h : ∀ item, CarriesOut browser (run item) (plan item)) (items : List α) :
    CarriesOut browser (items.forM run) fun classes => .inTurn classes (items.map plan) := by
  induction items with
  | nil => exact nothing
  | cons item rest ih => exact (h item).bind ih

/-- Runs in sequence carry out all their plans in turn. -/
theorem inTurn {first second : Run σ Unit} {plans rest : List (ClassLists → Plan)}
    (hfirst : CarriesOut browser first fun classes => .inTurn classes plans)
    (hsecond : CarriesOut browser second fun classes => .inTurn classes rest) :
    CarriesOut browser (first >>= fun _ => second) fun classes =>
      .inTurn classes (plans ++ rest) := by
  simp only [Plan.inTurn_append]
  exact hfirst.bind hsecond

/-- A run that needs a field carries out the plan that needs it. -/
theorem needing {needed : Run σ String} {field : Option String} {rejection : Rejection}
    {run : String → Run σ Unit} {plan : String → ClassLists → Plan}
    (hneeded : needed =
      match filled? field with
      | some text => pure text
      | none => Run.reject rejection)
    (h : ∀ text, CarriesOut browser (run text) (plan text)) :
    CarriesOut browser (needed >>= run) fun classes =>
      .needing field rejection fun text => plan text classes := by
  rw [hneeded]
  cases hfield : filled? field with
  | none =>
    simp only [Plan.needing, hfield]
    exact reject rejection
  | some text =>
    simp only [Plan.needing, hfield]
    exact h text

/-- A run that passes over an empty field carries out the plan that passes over it. -/
theorem passingOver {field : Option String} {run : String → Run σ Unit}
    {plan : String → ClassLists → Plan} (h : ∀ text, CarriesOut browser (run text) (plan text)) :
    CarriesOut browser (Run.passingOver field run) fun classes =>
      .passingOver field fun text => plan text classes := by
  unfold Run.passingOver Plan.passingOver
  cases filled? field with
  | none => exact nothing
  | some text => exact h text

/-- A run that goes on with the integer of a field carries out the plan that counts by it. -/
theorem counting {default : Int} {field : Option String} {run : Int → Run σ Unit}
    {plan : Int → ClassLists → Plan} (h : ∀ number, CarriesOut browser (run number) (plan number)) :
    CarriesOut browser (Run.ofExcept (integerField default field) >>= run) fun classes =>
      .counting default field fun number => plan number classes := by
  cases hfield : integerField default field with
  | error rejection =>
    simp only [Plan.counting, hfield]
    exact reject rejection
  | ok number =>
    simp only [Plan.counting, hfield]
    exact h number

end CarriesOut

end BrowserScenario
