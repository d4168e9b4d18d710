import BrowserScenario.Proofs.Run.Conduct
import BrowserScenario.Proofs.Scenario.Record

/-!
# Records on their own

A step or an expectation is given by a word for its kind and by fields, each of which may be absent
or empty. What becomes of it can be told from these alone, but for the answers of the browser. It is
refused, and then the browser is not called; or it is passed over; or it is a click that a class
may suppress; or it is one call, which takes its selector and its text from the record. Words are
told apart exactly as they are written.

The two policies on missing fields stand side by side: a step without the selector that it needs and
a check of text without one of its parts are refused, any other check without the element or the
name that it looks for is passed over. Main statement: this holds of every record on every browser.
-/

namespace BrowserScenario

variable {σ : Type}

/-- The words for the actions of steps, each with the name of the call that performs the step. -/
def stepCalls : List (String × String) := [
  ("fill", "fill"), ("click", "click"), ("type", "type_text"), ("select", "select_option"),
  ("check", "check"), ("uncheck", "uncheck"), ("hover", "hover"), ("wait", "wait")]

/-- The words for the kinds of expectations, each with the name of the call that checks one. -/
def expectationCalls : List (String × String) := [
  ("url", "expect_url"), ("text", "expect_text"), ("notText", "expect_not_text"),
  ("visible", "expect_visible"), ("hidden", "expect_hidden"), ("attribute", "expect_attribute"),
  ("count", "expect_count")]

/-- The selector that a call takes, if it takes one. -/
def Call.selector? : Call → Option String
  | .interact (.fill selector _) => some selector
  | .interact (.click selector) => some selector
  | .interact (.typeText selector _ _) => some selector
  | .interact (.selectOption selector _) => some selector
  | .interact (.check selector) => some selector
  | .interact (.uncheck selector) => some selector
  | .interact (.hover selector) => some selector
  | .expect (.text selector _) => some selector
  | .expect (.notText selector _) => some selector
  | .expect (.visible selector) => some selector
  | .expect (.hidden selector) => some selector
  | .expect (.hasAttribute selector _ _) => some selector
  | .expect (.count selector _) => some selector
  | .classList selector => some selector
  | _ => none

/-- The text that a call enters, chooses or looks for, if it takes one; an address that is looked
for counts as one. -/
def Call.text? : Call → Option String
  | .interact (.fill _ text) => some text
  | .interact (.typeText _ text _) => some text
  | .interact (.selectOption _ value) => some value
  | .expect (.url address) => some address
  | .expect (.text _ part) => some part
  | .expect (.notText _ part) => some part
  | .expect (.hasAttribute _ _ value) => some value
  | _ => none

/-- The refusal of a field whose integer has too many digits, if it has. -/
def unreadable? (default : Int) (field : Option String) : Option Rejection :=
  match integerField default field with
  | .ok _ => none
  | .error rejection => some rejection

/-- Why a step is refused, if it is. -/
def StepRecord.refusal? (record : StepRecord) : Option Rejection :=
  if record.action ∉ stepCalls.map Prod.fst then some (.unknownAction record.action)
  else if record.action = "wait" then unreadable? defaultPause record.value
  else if IsMissing record.selector then some (.missingSelector record.action)
  else none

/-- Why an expectation is refused, if it is. -/
def ExpectationRecord.refusal? (record : ExpectationRecord) : Option Rejection :=
  if record.kind ∉ expectationCalls.map Prod.fst then some (.unknownExpectation record.kind)
  else if record.kind ∈ ["text", "notText"] then
    if IsMissing record.selector then some (.incomplete .selector record.kind)
    else if IsMissing record.value then some (.incomplete .value record.kind)
    else none
  else if record.kind = "count" ∧ ¬ IsMissing record.selector then unreadable? 0 record.value
  else none

/-- A click on an element that a class suppresses. -/
def StepRecord.Guards (record : StepRecord) (selector skipClass : String) : Prop :=
  record.action = "click" ∧ filled? record.selector = some selector ∧
    filled? record.skipClass = some skipClass

/-- An expectation that does not say what it is about and is not refused for that. -/
def ExpectationRecord.PassedOver (record : ExpectationRecord) : Prop :=
  record.kind ∈ ["visible", "hidden", "count", "attribute"] ∧ IsMissing record.selector ∨
    record.kind = "attribute" ∧ IsMissing record.name

/-- How a record is dealt with, told from its tag and its fields: why it is refused, if it is;
whether it is passed over; which click it is, if a class may suppress it; the name of its call; and
the fields that its selector and its text are taken from. -/
structure Treatment where
  refusal? : Option Rejection
  passedOver : Prop
  guards : String → String → Prop
  name? : Option String
  selector : Option String
  value : Option String

/-- How a step is dealt with. -/
def StepRecord.treatment (record : StepRecord) : Treatment where
  refusal? := record.refusal?
  passedOver := False
  guards := record.Guards
  name? := stepCalls.lookup record.action
  selector := record.selector
  value := record.value

/-- How an expectation is dealt with. -/
def ExpectationRecord.treatment (record : ExpectationRecord) : Treatment where
  refusal? := record.refusal?
  passedOver := record.PassedOver
  guards := fun _ _ => False
  name? := expectationCalls.lookup record.kind
  selector := record.selector
  value := record.value

/-- One call was made, with the selector and the text of a record, and the run ended as it did. -/
structure MadeOne (browser : Browser σ) (world : World σ) (treatment : Treatment) (call : Primitive)
    (run : Except Failure Unit × World σ) : Prop where
  calls_eq : run.2.calls = world.calls ++ [call.call]
  answer_eq : run.1 = answerOf ((browser.incidents world.browser [] call).map .raised)
  name_eq : treatment.name? = some call.call.name
  selector_eq : ∀ selector, call.call.selector? = some selector →
    filled? treatment.selector = some selector
  text_eq : ∀ text, call.call.text? = some text → treatment.value.getD "" = text

/-- The classes of an element were asked for, and the element was clicked on exactly when they were
told without the suppressing one. -/
inductive GuardedClick (browser : Browser σ) (world : World σ) (selector skipClass : String)
    (run : Except Failure Unit × World σ) : Prop
  | untold (incident : Incident)
    (hclasses : (browser.classList selector world.browser).1 = .error incident)
    (hcalls : run.2.calls = world.calls ++ [.classList selector])
    (hanswer : run.1 = .error (.raised incident))
  | suppressed (classes : List String)
    (hclasses : (browser.classList selector world.browser).1 = .ok classes)
    (hskip : skipClass ∈ classes)
    (hcalls : run.2.calls = world.calls ++ [.classList selector]) (hanswer : run.1 = .ok ())
  | clicked (classes : List String)
    (hclasses : (browser.classList selector world.browser).1 = .ok classes)
    (hskip : skipClass ∉ classes)
    (hcalls : run.2.calls = world.calls ++ [.classList selector, .interact (.click selector)])
    (hanswer : run.1 = answerOf ((browser.incidents world.browser [.classList selector]
      (.interact (.click selector))).map .raised))

/-- A record that was dealt with in a world as its treatment says. When it is refused, the browser
is not called and nothing else is changed; otherwise it makes one call, unless it is passed over or
is a click that a class may suppress. -/
structure ActsOnce (browser : Browser σ) (world : World σ) (treatment : Treatment)
    (run : Except Failure Unit × World σ) : Prop where
  refused_iff : ∀ rejection,
    run.1 = .error (.rejected rejection) ↔ treatment.refusal? = some rejection
  unchanged : ∀ rejection, run.1 = .error (.rejected rejection) → run.2 = world
  passed : treatment.passedOver → run = (.ok (), world)
  guarded : ∀ selector skipClass, treatment.guards selector skipClass →
    GuardedClick browser world selector skipClass run
  called : treatment.refusal? = none → ¬ treatment.passedOver →
    (∀ selector skipClass, ¬ treatment.guards selector skipClass) →
      ∃ call, MadeOne browser world treatment call run

/-- An answer to a call is no refusal. -/
theorem answerOf_ne_rejected (incident : Option Incident) (rejection : Rejection) :
    answerOf (incident.map .raised) ≠ .error (.rejected rejection) := by
  cases incident <;> simp [answerOf]

namespace ActsOnce

variable {browser : Browser σ} {world : World σ} {treatment : Treatment}
  {run : Except Failure Unit × World σ}

/-- A record that is refused. -/
theorem of_refused {rejection : Rejection} (hrun : run = (.error (.rejected rejection), world))
    (hrefusal : treatment.refusal? = some rejection) (hpassed : ¬ treatment.passedOver)
    (hguards : ∀ selector skipClass, ¬ treatment.guards selector skipClass) :
    ActsOnce browser world treatment run where
  refused_iff := by
    intro other
    rw [hrun, hrefusal]
    simp
  unchanged := by
    intro other _
    rw [hrun]
  passed := fun h => absurd h hpassed
  guarded := fun selector skipClass h => absurd h (hguards selector skipClass)
  called := by
    intro h
    rw [hrefusal] at h
    exact nomatch h

/-- A record that is passed over. -/
theorem of_passed (hrun : run = (.ok (), world)) (hrefusal : treatment.refusal? = none)
    (hpassed : treatment.passedOver)
    (hguards : ∀ selector skipClass, ¬ treatment.guards selector skipClass) :
    ActsOnce browser world treatment run where
  refused_iff := by
    intro other
    rw [hrun, hrefusal]
    simp
  unchanged := by
    intro other _
    rw [hrun]
  passed := fun _ => hrun
  guarded := fun selector skipClass h => absurd h (hguards selector skipClass)
  called := fun _ h => absurd hpassed h

/-- A record that is one call. -/
theorem of_called {call : Primitive} (hrun : MadeOne browser world treatment call run)
    (hrefusal : treatment.refusal? = none) (hpassed : ¬ treatment.passedOver)
    (hguards : ∀ selector skipClass, ¬ treatment.guards selector skipClass) :
    ActsOnce browser world treatment run where
  refused_iff := by
    intro other
    rw [hrun.answer_eq, hrefusal]
    simp [answerOf_ne_rejected]
  unchanged := by
    intro other h
    rw [hrun.answer_eq] at h
    exact absurd h (answerOf_ne_rejected _ other)
  passed := fun h => absurd h hpassed
  guarded := fun selector skipClass h => absurd h (hguards selector skipClass)
  called := fun _ _ _ => ⟨call, hrun⟩

/-- A record that is a click which a class may suppress. -/
theorem of_guarded {selector skipClass : String}
    (hrun : GuardedClick browser world selector skipClass run)
    (hrefusal : treatment.refusal? = none) (hpassed : ¬ treatment.passedOver)
    (hguards : ∀ other otherClass, treatment.guards other otherClass ↔
      other = selector ∧ otherClass = skipClass) :
    ActsOnce browser world treatment run := by
  have hanswer : ∀ rejection, run.1 ≠ .error (.rejected rejection) := by
    intro rejection
    cases hrun with
    | untold incident _ _ hanswer => simp [hanswer]
    | suppressed classes _ _ _ hanswer => simp [hanswer]
    | clicked classes _ _ _ hanswer =>
      rw [hanswer]
      exact answerOf_ne_rejected _ rejection
  refine ⟨fun rejection => ?_, fun rejection h => absurd h (hanswer rejection),
    fun h => absurd h hpassed, fun other otherClass h => ?_, fun _ _ h => ?_⟩
  · simp [hanswer, hrefusal]
  · obtain ⟨rfl, rfl⟩ := (hguards other otherClass).1 h
    exact hrun
  · exact absurd ((hguards selector skipClass).2 ⟨rfl, rfl⟩) (h selector skipClass)

end ActsOnce

section Steps

variable {browser : Browser σ} {world : World σ}

/-- An interaction is one call. -/
theorem madeOne_interact {treatment : Treatment} {interaction : Interaction}
    (hname : treatment.name? = some interaction.name)
    (hselector : ∀ selector, (Call.interact interaction).selector? = some selector →
      filled? treatment.selector = some selector)
    (htext : ∀ text, (Call.interact interaction).text? = some text →
      treatment.value.getD "" = text) :
    MadeOne browser world treatment (.interact interaction)
      ((Run.interact browser interaction).outcome world) :=
  ⟨rfl, Run.answer_interact browser interaction world, hname, hselector, htext⟩

/-- A check is one call. -/
theorem madeOne_expect {treatment : Treatment} {check : Check}
    (hname : treatment.name? = some check.name)
    (hselector : ∀ selector, (Call.expect check).selector? = some selector →
      filled? treatment.selector = some selector)
    (htext : ∀ text, (Call.expect check).text? = some text → treatment.value.getD "" = text) :
    MadeOne browser world treatment (.expect check)
      ((Run.expect browser check).outcome world) :=
  ⟨rfl, Run.answer_expect browser check world, hname, hselector, htext⟩

/-- A click with a suppressing class asks for the classes first. -/
theorem guardedClick_performClick {selector skipClass : String} {field : Option String}
    (hfield : filled? field = some skipClass) :
    GuardedClick browser world selector skipClass
      ((performClick browser selector field).outcome world) := by
  simp only [performClick, hfield]
  rcases htold : browser.classList selector world.browser with ⟨incident | classes, state⟩
  · rw [Run.outcome_bind_of_error (Run.outcome_classList htold)]
    exact .untold incident (congrArg Prod.fst htold) rfl rfl
  · rw [Run.outcome_bind_of_ok (Run.outcome_classList htold)]
    have hclasses : (browser.classList selector world.browser).1 = .ok classes :=
      congrArg Prod.fst htold
    by_cases hskip : skipClass ∈ classes
    · rw [if_pos (List.contains_iff_mem.mpr hskip)]
      exact .suppressed classes hclasses hskip rfl rfl
    · rw [if_neg (fun h => hskip (List.contains_iff_mem.mp h))]
      refine .clicked classes hclasses hskip (List.append_assoc _ _ _) ?_
      rw [Run.answer_interact]
      have hstate : state = browser.stateAfter world.browser [.classList selector] :=
        (congrArg Prod.snd htold).symm
      rw [hstate, ← Browser.incidents_after]
      rfl

/-- A step that needs a selector is refused without one, and otherwise goes on with it. -/
theorem StepRecord.actsOnce_of_needing {record : StepRecord} {next : String → Run σ Unit}
    (haction : record.action ∈ stepCalls.map Prod.fst) (hwait : record.action ≠ "wait")
    (hnext : ∀ selector, filled? record.selector = some selector → record.refusal? = none →
      ActsOnce browser world record.treatment ((next selector).outcome world)) :
    ActsOnce browser world record.treatment
      ((neededSelector record.action record.selector >>= next).outcome world) := by
  unfold neededSelector
  cases hselector : filled? record.selector with
  | none =>
    have hrefusal : record.refusal? = some (.missingSelector record.action) := by
      rw [refusal?, if_neg (not_not_intro haction), if_neg hwait, if_pos (isMissing_iff.2 hselector)]
    refine .of_refused rfl hrefusal not_false fun selector skipClass h => ?_
    rw [h.2.1] at hselector
    exact nomatch hselector
  | some selector =>
    have hrefusal : record.refusal? = none := by
      rw [refusal?, if_neg (not_not_intro haction), if_neg hwait,
        if_neg (not_isMissing_of_filled? hselector)]
    exact hnext selector hselector hrefusal

/-- A step that needs a selector and is no click is one interaction with the element. -/
theorem StepRecord.actsOnce_of_interact {record : StepRecord} {action : String}
    (haction : record.action = action)
    (hkind : action ∈ ["fill", "type", "select", "check", "uncheck", "hover"])
    (make : String → Interaction)
    (hname : ∀ selector, stepCalls.lookup action = some (make selector).name)
    (hselector : ∀ selector, (Call.interact (make selector)).selector? = some selector)
    (htext : ∀ selector text, (Call.interact (make selector)).text? = some text →
      record.value.getD "" = text) :
    ActsOnce browser world record.treatment
      ((neededSelector action record.selector >>= fun selector =>
        Run.interact browser (make selector)).outcome world) := by
  have hknown : action ∈ stepCalls.map Prod.fst ∧ action ≠ "wait" ∧ action ≠ "click" := by
    simp only [List.mem_cons, List.not_mem_nil, or_false] at hkind
    rcases hkind with rfl | rfl | rfl | rfl | rfl | rfl <;> decide
  subst haction
  refine actsOnce_of_needing hknown.1 hknown.2.1 fun selector hfilled hrefusal => ?_
  refine .of_called (madeOne_interact (hname selector) (fun other h => ?_) (htext selector)) hrefusal
    not_false fun _ _ h => hknown.2.2 h.1
  rw [hselector, Option.some.injEq] at h
  exact h ▸ hfilled

/-- A click is made at once, or after the classes of the element were asked for. -/
theorem StepRecord.actsOnce_of_click {record : StepRecord} (haction : record.action = "click") :
    ActsOnce browser world record.treatment
      ((neededSelector "click" record.selector >>= fun selector =>
        performClick browser selector record.skipClass).outcome world) := by
  rw [← haction]
  refine actsOnce_of_needing (by rw [haction]; decide) (by rw [haction]; decide)
    fun selector hselector hrefusal => ?_
  cases hskip : filled? record.skipClass with
  | some skipClass =>
    refine .of_guarded (guardedClick_performClick hskip) hrefusal not_false fun other otherClass => ?_
    simp [treatment, Guards, haction, hselector, hskip, eq_comm]
  | none =>
    simp only [performClick, hskip]
    have hname : stepCalls.lookup record.action = some "click" := by rw [haction]; rfl
    refine .of_called (madeOne_interact hname (fun other h => hselector.trans h)
      (by simp [Call.text?])) hrefusal not_false fun other otherClass h => ?_
    rw [h.2.2] at hskip
    exact nomatch hskip

/-- A pause is one call, unless it has too many digits. -/
theorem StepRecord.actsOnce_of_wait {record : StepRecord} (haction : record.action = "wait") :
    ActsOnce browser world record.treatment
      ((Run.ofExcept (integerField defaultPause record.value) >>= fun pause =>
        Run.interact browser (.wait (max 0 pause))).outcome world) := by
  have hrefusal : record.refusal? = unreadable? defaultPause record.value := by
    rw [refusal?, if_neg (by rw [haction]; decide), if_pos haction]
  have hguards : ∀ selector skipClass, ¬ record.Guards selector skipClass := by
    intro selector skipClass h
    exact absurd (haction.symm.trans h.1) (by decide)
  unfold unreadable? at hrefusal
  cases hpause : integerField defaultPause record.value with
  | error rejection =>
    rw [hpause] at hrefusal
    exact .of_refused rfl hrefusal not_false hguards
  | ok pause =>
    rw [hpause] at hrefusal
    have hname : stepCalls.lookup record.action = some "wait" := by rw [haction]; rfl
    exact .of_called (madeOne_interact hname (by simp [Call.selector?]) (by simp [Call.text?]))
      hrefusal not_false hguards

/-- Every step acts once. -/
theorem StepRecord.actsOnce (record : StepRecord) :
    ActsOnce browser world record.treatment ((record.perform browser).outcome world) := by
  unfold StepRecord.perform
  cases hstep : record.step? with
  | none =>
    have haction : record.action ∉ stepCalls.map Prod.fst := by
      unfold step? at hstep
      split at hstep <;> simp_all [stepCalls]
    have hguards : ∀ selector skipClass, ¬ record.Guards selector skipClass := by
      intro selector skipClass h
      rw [h.1] at haction
      exact absurd haction (by decide)
    exact .of_refused rfl (if_pos haction) not_false hguards
  | some step =>
    unfold step? at hstep
    split at hstep <;> try obtain rfl := Option.some.inj hstep
    case h_1 haction =>
      exact actsOnce_of_interact haction (by decide)
        (fun selector => .fill selector (record.value.getD "")) (fun _ => rfl) (fun _ => rfl)
        (by simp [Call.text?])
    case h_2 haction => exact actsOnce_of_click haction
    case h_3 haction =>
      exact actsOnce_of_interact haction (by decide)
        (fun selector => .typeText selector (record.value.getD "")
          (Time.Duration.orZero record.delay)) (fun _ => rfl) (fun _ => rfl) (by simp [Call.text?])
    case h_4 haction =>
      exact actsOnce_of_interact haction (by decide)
        (fun selector => .selectOption selector (record.value.getD "")) (fun _ => rfl) (fun _ => rfl)
        (by simp [Call.text?])
    case h_5 haction =>
      exact actsOnce_of_interact haction (by decide) .check (fun _ => rfl) (fun _ => rfl)
        (by simp [Call.text?])
    case h_6 haction =>
      exact actsOnce_of_interact haction (by decide) .uncheck (fun _ => rfl) (fun _ => rfl)
        (by simp [Call.text?])
    case h_7 haction =>
      exact actsOnce_of_interact haction (by decide) .hover (fun _ => rfl) (fun _ => rfl)
        (by simp [Call.text?])
    case h_8 haction => exact actsOnce_of_wait haction
    case h_9 => exact nomatch hstep

end Steps

section Expectations

variable {browser : Browser σ} {world : World σ} {record : ExpectationRecord}

/-- A check that needs no part is not refused. -/
theorem ExpectationRecord.refusal?_eq_none
    (h : record.kind ∈ ["url", "visible", "hidden", "attribute"] ∨
      record.kind = "count" ∧ IsMissing record.selector) : record.refusal? = none := by
  have hkind : record.kind ∈ expectationCalls.map Prod.fst ∧ record.kind ∉ ["text", "notText"] ∧
      ¬ (record.kind = "count" ∧ ¬ IsMissing record.selector) := by
    simp only [List.mem_cons, List.not_mem_nil, or_false] at h
    rcases h with (h | h | h | h) | ⟨h, hselector⟩
    all_goals simp_all [expectationCalls]
  rw [refusal?, if_neg (not_not_intro hkind.1), if_neg hkind.2.1, if_neg hkind.2.2]

/-- A check of text is refused without its selector or its text, and otherwise is one call. -/
theorem ExpectationRecord.actsOnce_of_parts {kind : String} (hrecord : record.kind = kind)
    (hkind : kind ∈ ["text", "notText"]) (make : String → String → Check)
    (hname : ∀ selector part, expectationCalls.lookup kind = some (make selector part).name)
    (hselector : ∀ selector part, (Call.expect (make selector part)).selector? = some selector)
    (htext : ∀ selector part, (Call.expect (make selector part)).text? = some part) :
    ActsOnce browser world record.treatment
      ((neededPart .selector kind record.selector >>= fun selector =>
        neededPart .value kind record.value >>= fun value =>
          Run.expect browser (make selector value)).outcome world) := by
  subst hrecord
  have hknown : record.kind ∈ expectationCalls.map Prod.fst ∧
      record.kind ∉ ["visible", "hidden", "count", "attribute"] ∧ record.kind ≠ "attribute" := by
    simp only [List.mem_cons, List.not_mem_nil, or_false] at hkind
    rcases hkind with h | h <;> rw [h] <;> decide
  have hpassed : ¬ record.PassedOver := fun h => h.elim (hknown.2.1 ·.1) (hknown.2.2 ·.1)
  have hrefusal : record.refusal? = _ := (if_neg (not_not_intro hknown.1)).trans (if_pos hkind)
  unfold neededPart
  cases hfilled : filled? record.selector with
  | none =>
    rw [if_pos (isMissing_iff.2 hfilled)] at hrefusal
    exact .of_refused rfl hrefusal hpassed fun _ _ => not_false
  | some selector =>
    rw [if_neg (not_isMissing_of_filled? hfilled)] at hrefusal
    cases hvalue : filled? record.value with
    | none =>
      rw [if_pos (isMissing_iff.2 hvalue)] at hrefusal
      exact .of_refused rfl hrefusal hpassed fun _ _ => not_false
    | some part =>
      rw [if_neg (not_isMissing_of_filled? hvalue)] at hrefusal
      refine .of_called (madeOne_expect (hname selector part) (fun other h => ?_)
        (fun text h => ?_)) hrefusal hpassed fun _ _ => not_false
      · rw [hselector, Option.some.injEq] at h
        exact h ▸ hfilled
      · rw [htext, Option.some.injEq] at h
        exact h ▸ getD_of_filled? hvalue

/-- A check of an element is passed over without the element, and otherwise goes on with it. -/
theorem ExpectationRecord.actsOnce_of_passingOver {next : String → Run σ Unit}
    (hkind : record.kind ∈ ["visible", "hidden", "count", "attribute"])
    (hnext : ∀ selector, filled? record.selector = some selector →
      ActsOnce browser world record.treatment ((next selector).outcome world)) :
    ActsOnce browser world record.treatment
      ((Run.passingOver record.selector next).outcome world) := by
  unfold Run.passingOver
  cases hselector : filled? record.selector with
  | some selector => exact hnext selector hselector
  | none =>
    have hmissing := isMissing_iff.2 hselector
    refine .of_passed rfl (refusal?_eq_none ?_) (.inl ⟨hkind, hmissing⟩) fun _ _ => not_false
    simp only [List.mem_cons, List.not_mem_nil, or_false] at hkind ⊢
    rcases hkind with h | h | h | h <;> simp [h, hmissing]

/-- The check of an address is one call. -/
theorem ExpectationRecord.actsOnce_of_url (hkind : record.kind = "url") :
    ActsOnce browser world record.treatment
      ((Run.expect browser (.url (record.value.getD ""))).outcome world) := by
  have hname : expectationCalls.lookup record.kind = some "expect_url" := by rw [hkind]; rfl
  have hrefusal : record.refusal? = none := refusal?_eq_none (by simp [hkind])
  have hpassed : ¬ record.PassedOver := by simp [PassedOver, hkind]
  exact .of_called (madeOne_expect hname (by simp [Call.selector?]) fun _ => Option.some.inj) hrefusal
    hpassed fun _ _ => not_false

/-- A check of an element by its selector alone is passed over or one call. -/
theorem ExpectationRecord.actsOnce_of_element {kind : String} (hrecord : record.kind = kind)
    (hkind : kind ∈ ["visible", "hidden"]) (make : String → Check)
    (hname : ∀ selector, expectationCalls.lookup kind = some (make selector).name)
    (hselector : ∀ selector, (Call.expect (make selector)).selector? = some selector)
    (htext : ∀ selector, (Call.expect (make selector)).text? = none) :
    ActsOnce browser world record.treatment ((Run.passingOver record.selector fun selector =>
      Run.expect browser (make selector)).outcome world) := by
  subst hrecord
  simp only [List.mem_cons, List.not_mem_nil, or_false] at hkind
  refine actsOnce_of_passingOver (by rcases hkind with h | h <;> simp [h]) fun selector hfilled => ?_
  have hrefusal : record.refusal? = none :=
    refusal?_eq_none (by rcases hkind with h | h <;> simp [h])
  have hpassed : ¬ record.PassedOver := by
    have hmissing := not_isMissing_of_filled? hfilled
    rcases hkind with h | h <;> simp [PassedOver, h, hmissing]
  refine .of_called (madeOne_expect (hname selector) (fun other h => ?_) (by simp [htext])) hrefusal
    hpassed fun _ _ => not_false
  rw [hselector, Option.some.injEq] at h
  exact h ▸ hfilled

/-- A check of an attribute is passed over without the element or the name, or it is one call. -/
theorem ExpectationRecord.actsOnce_of_attribute (hkind : record.kind = "attribute") :
    ActsOnce browser world record.treatment ((Run.passingOver record.selector fun selector =>
      Run.passingOver record.name fun name =>
        Run.expect browser (.hasAttribute selector name (record.value.getD ""))).outcome world) := by
  refine actsOnce_of_passingOver (by simp [hkind]) fun selector hselector => ?_
  have hrefusal : record.refusal? = none := refusal?_eq_none (by simp [hkind])
  unfold Run.passingOver
  cases hfilled : filled? record.name with
  | none =>
    exact .of_passed rfl hrefusal (.inr ⟨hkind, isMissing_iff.2 hfilled⟩) fun _ _ => not_false
  | some name =>
    have hname : expectationCalls.lookup record.kind = some "expect_attribute" := by
      rw [hkind]
      rfl
    have hpassed : ¬ record.PassedOver := by
      simp [PassedOver, not_isMissing_of_filled? hselector, not_isMissing_of_filled? hfilled]
    exact .of_called (madeOne_expect hname (fun other h => hselector.trans h) fun _ => Option.some.inj)
      hrefusal hpassed fun _ _ => not_false

/-- A check of a number of elements is passed over without a selector, refused for a number with
too many digits, or one call. -/
theorem ExpectationRecord.actsOnce_of_count (hkind : record.kind = "count") :
    ActsOnce browser world record.treatment ((Run.passingOver record.selector fun selector =>
      Run.ofExcept (integerField 0 record.value) >>= fun number =>
        Run.expect browser (.count selector number)).outcome world) := by
  refine actsOnce_of_passingOver (by simp [hkind]) fun selector hselector => ?_
  have hfilled := not_isMissing_of_filled? hselector
  have hrefusal : record.refusal? = unreadable? 0 record.value := by
    simp [refusal?, hkind, hfilled, expectationCalls]
  have hpassed : ¬ record.PassedOver := by simp [PassedOver, hkind, hfilled]
  unfold unreadable? at hrefusal
  cases hnumber : integerField 0 record.value with
  | error rejection =>
    rw [hnumber] at hrefusal
    exact .of_refused rfl hrefusal hpassed fun _ _ => not_false
  | ok number =>
    rw [hnumber] at hrefusal
    have hname : expectationCalls.lookup record.kind = some "expect_count" := by rw [hkind]; rfl
    exact .of_called (madeOne_expect hname (fun other h => hselector.trans h) (by simp [Call.text?]))
      hrefusal hpassed fun _ _ => not_false

/-- Every expectation acts once. -/
theorem ExpectationRecord.actsOnce (record : ExpectationRecord) :
    ActsOnce browser world record.treatment ((record.perform browser).outcome world) := by
  unfold ExpectationRecord.perform
  cases hexpectation : record.expectation? with
  | none =>
    have hkind : record.kind ∉ expectationCalls.map Prod.fst := by
      unfold expectation? at hexpectation
      split at hexpectation <;> simp_all [expectationCalls]
    refine .of_refused rfl (if_pos hkind) (fun h => ?_) fun _ _ => not_false
    rcases h with ⟨h, -⟩ | ⟨h, -⟩
    · simp only [List.mem_cons, List.not_mem_nil, or_false] at h
      rcases h with h | h | h | h <;> rw [h] at hkind <;> exact absurd hkind (by decide)
    · rw [h] at hkind
      exact absurd hkind (by decide)
  | some expectation =>
    unfold expectation? at hexpectation
    split at hexpectation <;> try obtain rfl := Option.some.inj hexpectation
    case h_1 hkind => exact actsOnce_of_url hkind
    case h_2 hkind =>
      exact actsOnce_of_parts hkind (by decide) .text (fun _ _ => rfl) (fun _ _ => rfl)
        fun _ _ => rfl
    case h_3 hkind =>
      exact actsOnce_of_parts hkind (by decide) .notText (fun _ _ => rfl) (fun _ _ => rfl)
        fun _ _ => rfl
    case h_4 hkind =>
      exact actsOnce_of_element hkind (by decide) .visible (fun _ => rfl) (fun _ => rfl)
        fun _ => rfl
    case h_5 hkind =>
      exact actsOnce_of_element hkind (by decide) .hidden (fun _ => rfl) (fun _ => rfl) fun _ => rfl
    case h_6 hkind =>
      simp only [Expectation.perform_hasAttribute]
      exact actsOnce_of_attribute hkind
    case h_7 hkind => exact actsOnce_of_count hkind
    case h_8 => exact nomatch hexpectation

end Expectations

/-- A number with too many digits is the only reason for which a field of digits is refused. -/
theorem exists_of_unreadable? {default : Int} {field : Option String} {rejection : Rejection}
    (h : unreadable? default field = some rejection) :
    ∃ refusal, rejection = .tooManyDigits refusal := by
  unfold unreadable? integerField at h
  cases hread : Number.leadingInteger default (field.getD "").toList with
  | ok number =>
    rw [hread] at h
    exact nomatch h
  | error refusal =>
    rw [hread] at h
    exact ⟨refusal, (Option.some.inj h).symm⟩

/-- A step is refused for its action exactly when the action is none of the known words. -/
theorem StepRecord.refusal?_unknown_iff (record : StepRecord) :
    record.refusal? = some (.unknownAction record.action) ↔
      record.action ∉ stepCalls.map Prod.fst := by
  refine ⟨fun h hknown => ?_, fun h => if_pos h⟩
  rw [refusal?, if_neg (not_not_intro hknown)] at h
  split at h
  · obtain ⟨refusal, h⟩ := exists_of_unreadable? h
    exact nomatch h
  · simp at h

/-- An expectation is refused for its kind exactly when the kind is none of the known words. -/
theorem ExpectationRecord.refusal?_unknown_iff (record : ExpectationRecord) :
    record.refusal? = some (.unknownExpectation record.kind) ↔
      record.kind ∉ expectationCalls.map Prod.fst := by
  refine ⟨fun h hknown => ?_, fun h => if_pos h⟩
  rw [refusal?, if_neg (not_not_intro hknown)] at h
  split at h
  · split at h
    · simp at h
    · simp at h
  · split at h
    · obtain ⟨refusal, h⟩ := exists_of_unreadable? h
      exact nomatch h
    · simp at h

/-- On every browser and in every world, every step and every expectation, read from a document or
given as a record, is dealt with as its word and its fields say: it is refused without any call, or
it acts once. The words are told apart exactly, and every other word is refused as unknown. -/
theorem record_acts_once (browser : Browser σ) (world : World σ) :
    (∀ record : StepRecord,
      ActsOnce browser world record.treatment ((record.perform browser).outcome world) ∧
        (((record.perform browser).outcome world).1 =
            .error (.rejected (.unknownAction record.action)) ↔
          record.action ∉ stepCalls.map Prod.fst)) ∧
      (∀ record : ExpectationRecord,
        ActsOnce browser world record.treatment ((record.perform browser).outcome world) ∧
          (((record.perform browser).outcome world).1 =
              .error (.rejected (.unknownExpectation record.kind)) ↔
            record.kind ∉ expectationCalls.map Prod.fst)) ∧
      (∀ step : Step,
        ActsOnce browser world step.record.treatment ((step.perform browser).outcome world)) ∧
      ∀ expectation : Expectation,
        ActsOnce browser world expectation.record.treatment
          ((expectation.perform browser).outcome world) := by
  refine ⟨fun record => ⟨record.actsOnce, ?_⟩, fun record => ⟨record.actsOnce, ?_⟩, fun step => ?_,
    fun expectation => ?_⟩
  · exact (record.actsOnce.refused_iff _).trans record.refusal?_unknown_iff
  · exact (record.actsOnce.refused_iff _).trans record.refusal?_unknown_iff
  · rw [← step.perform_record]
    exact step.record.actsOnce
  · rw [← expectation.perform_record]
    exact expectation.record.actsOnce

end BrowserScenario
