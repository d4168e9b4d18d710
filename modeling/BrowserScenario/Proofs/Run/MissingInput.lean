import BrowserScenario.Proofs.Run.Single
import BrowserScenario.Proofs.Scenario.Fieldwise

/-!
# Missing fields of resolved scenarios

What becomes of a record depends on which of its fields are missing: a part without which it is
refused, an element that is not named, a suppressing class that is not given, a text that is then
empty. Filling a field never makes it missing, and never fills in for a missing one. Main statement:
a resolved scenario has the same missing fields as the scenario itself, so on every browser its
records are refused for a missing part, passed over, looked at for their classes and given an empty
text exactly when those of the scenario itself are.
-/

namespace BrowserScenario

variable {σ : Type}

/-- The names of the calls that take a text. -/
def textCalls : List String := [
  "fill", "type_text", "select_option", "expect_url", "expect_text", "expect_not_text",
  "expect_attribute"]

/-- A run from a world makes a call with a property. -/
def Makes (world : World σ) (run : Except Failure Unit × World σ) (holds : Call → Prop) : Prop :=
  ∃ made, run.2.calls = world.calls ++ made ∧ ∃ call ∈ made, holds call

/-- A call asks for the classes of an element. -/
def Call.AsksForClasses (call : Call) : Prop :=
  ∃ selector, call = .classList selector

/-- A refusal of an integer with too many digits. -/
def Rejection.IsOfDigits (rejection : Rejection) : Prop :=
  ∃ refusal, rejection = .tooManyDigits refusal

/-- A step that is of the same action as another and misses the same fields. -/
structure StepRecord.MissesAlike (before after : StepRecord) : Prop where
  action_eq : after.action = before.action
  selector_iff : IsMissing after.selector ↔ IsMissing before.selector
  value_iff : IsMissing after.value ↔ IsMissing before.value
  skipClass_iff : IsMissing after.skipClass ↔ IsMissing before.skipClass

/-- An expectation that is of the same kind as another and misses the same fields. -/
structure ExpectationRecord.MissesAlike (before after : ExpectationRecord) : Prop where
  kind_eq : after.kind = before.kind
  selector_iff : IsMissing after.selector ↔ IsMissing before.selector
  name_iff : IsMissing after.name ↔ IsMissing before.name
  value_iff : IsMissing after.value ↔ IsMissing before.value

/-- Two runs of one record that meet the same policy on missing fields: they are refused for the
same reasons, other than too many digits; both are passed over, or neither is; both ask for classes,
or neither does; and both give a call an empty text, or neither does. -/
structure TreatedAlike (world : World σ) (first second : Except Failure Unit × World σ) :
    Prop where
  refused_iff : ∀ rejection : Rejection, ¬ rejection.IsOfDigits →
    (second.1 = .error (.rejected rejection) ↔ first.1 = .error (.rejected rejection))
  passed_iff : second = (.ok (), world) ↔ first = (.ok (), world)
  classes_iff : Makes world second Call.AsksForClasses ↔ Makes world first Call.AsksForClasses
  emptied_iff : Makes world second (fun call => call.text? = some "") ↔
    Makes world first fun call => call.text? = some ""

/-- What a run makes is among the calls by which it goes on. -/
theorem makes_iff {world : World σ} {run : Except Failure Unit × World σ} {made : List Call}
    {holds : Call → Prop} (h : run.2.calls = world.calls ++ made) :
    Makes world run holds ↔ ∃ call ∈ made, holds call := by
  refine ⟨fun ⟨others, hothers, hcall⟩ => ?_, fun hcall => ⟨made, h, hcall⟩⟩
  obtain rfl : others = made := List.append_cancel_left (hothers.symm.trans h)
  exact hcall

/-- A run that stays in its world makes no call. -/
theorem not_makes_self {world : World σ} {run : Except Failure Unit × World σ}
    {holds : Call → Prop} (h : run.2 = world) : ¬ Makes world run holds := by
  have hcalls : run.2.calls = world.calls ++ [] := by rw [h, List.append_nil]
  rw [makes_iff hcalls]
  simp

/-- The calls that take a text are told by their names. -/
theorem Primitive.text?_eq_none_iff (call : Primitive) :
    call.call.text? = none ↔ call.call.name ∉ textCalls := by
  cases call with
  | interact interaction => cases interaction <;> simp [Primitive.call, Call.text?, Call.name,
      Interaction.name, textCalls]
  | expect check => cases check <;> simp [Primitive.call, Call.text?, Call.name, Check.name,
      textCalls]
  | classList selector => simp [Primitive.call, Call.text?, Call.name, textCalls]

/-- A record that is one call: it is not refused, not passed over, and no class may suppress it. -/
structure Treatment.IsCalled (treatment : Treatment) : Prop where
  refusal?_eq : treatment.refusal? = none
  not_passedOver : ¬ treatment.passedOver
  not_guards : ∀ selector skipClass, ¬ treatment.guards selector skipClass

/-- A record that is one call, and one that takes the missing text of the record. -/
structure Treatment.Empties (treatment : Treatment) : Prop where
  called : treatment.IsCalled
  name_mem : ∃ name ∈ textCalls, treatment.name? = some name
  isMissing : IsMissing treatment.value

/-- Two records that are treated alike: what tells how one is dealt with tells it of the other. -/
structure Treatment.Alike (first second : Treatment) : Prop where
  refusal_iff : ∀ rejection : Rejection, ¬ rejection.IsOfDigits →
    (second.refusal? = some rejection ↔ first.refusal? = some rejection)
  passed_iff : second.passedOver ↔ first.passedOver
  guards_iff : (∃ selector skipClass, second.guards selector skipClass) ↔
    ∃ selector skipClass, first.guards selector skipClass
  empties_iff : second.Empties ↔ first.Empties

/-- The ways in which a record may be dealt with. -/
inductive Way (browser : Browser σ) (world : World σ) (treatment : Treatment)
    (run : Except Failure Unit × World σ) : Prop
  | refused (rejection : Rejection) (hanswer : run.1 = .error (.rejected rejection))
    (hworld : run.2 = world)
  | passed (hpassed : treatment.passedOver) (hworld : run.2 = world)
  | guarded (selector skipClass : String) (hguards : treatment.guards selector skipClass)
    (hclick : GuardedClick browser world selector skipClass run)
  | called (hcalled : treatment.IsCalled) (call : Primitive)
    (hmade : MadeOne browser world treatment call run)

section Ways

variable {browser : Browser σ} {world : World σ} {treatment : Treatment}
  {run : Except Failure Unit × World σ}

/-- A click that a class may suppress asks for classes, and gives no call a text. -/
theorem GuardedClick.exists_made {selector skipClass : String}
    (h : GuardedClick browser world selector skipClass run) :
    ∃ made, run.2.calls = world.calls ++ made ∧ .classList selector ∈ made ∧
      ∀ call ∈ made, call.text? = none := by
  cases h with
  | untold incident _ hcalls _ => exact ⟨_, hcalls, by simp, by simp [Call.text?]⟩
  | suppressed classes _ _ hcalls _ => exact ⟨_, hcalls, by simp, by simp [Call.text?]⟩
  | clicked classes _ _ hcalls _ => exact ⟨_, hcalls, by simp, by simp [Call.text?]⟩

/-- A record that acts once is dealt with in one of the ways. -/
theorem ActsOnce.way (h : ActsOnce browser world treatment run) :
    Way browser world treatment run := by
  cases hrefusal : treatment.refusal? with
  | some rejection =>
    have hanswer := (h.refused_iff rejection).2 hrefusal
    exact .refused rejection hanswer (h.unchanged rejection hanswer)
  | none =>
    by_cases hpassed : treatment.passedOver
    · exact .passed hpassed (congrArg Prod.snd (h.passed hpassed))
    · by_cases hguards : ∃ selector skipClass, treatment.guards selector skipClass
      · obtain ⟨selector, skipClass, hguards⟩ := hguards
        exact .guarded selector skipClass hguards (h.guarded selector skipClass hguards)
      · have hguards : ∀ selector skipClass, ¬ treatment.guards selector skipClass :=
          fun selector skipClass hguard => hguards ⟨selector, skipClass, hguard⟩
        obtain ⟨call, hmade⟩ := h.called hrefusal hpassed hguards
        exact .called ⟨hrefusal, hpassed, hguards⟩ call hmade

/-- A record is passed over exactly when its treatment says so. -/
theorem ActsOnce.passed_iff (h : ActsOnce browser world treatment run) :
    run = (.ok (), world) ↔ treatment.passedOver := by
  refine ⟨fun hrun => ?_, h.passed⟩
  have hcalls : run.2.calls = world.calls := by rw [hrun]
  cases h.way with
  | refused rejection hanswer _ =>
    rw [hrun] at hanswer
    exact nomatch hanswer
  | passed hpassed _ => exact hpassed
  | guarded selector skipClass _ hclick =>
    obtain ⟨made, hmade, hmem, -⟩ := hclick.exists_made
    obtain rfl : made = [] := List.append_right_eq_self.1 (hmade.symm.trans hcalls)
    exact absurd hmem List.not_mem_nil
  | called _ call hmade =>
    exact absurd (hmade.calls_eq.symm.trans hcalls) (by simp)

/-- A record asks for classes exactly when a class may suppress it. -/
theorem ActsOnce.asks_iff (h : ActsOnce browser world treatment run)
    (hname : treatment.name? ≠ some "class_list") :
    Makes world run Call.AsksForClasses ↔
      ∃ selector skipClass, treatment.guards selector skipClass := by
  refine ⟨fun hasks => ?_, fun ⟨selector, skipClass, hguards⟩ => ?_⟩
  · cases h.way with
    | refused rejection _ hworld => exact absurd hasks (not_makes_self hworld)
    | passed _ hworld => exact absurd hasks (not_makes_self hworld)
    | guarded selector skipClass hguards _ => exact ⟨selector, skipClass, hguards⟩
    | called _ call hmade =>
      obtain ⟨asked, hasked, selector, rfl⟩ := (makes_iff hmade.calls_eq).1 hasks
      have hcall : call.call.name = "class_list" := by rw [← List.mem_singleton.1 hasked]; rfl
      exact absurd (hcall ▸ hmade.name_eq) hname
  · obtain ⟨made, hmade, hmem, -⟩ := (h.guarded selector skipClass hguards).exists_made
    exact ⟨made, hmade, _, hmem, selector, rfl⟩

/-- A record gives a call an empty text exactly when its treatment says so. -/
theorem ActsOnce.empties_iff (h : ActsOnce browser world treatment run) :
    Makes world run (fun call => call.text? = some "") ↔ treatment.Empties := by
  refine ⟨fun hemptied => ?_, fun hempties => ?_⟩
  · cases h.way with
    | refused rejection _ hworld => exact absurd hemptied (not_makes_self hworld)
    | passed _ hworld => exact absurd hemptied (not_makes_self hworld)
    | guarded selector skipClass _ hclick =>
      obtain ⟨made, hmade, -, hnone⟩ := hclick.exists_made
      obtain ⟨call, hcall, htext⟩ := (makes_iff hmade).1 hemptied
      rw [hnone call hcall] at htext
      exact nomatch htext
    | called hcalled call hmade =>
      obtain ⟨emptied, hmem, htext⟩ := (makes_iff hmade.calls_eq).1 hemptied
      rw [List.mem_singleton.1 hmem] at htext
      have hname : call.call.name ∈ textCalls := by
        by_contra hname
        rw [call.text?_eq_none_iff.2 hname] at htext
        exact nomatch htext
      exact ⟨hcalled, ⟨_, hname, hmade.name_eq⟩, isMissing_iff_getD.2 (hmade.text_eq "" htext)⟩
  · obtain ⟨⟨hrefusal, hpassed, hguards⟩, ⟨name, hname, hlookup⟩, hmissing⟩ := hempties
    obtain ⟨call, hmade⟩ := h.called hrefusal hpassed hguards
    obtain rfl : name = call.call.name := Option.some.inj (hlookup.symm.trans hmade.name_eq)
    obtain ⟨text, htext⟩ := Option.ne_none_iff_exists'.1 fun hnone =>
      call.text?_eq_none_iff.1 hnone hname
    obtain rfl : "" = text := (isMissing_iff_getD.1 hmissing).symm.trans (hmade.text_eq text htext)
    exact ⟨_, hmade.calls_eq, call.call, List.mem_singleton_self _, htext⟩

/-- Records that are treated alike meet the same policy. -/
theorem ActsOnce.treatedAlike {other : Treatment} {second : Except Failure Unit × World σ}
    (hfirst : ActsOnce browser world treatment run)
    (hsecond : ActsOnce browser world other second) (h : treatment.Alike other)
    (hname : treatment.name? ≠ some "class_list") (hother : other.name? ≠ some "class_list") :
    TreatedAlike world run second where
  refused_iff rejection hdigits := by
    rw [hfirst.refused_iff, hsecond.refused_iff]
    exact h.refusal_iff rejection hdigits
  passed_iff := by
    rw [hfirst.passed_iff, hsecond.passed_iff]
    exact h.passed_iff
  classes_iff := by
    rw [hfirst.asks_iff hname, hsecond.asks_iff hother]
    exact h.guards_iff
  emptied_iff := by
    rw [hfirst.empties_iff, hsecond.empties_iff]
    exact h.empties_iff

end Ways

/-- What is looked up in a table is one of its entries. -/
theorem mem_of_lookup {table : List (String × String)} {word name : String}
    (h : table.lookup word = some name) : (word, name) ∈ table := by
  obtain ⟨before, after, rfl, -⟩ := List.lookup_eq_some_iff.1 h
  exact List.mem_append_right _ List.mem_cons_self

section Steps

variable {record before after : StepRecord}

/-- A class may suppress a step exactly when it is a click with both a selector and the class. -/
theorem StepRecord.exists_guards_iff :
    (∃ selector skipClass, record.Guards selector skipClass) ↔
      record.action = "click" ∧ ¬ IsMissing record.selector ∧ ¬ IsMissing record.skipClass := by
  rw [← exists_filled?_iff, ← exists_filled?_iff]
  constructor
  · rintro ⟨selector, skipClass, haction, hselector, hskipClass⟩
    exact ⟨haction, ⟨selector, hselector⟩, skipClass, hskipClass⟩
  · rintro ⟨haction, ⟨selector, hselector⟩, skipClass, hskipClass⟩
    exact ⟨selector, skipClass, haction, hselector, hskipClass⟩

/-- A step that takes a text is refused exactly without its selector. -/
theorem StepRecord.refusal?_of_text (haction : record.action ∈ ["fill", "type", "select"]) :
    record.refusal? = none ↔ ¬ IsMissing record.selector := by
  simp only [List.mem_cons, List.not_mem_nil, or_false] at haction
  rcases haction with h | h | h <;> simp [refusal?, h, stepCalls]

/-- A step enters or chooses the empty text exactly when it is to enter or choose a text, has a
selector, and its text is missing. -/
theorem StepRecord.empties_iff :
    record.treatment.Empties ↔
      record.action ∈ ["fill", "type", "select"] ∧ ¬ IsMissing record.selector ∧
        IsMissing record.value := by
  constructor
  · rintro ⟨⟨hrefusal, -, -⟩, ⟨name, hname, hlookup⟩, hmissing⟩
    have hwords : ∀ entry ∈ stepCalls, entry.2 ∈ textCalls → entry.1 ∈ ["fill", "type", "select"] := by
      decide
    have haction : record.action ∈ ["fill", "type", "select"] :=
      hwords _ (mem_of_lookup hlookup) hname
    exact ⟨haction, (refusal?_of_text haction).1 hrefusal, hmissing⟩
  · rintro ⟨haction, hselector, hmissing⟩
    have hrefusal := (refusal?_of_text haction).2 hselector
    have hwords : ∀ word ∈ ["fill", "type", "select"], word ≠ "click" ∧
        ∃ name ∈ textCalls, stepCalls.lookup word = some name := by
      decide
    obtain ⟨hclick, hname⟩ := hwords _ haction
    exact ⟨⟨hrefusal, not_false, fun _ _ hguards => hclick hguards.1⟩, hname, hmissing⟩

/-- Steps that miss the same fields are refused for the same reasons, but for those of digits. -/
theorem StepRecord.MissesAlike.refusal_iff (h : before.MissesAlike after) {rejection : Rejection}
    (hdigits : ¬ rejection.IsOfDigits) :
    after.refusal? = some rejection ↔ before.refusal? = some rejection := by
  simp only [StepRecord.refusal?, h.action_eq, h.selector_iff]
  by_cases hknown : before.action ∉ stepCalls.map Prod.fst
  · rw [if_pos hknown, if_pos hknown]
  · rw [if_neg hknown, if_neg hknown]
    by_cases hwait : before.action = "wait"
    · rw [if_pos hwait, if_pos hwait]
      exact ⟨fun h => absurd (exists_of_unreadable? h) hdigits,
        fun h => absurd (exists_of_unreadable? h) hdigits⟩
    · rw [if_neg hwait, if_neg hwait]

/-- Steps that miss the same fields are treated alike. -/
theorem StepRecord.MissesAlike.alike (h : before.MissesAlike after) :
    before.treatment.Alike after.treatment where
  refusal_iff _ hdigits := h.refusal_iff hdigits
  passed_iff := Iff.rfl
  guards_iff := by
    change (∃ selector skipClass, after.Guards selector skipClass) ↔
      ∃ selector skipClass, before.Guards selector skipClass
    rw [exists_guards_iff, exists_guards_iff, h.action_eq, h.selector_iff, h.skipClass_iff]
  empties_iff := by
    rw [empties_iff, empties_iff, h.action_eq, h.selector_iff, h.value_iff]

/-- No step is the question for classes alone. -/
theorem StepRecord.name?_ne : record.treatment.name? ≠ some "class_list" := by
  intro hname
  have hnames : ∀ entry ∈ stepCalls, entry.2 ≠ "class_list" := by decide
  exact hnames _ (mem_of_lookup hname) rfl

/-- Steps that miss the same fields meet the same policy. -/
theorem StepRecord.MissesAlike.treatedAlike (h : before.MissesAlike after) (browser : Browser σ)
    (world : World σ) :
    TreatedAlike world ((before.perform browser).outcome world)
      ((after.perform browser).outcome world) :=
  before.actsOnce.treatedAlike after.actsOnce h.alike name?_ne name?_ne

end Steps

section Expectations

variable {record before after : ExpectationRecord}

/-- A check of text that is not refused has its text. -/
theorem ExpectationRecord.not_isMissing_value (hkind : record.kind ∈ ["text", "notText"])
    (hrefusal : record.refusal? = none) : ¬ IsMissing record.value := by
  intro hmissing
  have hknown : ∀ kind ∈ ["text", "notText"], kind ∈ expectationCalls.map Prod.fst := by decide
  rw [refusal?, if_neg (not_not_intro (hknown _ hkind)), if_pos hkind, if_pos hmissing] at hrefusal
  by_cases hselector : IsMissing record.selector
  · rw [if_pos hselector] at hrefusal
    exact absurd hrefusal (Option.some_ne_none _)
  · rw [if_neg hselector] at hrefusal
    exact absurd hrefusal (Option.some_ne_none _)

/-- A check is of the empty text exactly when it is of an address or of an attribute that it names
with its element, and its text is missing. -/
theorem ExpectationRecord.empties_iff :
    record.treatment.Empties ↔
      (record.kind = "url" ∨
        record.kind = "attribute" ∧ ¬ IsMissing record.selector ∧ ¬ IsMissing record.name) ∧
        IsMissing record.value := by
  constructor
  · rintro ⟨⟨hrefusal, hpassed, -⟩, ⟨name, hname, hlookup⟩, hmissing⟩
    have hwords : ∀ entry ∈ expectationCalls, entry.2 ∈ textCalls →
        entry.1 ∈ ["text", "notText"] ∨ entry.1 = "url" ∨ entry.1 = "attribute" := by
      decide
    have hkinds : record.kind ∈ ["text", "notText"] ∨ record.kind = "url" ∨
        record.kind = "attribute" := hwords _ (mem_of_lookup hlookup) hname
    refine ⟨?_, hmissing⟩
    rcases hkinds with hkind | hkind | hkind
    · exact absurd hmissing (not_isMissing_value hkind hrefusal)
    · exact .inl hkind
    · refine .inr ⟨hkind, fun hselector => hpassed (.inl ⟨?_, hselector⟩), fun hname =>
        hpassed (.inr ⟨hkind, hname⟩)⟩
      rw [hkind]
      decide
  · rintro ⟨hkind, hmissing⟩
    have hpassed : ¬ record.PassedOver := by
      rcases hkind with hkind | ⟨hkind, hselector, hname⟩
      · simp [PassedOver, hkind]
      · simp [PassedOver, hselector, hname]
    have hwords : ∀ word ∈ ["url", "attribute"], word ∈ ["url", "visible", "hidden", "attribute"] ∧
        ∃ name ∈ textCalls, expectationCalls.lookup word = some name := by
      decide
    have hmem : record.kind ∈ ["url", "attribute"] := by
      rcases hkind with hkind | ⟨hkind, -, -⟩ <;> simp [hkind]
    obtain ⟨hknown, hname⟩ := hwords _ hmem
    exact ⟨⟨refusal?_eq_none (.inl hknown), hpassed, fun _ _ => not_false⟩, hname, hmissing⟩

/-- Expectations that miss the same fields are refused for the same reasons, but for those of
digits. -/
theorem ExpectationRecord.MissesAlike.refusal_iff (h : before.MissesAlike after)
    {rejection : Rejection} (hdigits : ¬ rejection.IsOfDigits) :
    after.refusal? = some rejection ↔ before.refusal? = some rejection := by
  simp only [ExpectationRecord.refusal?, h.kind_eq, h.selector_iff, h.value_iff]
  by_cases hknown : before.kind ∉ expectationCalls.map Prod.fst
  · rw [if_pos hknown, if_pos hknown]
  · rw [if_neg hknown, if_neg hknown]
    by_cases htext : before.kind ∈ ["text", "notText"]
    · rw [if_pos htext, if_pos htext]
    · rw [if_neg htext, if_neg htext]
      by_cases hcount : before.kind = "count" ∧ ¬ IsMissing before.selector
      · rw [if_pos hcount, if_pos hcount]
        exact ⟨fun h => absurd (exists_of_unreadable? h) hdigits,
          fun h => absurd (exists_of_unreadable? h) hdigits⟩
      · rw [if_neg hcount, if_neg hcount]

/-- Expectations that miss the same fields are treated alike. -/
theorem ExpectationRecord.MissesAlike.alike (h : before.MissesAlike after) :
    before.treatment.Alike after.treatment where
  refusal_iff _ hdigits := h.refusal_iff hdigits
  passed_iff := by
    change after.PassedOver ↔ before.PassedOver
    unfold ExpectationRecord.PassedOver
    rw [h.kind_eq, h.selector_iff, h.name_iff]
  guards_iff := Iff.rfl
  empties_iff := by
    rw [empties_iff, empties_iff, h.kind_eq, h.selector_iff, h.name_iff, h.value_iff]

/-- No expectation is a question for classes. -/
theorem ExpectationRecord.name?_ne : record.treatment.name? ≠ some "class_list" := by
  intro hname
  have hnames : ∀ entry ∈ expectationCalls, entry.2 ≠ "class_list" := by decide
  exact hnames _ (mem_of_lookup hname) rfl

/-- Expectations that miss the same fields meet the same policy. -/
theorem ExpectationRecord.MissesAlike.treatedAlike (h : before.MissesAlike after)
    (browser : Browser σ) (world : World σ) :
    TreatedAlike world ((before.perform browser).outcome world)
      ((after.perform browser).outcome world) :=
  before.actsOnce.treatedAlike after.actsOnce h.alike name?_ne name?_ne

end Expectations

section Resolved

variable {values : Variables}

/-- A step misses the same fields once these are filled. -/
theorem StepRecord.Filled.missesAlike {before after : StepRecord}
    (h : StepRecord.Filled values before after) : before.MissesAlike after :=
  ⟨h.action_eq, h.selector.isMissing_iff, h.value.isMissing_iff, h.skipClass.isMissing_iff⟩

/-- An expectation misses the same fields once these are filled. -/
theorem ExpectationRecord.Filled.missesAlike {before after : ExpectationRecord}
    (h : ExpectationRecord.Filled values before after) : before.MissesAlike after :=
  ⟨h.kind_eq, h.selector.isMissing_iff, by rw [h.name_eq], h.value.isMissing_iff⟩

/-- The steps of a resolved scenario miss the same fields as those of the scenario itself. -/
theorem Scenario.steps_missAlike {scenario resolved : Scenario}
    (hresolve : scenario.resolve values = .ok resolved) :
    List.Forall₂ (fun step result => step.record.MissesAlike result.record) scenario.steps
      resolved.steps := by
  rcases resolve_cases hresolve with ⟨-, rfl⟩ | ⟨hvalues, -⟩
  · exact List.forall₂_same.2 fun _ _ => ⟨rfl, Iff.rfl, Iff.rfl, Iff.rfl⟩
  · exact (filled_of_resolve hvalues hresolve).steps.imp fun _ _ h => h.missesAlike

/-- The expectations of a resolved scenario miss the same fields as those of the scenario itself. -/
theorem Scenario.expectations_missAlike {scenario resolved : Scenario}
    (hresolve : scenario.resolve values = .ok resolved) :
    List.Forall₂ (fun expectation result => expectation.record.MissesAlike result.record)
      scenario.expectations resolved.expectations := by
  rcases resolve_cases hresolve with ⟨-, rfl⟩ | ⟨hvalues, -⟩
  · exact List.forall₂_same.2 fun _ _ => ⟨rfl, Iff.rfl, Iff.rfl, Iff.rfl⟩
  · exact (filled_of_resolve hvalues hresolve).expectations.imp fun _ _ h => h.missesAlike

end Resolved

/-- The steps and the expectations of a resolved scenario miss the same fields as those of the
scenario itself, one by one, and on every browser and in every world they meet the same policy. -/
theorem resolve_keeps_missing {values : Variables} {scenario resolved : Scenario}
    (hresolve : scenario.resolve values = .ok resolved) :
    List.Forall₂ (fun step result => step.record.MissesAlike result.record ∧
        ∀ {σ : Type} (browser : Browser σ) (world : World σ),
          TreatedAlike world ((step.perform browser).outcome world)
            ((result.perform browser).outcome world))
      scenario.steps resolved.steps ∧
    List.Forall₂ (fun expectation result => expectation.record.MissesAlike result.record ∧
        ∀ {σ : Type} (browser : Browser σ) (world : World σ),
          TreatedAlike world ((expectation.perform browser).outcome world)
            ((result.perform browser).outcome world))
      scenario.expectations resolved.expectations := by
  constructor
  · refine (Scenario.steps_missAlike hresolve).imp fun step result h => ⟨h, fun browser world => ?_⟩
    rw [← step.perform_record, ← result.perform_record]
    exact h.treatedAlike browser world
  · refine (Scenario.expectations_missAlike hresolve).imp
      fun expectation result h => ⟨h, fun browser world => ?_⟩
    rw [← expectation.perform_record, ← result.perform_record]
    exact h.treatedAlike browser world

/-- One variable, which stands for a word. -/
def oneWord : Variables := ⟨[("A", "menu")]⟩

/-- A scenario in which fields are missing next to fields with markers: a click that a class may
suppress, a text that is absent, an element that is empty, a part that is absent. -/
def blankFields : Scenario where
  id := "1"
  name := "blank"
  url := "/$\x7bA\x7d"
  steps := [.click (some "#$\x7bA\x7d") (some "$\x7bA\x7d"), .fill (some "$\x7bA\x7d") none]
  expectations := [.visible (some ""), .text (some "$\x7bA\x7d") none]
  tags := []

/-- The scenario with missing fields once the others were filled. -/
def blankFieldsFilled : Scenario where
  id := "1"
  name := "blank"
  url := "/menu"
  steps := [.click (some "#menu") (some "menu"), .fill (some "menu") none]
  expectations := [.visible (some ""), .text (some "menu") none]
  tags := []

/-- The fields that are missing stay missing, and on every browser the text that is absent is empty
for the step as it is written and as it is resolved. -/
theorem resolve_keeps_missing_blankFields :
    blankFields.resolve oneWord = .ok blankFieldsFilled ∧
      List.Forall₂ (fun step result => step.record.MissesAlike result.record)
        blankFields.steps blankFieldsFilled.steps ∧
      List.Forall₂ (fun expectation result => expectation.record.MissesAlike result.record)
        blankFields.expectations blankFieldsFilled.expectations ∧
      ∀ {σ : Type} (browser : Browser σ) (world : World σ),
        TreatedAlike world (((Step.fill (some "$\x7bA\x7d") none).perform browser).outcome world)
          (((Step.fill (some "menu") none).perform browser).outcome world) := by
  have hresolve : blankFields.resolve oneWord = .ok blankFieldsFilled := by decide +kernel
  obtain ⟨hsteps, hexpectations⟩ := resolve_keeps_missing hresolve
  obtain ⟨-, hfill⟩ := List.forall₂_cons.1 hsteps
  obtain ⟨⟨-, htreated⟩, -⟩ := List.forall₂_cons.1 hfill
  exact ⟨hresolve, hsteps.imp fun _ _ h => h.1, hexpectations.imp fun _ _ h => h.1, htreated⟩

end BrowserScenario
