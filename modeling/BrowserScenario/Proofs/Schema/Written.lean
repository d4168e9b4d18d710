import BrowserScenario.Proofs.Data.Member
import BrowserScenario.Proofs.Schema.Accepted

/-!
# Scenarios written back as documents

Scenarios are written back as a document in which every record has all fields of its kind, those
that are absent as nulls, and in which delays are the numbers that are held. How the document looks
is left open where reading it does not tell: the order of the members of an object, the order of
tags, and which name is taken where a field or the list of scenarios may have either of two. Main
statement: however the scenarios of an accepted document are written back, the result is accepted and
holds the same scenarios. This rests on what reading makes of its input: a number that is given for
a text is held as its text, tags are held in order without repetition, and a delay is held as a
floating point number that is not below zero.
-/

namespace BrowserScenario.Schema

open BrowserScenario.Time

variable {data : Data} {members : Members} {fields : List (List String)}
  {texts : List (Option String)} {written : List (String × Data)}

/-- What a text is written as: null when it is absent. -/
def writtenText : Option String → Data
  | some text => .text text
  | none => .null

/-- What a delay is written as: the number that is held, or null when it is absent. -/
def writtenDelay : Option Duration → Data
  | some delay => delay.data
  | none => .null

/-- An object with certain members and no others, in any order. -/
def IsObject (fields : List (String × Data)) (data : Data) : Prop :=
  ∃ members, data = .map members ∧
    members.Perm (fields.map fun field => (Data.text field.1, field.2))

/-- Members for the text fields of a record, each under one of its names. -/
inductive TextsWritten : List (List String) → List (Option String) → List (String × Data) → Prop
  | nil : TextsWritten [] [] []
  | cons {name : String} {names : List String} {fields : List (List String)}
    {text : Option String} {texts : List (Option String)} {written : List (String × Data)}
    (hname : name ∈ names) (h : TextsWritten fields texts written) :
    TextsWritten (names :: fields) (text :: texts) ((name, writtenText text) :: written)

/-- A record that is written back: its kind under the name of the discriminator, its text fields,
and some more members. -/
def RecordWritten (table : FieldTable) (discriminator kind : String) (texts : List (Option String))
    (more : List (String × Data)) (data : Data) : Prop :=
  ∃ fields written, (kind, fields) ∈ table ∧ TextsWritten fields texts written ∧
    IsObject ((discriminator, .text kind) :: (written ++ more)) data

/-- The member for the delay of a step, if its action has one. -/
def delayMember (step : Step) : List (String × Data) :=
  if step.action = "type" then [("delay", writtenDelay (stepDelay? step))] else []

/-- A step that is written back. -/
def StepWritten (step : Step) (data : Data) : Prop :=
  RecordWritten stepFields "action" step.action (stepTexts step) (delayMember step) data

/-- An expectation that is written back. -/
def ExpectationWritten (expectation : Expectation) (data : Data) : Prop :=
  RecordWritten expectationFields "type" expectation.kind (expectationTexts expectation) [] data

/-- A scenario that is written back, with its tags in any order. -/
def ScenarioWritten (scenario : Scenario) (data : Data) : Prop :=
  ∃ steps expectations, ∃ tags : List String, List.Forall₂ StepWritten scenario.steps steps ∧
    List.Forall₂ ExpectationWritten scenario.expectations expectations ∧
    tags.Perm scenario.tags ∧
    IsObject [("id", .text scenario.id), ("name", .text scenario.name), ("url", .text scenario.url),
      ("steps", .list steps), ("expectations", .list expectations),
      ("tags", .list (tags.map .text))] data

/-- Scenarios that are written back as a document, under either name of the list. -/
def DocumentWritten (scenarios : List Scenario) (data : Data) : Prop :=
  ∃ listName ∈ listNames, ∃ records, List.Forall₂ ScenarioWritten scenarios records ∧
    IsObject [(listName, .list records)] data

/-- A delay as it is held after reading: a floating point number that is not below zero. -/
def IsHeld (delay : Duration) : Prop :=
  ∃ number, delay = .floating number ∧ number.isNonnegative = true

/-- A scenario as it is held after reading. -/
structure Held (scenario : Scenario) : Prop where
  delays : ∀ step ∈ scenario.steps, ∀ delay, step.record.delay = some delay → IsHeld delay
  tags_increasing : scenario.tags.Pairwise (· < ·)

/-- Tags in any order give the tags that are held. -/
theorem tagSet_eq_of_perm {order tags : List String} (htags : tags.Pairwise (· < ·))
    (h : order.Perm tags) : tagSet order = tags := by
  have hnodup {tags : List String} (htags : tags.Pairwise (· < ·)) : tags.Nodup := by
    refine List.Pairwise.imp (fun {a b} hlt heq => ?_) htags
    subst heq
    exact String.lt_irrefl a hlt
  have hsame : (tagSet order).Perm tags := by
    rw [List.perm_ext_iff_of_nodup (hnodup (tagSet_increasing order)) (hnodup htags)]
    intro tag
    rw [mem_tagSet, h.mem_iff]
  refine hsame.eq_of_pairwise (fun a b _ _ hab hba => ?_) (tagSet_increasing order) htags
  exact absurd (String.lt_trans hab hba) (String.lt_irrefl a)

/-- A delay that is accepted is held as a floating point number that is not below zero. -/
theorem optionalDelay_ensures_isHeld :
    Ensures optionalDelay fun field => ∀ delay, field = some delay → IsHeld delay := by
  intro data field h
  unfold optionalDelay at h
  split at h
  · obtain rfl : none = field := Checked.valid.inj h
    exact fun delay hdelay => nomatch hdelay
  · obtain ⟨number, hnumber, rfl⟩ := (Checked.map_eq_valid_iff _ _ _).1 h
    intro delay hdelay
    exact ⟨number, (Option.some.inj hdelay).symm, (nonnegative_eq_valid_iff.1 hnumber).2⟩

/-- Tags that are accepted are held in order. -/
theorem tags_ensures : Ensures tags fun tags => tags.Pairwise (· < ·) := by
  intro data value h
  unfold tags at h
  split at h
  · obtain ⟨texts, -, rfl⟩ := (Checked.map_eq_valid_iff _ _ _).1 h
    exact tagSet_increasing texts
  · exact absurd h (Checked.fail_ne_valid _ _)

/-- A scenario that is accepted is held as reading makes it. -/
theorem scenario_ensures_held : Ensures scenario Held := by
  intro data value h
  obtain ⟨members, -, -, -, -, -, -, htags⟩ := scenario_eq_valid_iff.1 h
  exact ⟨optionalDelay_ensures_isHeld.step.scenario_steps data value h,
    tags_ensures.withDefault "tags" .nil members value.tags htags⟩

/-- The members of an object are found under their names, and nothing is found under any other
name. -/
theorem IsObject.exists_members (h : IsObject written data)
    (hnames : (written.map Prod.fst).Nodup) :
    ∃ members, data = .map members ∧
      (∀ field ∈ written, Data.member? field.1 members = some field.2) ∧
      ∀ name, name ∉ written.map Prod.fst → Data.member? name members = none := by
  obtain ⟨members, rfl, hperm⟩ := h
  have hkeys : (members.map Prod.fst).Perm ((written.map Prod.fst).map Data.text) := by
    simpa [Function.comp_def] using hperm.map Prod.fst
  have htext : Function.Injective Data.text := fun a b hab => Data.text.inj hab
  have hnodup : (members.map Prod.fst).Nodup := hkeys.nodup_iff.2 (hnames.map htext)
  refine ⟨members, rfl, fun field hfield => ?_, fun name hname => ?_⟩
  · refine Data.member?_eq_some hnodup (hperm.mem_iff.2 ?_)
    exact List.mem_map_of_mem hfield
  · refine Data.member?_eq_none fun hmem => ?_
    obtain ⟨other, hother, heq⟩ := List.mem_map.1 (hkeys.mem_iff.1 hmem)
    exact hname (Data.text.inj heq ▸ hother)

/-- An object is decoded JSON when the values of its members are. -/
theorem IsObject.isJson (h : IsObject written data) (hvalues : ∀ field ∈ written, field.2.IsJson) :
    data.IsJson := by
  obtain ⟨members, rfl, hperm⟩ := h
  have hentry : ∀ entry ∈ members, ∃ field ∈ written, (Data.text field.1, field.2) = entry :=
    fun entry hmem => List.mem_map.1 (hperm.mem_iff.1 hmem)
  rw [Data.isJson_map_iff]
  constructor
  · intro entry hmem
    obtain ⟨field, -, rfl⟩ := hentry entry hmem
    exact ⟨field.1, rfl⟩
  · intro entry hmem
    obtain ⟨field, hfield, rfl⟩ := hentry entry hmem
    exact hvalues field hfield

/-- What is found under one of several names is the member, when nothing is found under the
others. -/
theorem firstMember?_eq_some {name : String} {names : List String} (hname : name ∈ names)
    (hmember : Data.member? name members = some data)
    (hothers : ∀ other ∈ names, other ≠ name → Data.member? other members = none) :
    firstMember? names members = some data := by
  induction names with
  | nil => simp at hname
  | cons first rest ih =>
    unfold firstMember? at ih ⊢
    rw [List.findSome?_cons]
    by_cases hfirst : first = name
    · rw [hfirst, hmember]
    · rw [hothers first List.mem_cons_self hfirst]
      have hrest : name ∈ rest := (List.mem_cons.1 hname).resolve_left (Ne.symm hfirst)
      exact ih hrest fun other hother => hothers other (List.mem_cons_of_mem _ hother)

namespace TextsWritten

/-- The names under which text fields are written are among the names of the fields, in order. -/
theorem sublist (h : TextsWritten fields texts written) :
    (written.map Prod.fst).Sublist fields.flatten := by
  induction h with
  | nil => exact .slnil
  | cons hname _ ih =>
    rw [List.map_cons, List.flatten_cons]
    exact (List.singleton_sublist.2 hname).append ih

/-- The values of text fields are texts and nulls. -/
theorem isJson (h : TextsWritten fields texts written) : ∀ field ∈ written, field.2.IsJson := by
  induction h with
  | nil => simp
  | @cons _ _ _ text _ _ _ _ ih =>
    refine List.forall_mem_cons.2 ⟨?_, ih⟩
    cases text <;> simp [writtenText]

/-- What a text is written as stands for the text. -/
theorem optionalOf (text : Option String) : OptionalOf TextOf (some (writtenText text)) text := by
  cases text with
  | none => exact .null
  | some text => exact .given (.text text)

/-- Fields that are written under their names, with nothing under other names of theirs, have the
texts that were written. -/
theorem fieldsOf (h : TextsWritten fields texts written) (hnames : fields.flatten.Nodup)
    (hfound : ∀ field ∈ written, Data.member? field.1 members = some field.2)
    (habsent : ∀ name ∈ fields.flatten, name ∉ written.map Prod.fst →
      Data.member? name members = none) : FieldsOf members fields texts := by
  induction h with
  | nil => exact .nil
  | @cons name names fields text texts written hname h ih =>
    rw [List.flatten_cons, List.nodup_append'] at hnames
    obtain ⟨-, hrest, hdisjoint⟩ := hnames
    obtain ⟨hmember, hfound⟩ := List.forall_mem_cons.1 hfound
    have hseparate : ∀ other ∈ names, other ∉ written.map Prod.fst := fun other hother hmem =>
      hdisjoint hother (h.sublist.subset hmem)
    refine .cons ?_ (ih hrest hfound fun other hother hmem => ?_)
    · have hfirst : firstMember? names members = some (writtenText text) := by
        refine firstMember?_eq_some hname hmember fun other hother hne => ?_
        refine habsent other (List.mem_append_left _ hother) fun hmem => ?_
        rcases List.mem_cons.1 hmem with heq | hmem
        · exact hne heq
        · exact hseparate other hother hmem
      rw [hfirst]
      exact optionalOf text
    · refine habsent other (List.mem_append_right _ hother) fun hcons => ?_
      rcases List.mem_cons.1 hcons with heq | hcons
      · obtain rfl : other = name := heq
        exact hdisjoint hname hother
      · exact hmem hcons

/-- Text fields can be written, if each has a name. -/
theorem exists_written (hlength : fields.length = texts.length)
    (hnames : ∀ names ∈ fields, names ≠ []) : ∃ written, TextsWritten fields texts written := by
  induction fields generalizing texts with
  | nil =>
    obtain rfl := List.eq_nil_of_length_eq_zero hlength.symm
    exact ⟨[], .nil⟩
  | cons names rest ih =>
    obtain ⟨hne, hrest⟩ := List.forall_mem_cons.1 hnames
    obtain ⟨name, hname⟩ := List.exists_mem_of_ne_nil names hne
    cases texts with
    | nil => simp at hlength
    | cons text others =>
      obtain ⟨written, hwritten⟩ := ih (Nat.succ.inj hlength) hrest
      exact ⟨_, .cons hname hwritten⟩

end TextsWritten

/-- A record that is written back has its kind, its texts, and the members besides. -/
theorem RecordWritten.recordOf {table : FieldTable} {discriminator kind : String}
    {more : List (String × Data)}
    (hnames : ∀ entry ∈ table, (discriminator :: (entry.2.flatten ++ more.map Prod.fst)).Nodup)
    (h : RecordWritten table discriminator kind texts more data) :
    ∃ members, data = .map members ∧ RecordOf table discriminator kind texts members ∧
      ∀ field ∈ more, Data.member? field.1 members = some field.2 := by
  obtain ⟨fields, written, hfields, hwritten, hobject⟩ := h
  have hnodup := hnames _ hfields
  have hsublist : (discriminator :: (written ++ more).map Prod.fst).Sublist
      (discriminator :: (fields.flatten ++ more.map Prod.fst)) := by
    rw [List.map_append]
    exact (hwritten.sublist.append_right _).cons_cons _
  obtain ⟨members, rfl, hfound, habsent⟩ := hobject.exists_members (hnodup.sublist hsublist)
  obtain ⟨htag, hfound⟩ := List.forall_mem_cons.1 hfound
  obtain ⟨hfoundTexts, hfoundMore⟩ := List.forall_mem_append.1 hfound
  rw [List.nodup_cons, List.mem_append, not_or, List.nodup_append'] at hnodup
  obtain ⟨⟨hdiscriminator, -⟩, hflatten, -, hdisjoint⟩ := hnodup
  refine ⟨members, rfl, ⟨htag, fields, hfields, ?_⟩, hfoundMore⟩
  refine hwritten.fieldsOf hflatten hfoundTexts fun name hname hmem => habsent name ?_
  simp only [List.map_cons, List.map_append, List.mem_cons, List.mem_append, not_or]
  exact ⟨fun heq => hdiscriminator (heq ▸ hname), hmem, fun hmore => hdisjoint hname hmore⟩

/-- A record that is written back is decoded JSON when its members besides are. -/
theorem RecordWritten.isJson {table : FieldTable} {discriminator kind : String}
    {more : List (String × Data)} (hmore : ∀ field ∈ more, field.2.IsJson)
    (h : RecordWritten table discriminator kind texts more data) : data.IsJson := by
  obtain ⟨fields, written, -, hwritten, hobject⟩ := h
  refine hobject.isJson (List.forall_mem_cons.2 ⟨.text _, ?_⟩)
  exact List.forall_mem_append.2 ⟨hwritten.isJson, hmore⟩

/-- A record can be written back. -/
theorem RecordWritten.exists_data {table : FieldTable} {discriminator kind : String}
    (more : List (String × Data)) (hfields : (kind, fields) ∈ table)
    (hlength : fields.length = texts.length) (hnames : ∀ names ∈ fields, names ≠ []) :
    ∃ data, RecordWritten table discriminator kind texts more data := by
  obtain ⟨written, hwritten⟩ := TextsWritten.exists_written hlength hnames
  exact ⟨_, fields, written, hfields, hwritten, _, rfl, .refl _⟩

/-- A step that is written back stands for the step, if its delay is as reading makes it. -/
theorem StepWritten.stepOf {step : Step}
    (hheld : ∀ delay, step.record.delay = some delay → IsHeld delay)
    (h : StepWritten step data) : StepOf data step := by
  have htable : ∀ entry ∈ stepFields, ("action" :: (entry.2.flatten ++ ["delay"])).Nodup := by
    decide
  have hmore : ((delayMember step).map Prod.fst).Sublist ["delay"] := by
    unfold delayMember
    split <;> simp
  obtain ⟨members, rfl, hrecord, hdelay⟩ := RecordWritten.recordOf (fun entry hentry =>
    (htable entry hentry).sublist ((hmore.append_left _).cons_cons _)) h
  refine ⟨members, rfl, hrecord, fun haction => ?_⟩
  have hmember := hdelay ("delay", writtenDelay (stepDelay? step)) (by simp [delayMember, haction])
  rw [hmember]
  cases step with
  | type selector value delay =>
    cases delay with
    | none => exact .null
    | some delay =>
      obtain ⟨number, rfl, hnumber⟩ := hheld delay rfl
      exact .given (.number (.float number) hnumber)
  | _ => exact .null

/-- An expectation that is written back stands for the expectation. -/
theorem ExpectationWritten.expectationOf {expectation : Expectation}
    (h : ExpectationWritten expectation data) : ExpectationOf data expectation := by
  have htable : ∀ entry ∈ expectationFields, ("type" :: (entry.2.flatten ++ [])).Nodup := by decide
  obtain ⟨members, rfl, hrecord, -⟩ := RecordWritten.recordOf htable h
  exact ⟨members, rfl, hrecord⟩

/-- A scenario that is written back stands for the scenario, if it is held as reading makes it. -/
theorem ScenarioWritten.scenarioOf {scenario : Scenario} (hheld : Held scenario)
    (h : ScenarioWritten scenario data) : ScenarioOf data scenario := by
  obtain ⟨steps, expectations, order, hsteps, hexpectations, horder, hobject⟩ := h
  obtain ⟨members, rfl, hfound, -⟩ := hobject.exists_members (by simp)
  simp only [List.forall_mem_cons, List.not_mem_nil] at hfound
  obtain ⟨hid, hname, hurl, hstepList, hexpectationList, htagList, -⟩ := hfound
  refine ⟨members, rfl, ⟨_, hid, .text _⟩, ⟨_, hname, .text _⟩, ⟨_, hurl, .text _⟩, ?_, ?_, order,
    ?_, (tagSet_eq_of_perm hheld.tags_increasing horder).symm⟩
  · rw [hstepList]
    have hboth := (List.forall₂_and_left _ _).2 ⟨hheld.delays, hsteps⟩
    exact .given (hboth.imp fun _ _ hstep => hstep.2.stepOf hstep.1).flip
  · rw [hexpectationList]
    exact .given (hexpectations.imp fun _ _ hexpectation => hexpectation.expectationOf).flip
  · rw [htagList]
    exact .given (List.forall₂_map_left_iff.2 (List.forall₂_same.2 fun tag _ => .text tag))

/-- What all records of a list have that are written back. -/
theorem forall_mem_of_written {α : Type} {holds : α → Data → Prop} {follows : Data → Prop}
    {values : List α} {items : List Data} (h : List.Forall₂ holds values items)
    (hfollows : ∀ value data, holds value data → follows data) : ∀ data ∈ items, follows data :=
  forall_mem_of_forall₂ h fun value _ => hfollows value

/-- A step that is written back is decoded JSON, if its delay is as reading makes it. -/
theorem StepWritten.isJson {step : Step}
    (hheld : ∀ delay, step.record.delay = some delay → IsHeld delay)
    (h : StepWritten step data) : data.IsJson := by
  have hdelay : (writtenDelay (stepDelay? step)).IsJson := by
    cases step with
    | type selector value delay =>
      cases delay with
      | none => exact .null
      | some delay =>
        obtain ⟨number, rfl, -⟩ := hheld delay rfl
        exact .float number
    | _ => exact .null
  refine RecordWritten.isJson (fun field hfield => ?_) h
  unfold delayMember at hfield
  split at hfield
  · obtain rfl := List.mem_singleton.1 hfield
    exact hdelay
  · exact absurd hfield List.not_mem_nil

/-- A scenario that is written back is decoded JSON, if it is held as reading makes it. -/
theorem ScenarioWritten.isJson {scenario : Scenario} (hheld : Held scenario)
    (h : ScenarioWritten scenario data) : data.IsJson := by
  obtain ⟨steps, expectations, order, hsteps, hexpectations, -, hobject⟩ := h
  have hstepList : (Data.list steps).IsJson := by
    have hboth := (List.forall₂_and_left _ _).2 ⟨hheld.delays, hsteps⟩
    exact .list (forall_mem_of_written hboth fun _ _ hstep => hstep.2.isJson hstep.1)
  have hexpectationList : (Data.list expectations).IsJson :=
    .list (forall_mem_of_written hexpectations fun _ _ => RecordWritten.isJson (by simp))
  have htagList : (Data.list (order.map .text)).IsJson := .list (by simp)
  refine hobject.isJson ?_
  simp only [List.forall_mem_cons]
  exact ⟨.text _, .text _, .text _, hstepList, hexpectationList, htagList, by simp⟩

/-- A document that is written back stands for the scenarios, if they are held as reading makes
them. -/
theorem DocumentWritten.documentOf {scenarios : List Scenario}
    (hheld : ∀ scenario ∈ scenarios, Held scenario) (h : DocumentWritten scenarios data) :
    data.IsJson ∧ DocumentOf data scenarios := by
  obtain ⟨listName, hlistName, records, hrecords, hobject⟩ := h
  have hboth := (List.forall₂_and_left _ _).2 ⟨hheld, hrecords⟩
  have hjson : (Data.list records).IsJson :=
    .list (forall_mem_of_written hboth fun _ _ hscenario => hscenario.2.isJson hscenario.1)
  have hdata : data.IsJson := hobject.isJson (by simpa using hjson)
  obtain ⟨members, rfl, hfound, habsent⟩ := hobject.exists_members (by simp)
  refine ⟨hdata, members, records, rfl, ?_, ?_⟩
  · refine firstMember?_eq_some hlistName (by simpa using hfound) fun other _ hne => ?_
    exact habsent other (by simpa using hne)
  · exact (hboth.imp fun _ _ hscenario => hscenario.2.scenarioOf hscenario.1).flip

/-- Every step can be written back. -/
theorem exists_stepWritten (step : Step) : ∃ data, StepWritten step data := by
  have hfields : ∃ fields, (step.action, fields) ∈ stepFields ∧
      fields.length = (stepTexts step).length := by
    cases step <;> simp [stepFields, stepTexts, Step.action]
  obtain ⟨fields, hfields, hlength⟩ := hfields
  have hnames : ∀ entry ∈ stepFields, ∀ names ∈ entry.2, names ≠ [] := by decide
  exact RecordWritten.exists_data _ hfields hlength (hnames _ hfields)

/-- Every expectation can be written back. -/
theorem exists_expectationWritten (expectation : Expectation) :
    ∃ data, ExpectationWritten expectation data := by
  have hfields : ∃ fields, (expectation.kind, fields) ∈ expectationFields ∧
      fields.length = (expectationTexts expectation).length := by
    cases expectation <;> simp [expectationFields, expectationTexts, Expectation.kind]
  obtain ⟨fields, hfields, hlength⟩ := hfields
  have hnames : ∀ entry ∈ expectationFields, ∀ names ∈ entry.2, names ≠ [] := by decide
  exact RecordWritten.exists_data _ hfields hlength (hnames _ hfields)

/-- Every scenario can be written back. -/
theorem exists_scenarioWritten (scenario : Scenario) : ∃ data, ScenarioWritten scenario data := by
  obtain ⟨steps, hsteps⟩ :=
    exists_forall₂_iff.2 fun step (_ : step ∈ scenario.steps) => exists_stepWritten step
  obtain ⟨expectations, hexpectations⟩ := exists_forall₂_iff.2
    fun expectation (_ : expectation ∈ scenario.expectations) =>
      exists_expectationWritten expectation
  exact ⟨_, steps, expectations, scenario.tags, hsteps, hexpectations, .refl _, _, rfl, .refl _⟩

/-- Scenarios can be written back under either name of the list. -/
theorem exists_documentWritten (scenarios : List Scenario) :
    ∃ data, DocumentWritten scenarios data := by
  obtain ⟨records, hrecords⟩ := exists_forall₂_iff.2
    fun scenario (_ : scenario ∈ scenarios) => exists_scenarioWritten scenario
  exact ⟨_, "testScenarios", by simp [listNames], records, hrecords, _, rfl, .refl _⟩

/-- The scenarios of an accepted document can be written back as a document, and however this is
done, the document is accepted and holds the same scenarios. -/
theorem ofDocument_written {data : Data} {scenarios : List Scenario}
    (h : Scenario.ofDocument data = .ok scenarios) :
    (∃ again, DocumentWritten scenarios again) ∧
      ∀ again, DocumentWritten scenarios again → Scenario.ofDocument again = .ok scenarios := by
  refine ⟨exists_documentWritten scenarios, fun again hagain => ?_⟩
  have hheld : ∀ scenario ∈ scenarios, Held scenario :=
    scenario_ensures_held.document data scenarios (ofDocument_eq_ok_iff.1 h)
  obtain ⟨hjson, hdocument⟩ := hagain.documentOf hheld
  exact ofDocument_eq_ok_iff.2 ((document_gives again hjson scenarios).2 hdocument)

/-- The scenario of the document with a guarded click, written back under the other name of the
list, with the suppressing class under its other name and with members and tags from the last to the
first. -/
def guardedLoginAgain : Data :=
  .map [(.text "testScenarios", .list [.map [
    (.text "tags", .list [.text "b", .text "a"]),
    (.text "expectations", .list []),
    (.text "steps", .list [
      .map [(.text "skipIfHasClass", .text "on"), (.text "selector", .null),
        (.text "action", .text "click")],
      .map [(.text "delay", .float (Number.Binary64.ofInt 25)), (.text "value", .null),
        (.text "selector", .null), (.text "action", .text "type")]]),
    (.text "url", .text "/"), (.text "name", .text "login"), (.text "id", .text "7")]])]

/-- The scenario of the document with a guarded click is read again from the document that it is
written back as. -/
theorem ofDocument_written_guardedLogin :
    Scenario.ofDocument guardedLogin = .ok [guardedLoginScenario] ∧
      DocumentWritten [guardedLoginScenario] guardedLoginAgain ∧
        Scenario.ofDocument guardedLoginAgain = .ok [guardedLoginScenario] := by
  have hread : Scenario.ofDocument guardedLogin = .ok [guardedLoginScenario] := by
    decide +kernel
  have hreversed {written : List (String × Data)} {members : Members}
      (h : members.reverse = written.map fun field => (Data.text field.1, field.2)) :
      IsObject written (.map members) :=
    ⟨members, rfl, h ▸ (List.reverse_perm members).symm⟩
  have hselector : "selector" ∈ ["selector"] := List.mem_singleton_self _
  have hvalue : "value" ∈ ["value"] := List.mem_singleton_self _
  have hskipClass : "skipIfHasClass" ∈ ["skipIfHasClass", "skip_if_has_class"] :=
    List.mem_cons_self
  have hclick : StepWritten (.click none (some "on")) (.map [
      (.text "skipIfHasClass", .text "on"), (.text "selector", .null),
      (.text "action", .text "click")]) :=
    ⟨_, _, by simp [stepFields, Step.action], .cons hselector (.cons hskipClass .nil),
      hreversed rfl⟩
  have htype : StepWritten (.type none none (some (.floating (Number.Binary64.ofInt 25)))) (.map [
      (.text "delay", .float (Number.Binary64.ofInt 25)), (.text "value", .null),
      (.text "selector", .null), (.text "action", .text "type")]) :=
    ⟨_, _, by simp [stepFields, Step.action], .cons hselector (.cons hvalue .nil), hreversed rfl⟩
  have hwritten : DocumentWritten [guardedLoginScenario] guardedLoginAgain := by
    refine ⟨"testScenarios", List.mem_cons_self, _, .cons ?_ .nil, _, rfl, .refl _⟩
    exact ⟨_, [], ["b", "a"], .cons hclick (.cons htype .nil), .nil, by decide, hreversed rfl⟩
  exact ⟨hread, hwritten, (ofDocument_written hread).2 _ hwritten⟩

end BrowserScenario.Schema
