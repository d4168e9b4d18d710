import BrowserScenario.Proofs.Data.Member
import BrowserScenario.Proofs.Scenario.Fieldwise
import BrowserScenario.Proofs.Schema.Composition
import Mathlib.Logic.Relation

/-!
# Changes that reading does not see

What a value of a document is read as follows from its place: the document itself, a scenario, a
step, an expectation, a list of one of these, or a field. An object that is read as a record is
looked at under the names of the fields of its kind only. So members with other names may be added
with any value, and the members of an object may be put into any order, at any depth. There is one
exception: the message on a record of an unknown kind cites what stands in the place of the kind, and
an object that stands there is cited with its members in order.

Main statement: a document that is changed in these ways, any number of times, holds the same
scenarios or is refused for the same problems, and a name that is missing later is asked for by a
field of a record.
-/

namespace BrowserScenario.Schema

variable {α : Type} {members others : Members}

/-- What a value of a document is read as. -/
inductive Role
  | document
  | scenario
  | step
  | expectation
  | listOf (item : Role)
  | field

/-- The names under which a step of some action is looked at. -/
def stepNames (action : String) : List String :=
  ((stepFields.lookup action).getD []).flatten ++ if action = "type" then ["delay"] else []

/-- The names under which an expectation of some kind is looked at. -/
def expectationNames (kind : String) : List String :=
  ((expectationFields.lookup kind).getD []).flatten

/-- The names under which a record is looked at: that of its kind, and those of the fields of the
kind, if there is one. -/
def recordNames (discriminator : String) (names : String → List String) (members : Members) :
    List String :=
  discriminator ::
    match Data.member? discriminator members with
    | some (.text kind) => names kind
    | _ => []

namespace Role

/-- The names under which an object is looked at. -/
def names (role : Role) (members : Members) : List String :=
  match role with
  | document => listNames
  | scenario => ["id", "name", "url", "steps", "expectations", "tags"]
  | step => recordNames "action" stepNames members
  | expectation => recordNames "type" expectationNames members
  | listOf _ => []
  | field => []

/-- What a member of an object is read as; nothing for the kind of a record, which is cited. -/
def member? : Role → String → Option Role
  | document, name => if name ∈ listNames then some (listOf scenario) else some field
  | scenario, name =>
    if name = "steps" then some (listOf step)
    else if name = "expectations" then some (listOf expectation)
    else some field
  | step, name => if name = "action" then none else some field
  | expectation, name => if name = "type" then none else some field
  | listOf _, _ => some field
  | field, _ => some field

/-- What an item of a list is read as. -/
def item : Role → Role
  | listOf item => item
  | _ => field

end Role

/-- One change to a value that is read in a role: a member is added under a name that is not looked
at; or the members of an object, of which no two have one name, are put into another order; or the
change is made to a member that is not the kind of a record, or to an item of a list. -/
inductive Retouched : Role → Data → Data → Prop
  | added {role : Role} {before after : Members} {name : String}
    (hname : name ∉ role.names (before ++ after)) (value : Data) :
    Retouched role (.map (before ++ after)) (.map (before ++ (.text name, value) :: after))
  | reordered {role : Role} {members others : Members} (hkeys : (members.map Prod.fst).Nodup)
    (h : members.Perm others) : Retouched role (.map members) (.map others)
  | member {role inner : Role} {name : String} {value other : Data} (before after : Members)
    (hinner : role.member? name = some inner) (h : Retouched inner value other) :
    Retouched role (.map (before ++ (.text name, value) :: after))
      (.map (before ++ (.text name, other) :: after))
  | item {role : Role} {value other : Data} (before after : List Data)
    (h : Retouched role.item value other) :
    Retouched role (.list (before ++ value :: after)) (.list (before ++ other :: after))

/-- Two values between which reading a field makes no difference, whatever the field is for. -/
structure FieldAlike (a b : Data) : Prop where
  text_eq : text a = text b
  optionalText_eq : optionalText a = optionalText b
  optionalDelay_eq : optionalDelay a = optionalDelay b
  tags_eq : tags a = tags b

/-- Two values between which reading in a role makes no difference. -/
def Role.Alike : Role → Data → Data → Prop
  | document, a, b => Schema.document a = Schema.document b
  | scenario, a, b => Schema.scenario a = Schema.scenario b
  | step, a, b => Schema.step a = Schema.step b
  | expectation, a, b => Schema.expectation a = Schema.expectation b
  | listOf item, a, b => Option.Rel (List.Forall₂ item.Alike) (listItems? a) (listItems? b)
  | field, a, b => FieldAlike a b

/-- Two objects between which reading in a role makes no difference at the member of a name. -/
def Role.MemberAlike (role : Role) (name : String) (members others : Members) : Prop :=
  match role.member? name with
  | some inner => Option.Rel inner.Alike (Data.member? name members) (Data.member? name others)
  | none => Data.member? name members = Data.member? name others

/-- What is related to itself is related where it may be absent. -/
theorem rel_self {r : α → α → Prop} (h : ∀ a, r a a) (a : Option α) : Option.Rel r a a := by
  cases a with
  | none => exact .none
  | some a => exact .some (h a)

namespace Role

/-- Reading makes no difference between a value and itself. -/
theorem alike_self (role : Role) (a : Data) : role.Alike a a := by
  induction role generalizing a with
  | listOf item ih => exact rel_self (fun items => List.forall₂_same.2 fun a _ => ih a) _
  | field => exact ⟨rfl, rfl, rfl, rfl⟩
  | _ => rfl

/-- The same member makes no difference. -/
theorem memberAlike_of_eq {name : String} (role : Role)
    (h : Data.member? name members = Data.member? name others) :
    role.MemberAlike name members others := by
  unfold MemberAlike
  split
  · rename_i inner hinner
    rw [h]
    exact rel_self inner.alike_self _
  · exact h

end Role

/-- Checks of items that make no difference one by one make none together. -/
theorem each_congr {check : Data → Checked α} {items more : List Data}
    (h : List.Forall₂ (fun a b => check a = check b) items more) :
    Checked.each check items = Checked.each check more := by
  have hfrom : ∀ position, Checked.eachFrom check position items =
      Checked.eachFrom check position more := by
    induction h with
    | nil =>
      intro position
      rfl
    | cons hfirst _ ih =>
      intro position
      rw [Checked.eachFrom, Checked.eachFrom, hfirst, ih]
  exact hfrom 0

/-- The check of a list makes no difference where that of its items makes none. -/
theorem listOf_congr {check : Data → Checked α} {role : Role} {a b : Data}
    (hcheck : ∀ a b, role.Alike a b → check a = check b) (h : (Role.listOf role).Alike a b) :
    listOf check a = listOf check b := by
  have hitems : Option.Rel (List.Forall₂ role.Alike) (listItems? a) (listItems? b) := h
  unfold listOf
  generalize listItems? a = items at hitems ⊢
  generalize listItems? b = more at hitems ⊢
  cases hitems with
  | none => rfl
  | some hsome => exact each_congr (hsome.imp hcheck)

/-- A member that has to be there makes no difference where its check makes none. -/
theorem required_congr {check : Data → Checked α} {name : String}
    (h : Option.Rel (fun a b => check a = check b) (Data.member? name members)
      (Data.member? name others)) :
    required name check members = required name check others := by
  unfold required
  generalize Data.member? name members = first at h ⊢
  generalize Data.member? name others = second at h ⊢
  cases h with
  | none => rfl
  | some hsome => simp only [hsome]

/-- A member that may be absent makes no difference where its check makes none. -/
theorem withDefault_congr {check : Data → Checked α} {name : String} (default : α)
    (h : Option.Rel (fun a b => check a = check b) (Data.member? name members)
      (Data.member? name others)) :
    withDefault name default check members = withDefault name default check others := by
  unfold withDefault
  generalize Data.member? name members = first at h ⊢
  generalize Data.member? name others = second at h ⊢
  cases h with
  | none => rfl
  | some hsome => simp only [hsome]

/-- What is related where it may be absent is related there by what follows from the relation. -/
theorem rel_imp {r s : Data → Data → Prop} (himp : ∀ a b, r a b → s a b) {a b : Option Data}
    (h : Option.Rel r a b) : Option.Rel s a b := by
  cases h with
  | none => exact .none
  | some hsome => exact .some (himp _ _ hsome)

section Fields

variable {name : String}

/-- A text member makes no difference where it makes none as a field. -/
theorem textMember_congr (h : Option.Rel Role.field.Alike (Data.member? name members)
    (Data.member? name others)) : textMember name members = textMember name others :=
  withDefault_congr none (rel_imp (fun _ _ hfield => hfield.optionalText_eq) h)

/-- A delay makes no difference where it makes none as a field. -/
theorem delayMember_congr (h : Option.Rel Role.field.Alike (Data.member? name members)
    (Data.member? name others)) :
    withDefault name none optionalDelay members = withDefault name none optionalDelay others :=
  withDefault_congr none (rel_imp (fun _ _ hfield => hfield.optionalDelay_eq) h)

/-- The class that suppresses a click makes no difference where it makes none under either of its
names. -/
theorem skipClassMember_congr
    (hfirst : Option.Rel Role.field.Alike (Data.member? "skipIfHasClass" members)
      (Data.member? "skipIfHasClass" others))
    (hsecond : Option.Rel Role.field.Alike (Data.member? "skip_if_has_class" members)
      (Data.member? "skip_if_has_class" others)) :
    skipClassMember members = skipClassMember others := by
  unfold skipClassMember
  generalize Data.member? "skipIfHasClass" members = first at hfirst ⊢
  generalize Data.member? "skipIfHasClass" others = second at hfirst ⊢
  cases hfirst with
  | none => exact textMember_congr hsecond
  | some hsome => simp only [hsome.optionalText_eq]

end Fields

/-- A step of a known action makes no difference where the members under the names of its action
make none. -/
theorem stepKind_congr {kind : String × (Members → Checked Step)} (hkind : kind ∈ stepKinds)
    (h : ∀ name ∈ stepNames kind.1, Option.Rel Role.field.Alike (Data.member? name members)
      (Data.member? name others)) : kind.2 members = kind.2 others := by
  have htext : ∀ name ∈ stepNames kind.1, textMember name members = textMember name others :=
    fun name hname => textMember_congr (h name hname)
  simp only [stepKinds, List.mem_cons, List.not_mem_nil, or_false] at hkind
  rcases hkind with rfl | rfl | rfl | rfl | rfl | rfl | rfl | rfl
  · simp only [htext "selector" (by decide), htext "value" (by decide)]
  · simp only [htext "selector" (by decide), skipClassMember_congr
      (h "skipIfHasClass" (by decide)) (h "skip_if_has_class" (by decide))]
  · simp only [htext "selector" (by decide), htext "value" (by decide),
      delayMember_congr (h "delay" (by decide))]
  · simp only [htext "selector" (by decide), htext "value" (by decide)]
  · simp only [htext "selector" (by decide)]
  · simp only [htext "selector" (by decide)]
  · simp only [htext "selector" (by decide)]
  · simp only [htext "value" (by decide)]

/-- An expectation of a known kind makes no difference where the members under the names of its
kind make none. -/
theorem expectationKind_congr {kind : String × (Members → Checked Expectation)}
    (hkind : kind ∈ expectationKinds)
    (h : ∀ name ∈ expectationNames kind.1, Option.Rel Role.field.Alike (Data.member? name members)
      (Data.member? name others)) : kind.2 members = kind.2 others := by
  have htext : ∀ name ∈ expectationNames kind.1,
      textMember name members = textMember name others :=
    fun name hname => textMember_congr (h name hname)
  simp only [expectationKinds, List.mem_cons, List.not_mem_nil, or_false] at hkind
  rcases hkind with rfl | rfl | rfl | rfl | rfl | rfl | rfl
  · simp only [htext "value" (by decide)]
  · simp only [htext "selector" (by decide), htext "value" (by decide)]
  · simp only [htext "selector" (by decide), htext "value" (by decide)]
  · simp only [htext "selector" (by decide)]
  · simp only [htext "selector" (by decide)]
  · simp only [htext "selector" (by decide), htext "attribute" (by decide),
      htext "value" (by decide)]
  · simp only [htext "selector" (by decide), htext "value" (by decide)]

/-- A record makes no difference where the member of its kind is the same and, if it names a kind,
the fields of this kind make none. -/
theorem tagged_congr {discriminator : String} {kinds : List (String × (Members → Checked α))}
    (hnames : (kinds.map Prod.fst).Nodup)
    (hkind : Data.member? discriminator members = Data.member? discriminator others)
    (h : ∀ kind ∈ kinds, Data.member? discriminator members = some (.text kind.1) →
      kind.2 members = kind.2 others) :
    tagged discriminator kinds (.map members) = tagged discriminator kinds (.map others) := by
  simp only [tagged, members?]
  rw [← hkind]
  cases htag : Data.member? discriminator members with
  | none => rfl
  | some tag =>
    dsimp only
    cases hfound : kindOf? kinds tag with
    | none => rfl
    | some kind =>
      obtain ⟨hmem, rfl⟩ := (kindOf?_eq_some_iff hnames).1 hfound
      simp only [h kind hmem htag]

/-- A record of a kind is looked at under the names of this kind. -/
theorem mem_recordNames {discriminator kind name : String} {names : String → List String}
    (hkind : Data.member? discriminator members = some (.text kind)) (hname : name ∈ names kind) :
    name ∈ recordNames discriminator names members := by
  simp [recordNames, hkind, hname]

namespace Role

/-- A member that is read as a field or not at all makes no difference as a field. -/
theorem memberAlike_field {role : Role} {name : String}
    (hmember : ∀ inner, role.member? name = some inner → inner = field)
    (h : role.MemberAlike name members others) :
    Option.Rel field.Alike (Data.member? name members) (Data.member? name others) := by
  unfold MemberAlike at h
  split at h
  · rename_i inner hinner
    rw [hmember inner hinner] at h
    exact h
  · rw [h]
    exact rel_self field.alike_self _

/-- Between records whose members make no difference reading makes none, if all members but that of
the kind are read as fields. -/
theorem tagged_alike {role : Role} {discriminator : String}
    {kinds : List (String × (Members → Checked α))} {names : String → List String}
    (hkinds : (kinds.map Prod.fst).Nodup)
    (hmember : ∀ name, role.member? name = if name = discriminator then none else some field)
    (hcongr : ∀ kind ∈ kinds, (∀ name ∈ names kind.1, Option.Rel field.Alike
      (Data.member? name members) (Data.member? name others)) → kind.2 members = kind.2 others)
    (h : ∀ name ∈ recordNames discriminator names members,
      role.MemberAlike name members others) :
    tagged discriminator kinds (.map members) = tagged discriminator kinds (.map others) := by
  have hkind : Data.member? discriminator members = Data.member? discriminator others := by
    have hdiscriminator := h discriminator List.mem_cons_self
    unfold MemberAlike at hdiscriminator
    rwa [hmember, if_pos rfl] at hdiscriminator
  have hfield : ∀ name inner, role.member? name = some inner → inner = field := by
    intro name inner hinner
    rw [hmember] at hinner
    split at hinner
    · exact nomatch hinner
    · exact (Option.some.inj hinner).symm
  refine tagged_congr hkinds hkind fun kind hmem htag => hcongr kind hmem fun name hname => ?_
  exact memberAlike_field (hfield name) (h name (mem_recordNames htag hname))

/-- Between steps whose members make no difference reading makes none. -/
theorem alike_step (h : ∀ name ∈ step.names members, step.MemberAlike name members others) :
    step.Alike (.map members) (.map others) :=
  tagged_alike (by decide) (fun _ => rfl) (fun _ => stepKind_congr) h

/-- Between expectations whose members make no difference reading makes none. -/
theorem alike_expectation
    (h : ∀ name ∈ expectation.names members, expectation.MemberAlike name members others) :
    expectation.Alike (.map members) (.map others) :=
  tagged_alike (by decide) (fun _ => rfl) (fun _ => expectationKind_congr) h

/-- Between scenarios whose members make no difference reading makes none. -/
theorem alike_scenario
    (h : ∀ name ∈ scenario.names members, scenario.MemberAlike name members others) :
    scenario.Alike (.map members) (.map others) := by
  simp only [names, List.forall_mem_cons] at h
  obtain ⟨hid, hname, hurl, hsteps, hexpectations, htags, -⟩ := h
  have hid := required_congr (rel_imp (fun _ _ hfield => hfield.text_eq) hid)
  have hname := required_congr (rel_imp (fun _ _ hfield => hfield.text_eq) hname)
  have hurl := required_congr (rel_imp (fun _ _ hfield => hfield.text_eq) hurl)
  have hstepList : ∀ a b, (listOf step).Alike a b →
      Schema.listOf Schema.step a = Schema.listOf Schema.step b :=
    fun _ _ => listOf_congr fun _ _ hstep => hstep
  have hexpectationList : ∀ a b, (listOf expectation).Alike a b →
      Schema.listOf Schema.expectation a = Schema.listOf Schema.expectation b :=
    fun _ _ => listOf_congr fun _ _ hexpectation => hexpectation
  have hsteps := withDefault_congr [] (rel_imp hstepList hsteps)
  have hexpectations := withDefault_congr [] (rel_imp hexpectationList hexpectations)
  have htags := withDefault_congr [] (rel_imp (fun _ _ hfield => hfield.tags_eq) htags)
  simp only [Alike, Schema.scenario, members?, hid, hname, hurl, hsteps, hexpectations, htags]

/-- Between documents whose members make no difference reading makes none. -/
theorem alike_document
    (h : ∀ name ∈ document.names members, document.MemberAlike name members others) :
    document.Alike (.map members) (.map others) := by
  simp only [names, listNames, List.forall_mem_cons] at h
  obtain ⟨hfirst, hsecond, -⟩ := h
  have hlist : ∀ a b, (listOf scenario).Alike a b →
      Schema.listOf Schema.scenario a = Schema.listOf Schema.scenario b :=
    fun _ _ => listOf_congr fun _ _ hscenario => hscenario
  have hfirst := rel_imp hlist hfirst
  have hsecond := rel_imp hlist hsecond
  have hrequired := required_congr hfirst
  simp only [Alike, Schema.document, members?]
  generalize Data.member? "testScenarios" members = first at hfirst ⊢
  generalize Data.member? "testScenarios" others = second at hfirst ⊢
  generalize Data.member? "test_scenarios" members = third at hsecond ⊢
  generalize Data.member? "test_scenarios" others = fourth at hsecond ⊢
  cases hfirst with
  | none =>
    cases hsecond with
    | none => exact hrequired
    | some hlisted => simp only [hlisted]
  | some => exact hrequired

/-- Between objects whose members make no difference reading makes none. -/
theorem alike_map {role : Role}
    (h : ∀ name ∈ role.names members, role.MemberAlike name members others) :
    role.Alike (.map members) (.map others) := by
  cases role with
  | document => exact alike_document h
  | scenario => exact alike_scenario h
  | step => exact alike_step h
  | expectation => exact alike_expectation h
  | listOf item => exact .none
  | field => exact ⟨rfl, rfl, rfl, rfl⟩

/-- Between lists whose items make no difference reading makes none. -/
theorem alike_list {role : Role} {items more : List Data}
    (h : List.Forall₂ role.item.Alike items more) : role.Alike (.list items) (.list more) := by
  cases role with
  | listOf item => exact .some h
  | field =>
    refine ⟨rfl, rfl, rfl, ?_⟩
    have heach : Checked.each text items = Checked.each text more :=
      each_congr (h.imp fun _ _ hfield => hfield.text_eq)
    simp only [tags, listItems?, heach]
  | _ => rfl

end Role

/-- Reading makes no difference between a value and the same value with a change. -/
theorem Retouched.alike {role : Role} {value other : Data} (h : Retouched role value other) :
    role.Alike value other := by
  induction h with
  | @added role before after added hadded value =>
    refine Role.alike_map fun name hname => Role.memberAlike_of_eq _ ?_
    have hne : Data.text added ≠ .text name := by
      rintro ⟨rfl⟩
      exact hadded hname
    rw [Data.member?_insert_of_ne hne]
  | reordered hkeys hperm =>
    exact Role.alike_map fun name _ =>
      Role.memberAlike_of_eq _ (Data.member?_perm hkeys hperm name)
  | @member role inner changed value other before after hinner _ ih =>
    refine Role.alike_map fun name _ => ?_
    by_cases hname : name = changed
    · subst hname
      unfold Role.MemberAlike
      rw [hinner]
      dsimp only
      rw [Data.member?_append, Data.member?_append, Data.member?_cons_self,
        Data.member?_cons_self]
      cases Data.member? name before with
      | none => exact .some ih
      | some first => exact rel_self inner.alike_self _
    · have hne : Data.text changed ≠ .text name := fun heq => hname (Data.text.inj heq).symm
      apply Role.memberAlike_of_eq
      rw [Data.member?_insert_of_ne hne, Data.member?_insert_of_ne hne]
  | @item role value other before after _ ih =>
    have hsame : ∀ items, List.Forall₂ role.item.Alike items items :=
      fun items => List.forall₂_same.2 fun a _ => role.item.alike_self a
    exact Role.alike_list (List.rel_append (hsame before) (.cons ih (hsame after)))

/-- A document to which changes are made that reading does not see holds the same scenarios or is
refused for the same problems. So a name that is missing later, with any variables, is missing for a
scenario of the document as it was before, and a field of this scenario asks for it. -/
theorem ofDocument_retouched {data other : Data}
    (h : Relation.EqvGen (Retouched .document) data other) :
    Scenario.ofDocument other = Scenario.ofDocument data ∧
      ∀ scenarios, Scenario.ofDocument other = .ok scenarios → ∀ scenario ∈ scenarios,
        ∀ values name, scenario.resolve values = .error name →
          (∃ before, Scenario.ofDocument data = .ok before ∧ scenario ∈ before) ∧
            name.toList ∈ scenario.markerNames := by
  have hsame : document other = document data := by
    induction h with
    | rel _ _ h => exact h.alike.symm
    | refl => rfl
    | symm _ _ _ ih => exact ih.symm
    | trans _ _ _ _ _ hfirst hsecond => exact hsecond.trans hfirst
  have hdocument : Scenario.ofDocument other = Scenario.ofDocument data := by
    simp only [Scenario.ofDocument, hsame]
  refine ⟨hdocument, fun scenarios hother scenario hscenario values name hmissing => ?_⟩
  exact ⟨⟨scenarios, hdocument.symm.trans hother, hscenario⟩,
    Scenario.missing_mem_markerNames hmissing⟩

/-- A document with one scenario, which has one step. -/
def oneStep (members : Members) : Data :=
  .map [(.text "testScenarios", .list [.map [
    (.text "id", .text "1"), (.text "name", .text "n"), (.text "url", .text "/"),
    (.text "steps", .list [.map members])]])]

/-- Changes to the only step of a document are changes to the document. -/
theorem retouched_oneStep (h : Retouched .step (.map members) (.map others)) :
    Retouched .document (oneStep members) (oneStep others) :=
  .member [] [] rfl <| .item [] [] <|
    .member [(.text "id", .text "1"), (.text "name", .text "n"), (.text "url", .text "/")] [] rfl <|
      .item [] [] h

/-- The members of a step that checks a box. -/
def checkedBox : Members :=
  [(.text "action", .text "check"), (.text "selector", .text "#box")]

/-- The same members from the last to the first, with one that checking does not look at. -/
def notedBox : Members :=
  [(.text "selector", .text "#box"), (.text "value", .text "$\x7bNOTE\x7d"),
    (.text "action", .text "check")]

/-- The scenario of the document with the checked box. -/
def checkedBoxScenario : Scenario where
  id := "1"
  name := "n"
  url := "/"
  steps := [.check (some "#box")]
  expectations := []
  tags := []

/-- A placeholder in a member that checking does not look at is not asked for. -/
theorem ofDocument_retouched_notedBox :
    Relation.EqvGen (Retouched .document) (oneStep checkedBox) (oneStep notedBox) ∧
      Scenario.ofDocument (oneStep notedBox) = Scenario.ofDocument (oneStep checkedBox) ∧
        Scenario.ofDocument (oneStep notedBox) = .ok [checkedBoxScenario] ∧
          ∀ values name, checkedBoxScenario.resolve values ≠ .error name := by
  have hreordered : Retouched .step (.map checkedBox) (.map checkedBox.reverse) :=
    .reordered (by simp [checkedBox]) checkedBox.reverse_perm.symm
  have hadded : Retouched .step (.map checkedBox.reverse) (.map notedBox) :=
    @Retouched.added .step [(.text "selector", .text "#box")] [(.text "action", .text "check")]
      "value" (by decide +kernel) _
  have hchanged := Relation.EqvGen.trans _ _ _ (.rel _ _ (retouched_oneStep hreordered))
    (.rel _ _ (retouched_oneStep hadded))
  obtain ⟨hsame, hmissing⟩ := ofDocument_retouched hchanged
  have hread : Scenario.ofDocument (oneStep notedBox) = .ok [checkedBoxScenario] := by
    decide +kernel
  refine ⟨hchanged, hsame, hread, fun values name h => ?_⟩
  have hname := (hmissing _ hread _ (List.mem_singleton_self _) values name h).2
  have hnames : checkedBoxScenario.markerNames = [] := by decide +kernel
  rw [hnames] at hname
  exact nomatch hname

/-- The members of an object that stands in the place of an action. -/
def citedMembers : Members :=
  [(.text "a", .int 1), (.text "b", .int 2)]

/-- The message on an unknown action cites the members of an object in order. -/
theorem problemsOf_citedMembers :
    (citedMembers.map Prod.fst).Nodup ∧ citedMembers.Perm citedMembers.reverse ∧
      (problemsOf (oneStep [(.text "action", .map citedMembers.reverse)])).map
          DocumentProblem.message ≠
        (problemsOf (oneStep [(.text "action", .map citedMembers)])).map
          DocumentProblem.message := by
  refine ⟨by simp [citedMembers], citedMembers.reverse_perm.symm, by decide +kernel⟩

end BrowserScenario.Schema
