import BrowserScenario.Proofs.Schema.Field

/-!
# Members of an object

How the schema looks at the members of an object: required ones, ones that may be absent or null,
and lists. Main statement: on decoded JSON each of these checks gives a value exactly when the
member stands for that value.
-/

namespace BrowserScenario.Schema

open BrowserScenario.Time

variable {α : Type} {data : Data} {members : Members}

/-- Decoded JSON has members only when it is an object. -/
theorem members?_eq_some_iff (hdata : data.IsJson) :
    members? data = some members ↔ data = .map members := by
  apply Iff.intro
  · intro h
    cases hdata with
    | map => rw [Option.some.inj h]
    | _ => exact nomatch h
  · intro heq
    subst heq
    rfl

/-- Decoded JSON has items only when it is an array. -/
theorem listItems?_eq_some_iff (hdata : data.IsJson) {items : List Data} :
    listItems? data = some items ↔ data = .list items := by
  apply Iff.intro
  · intro h
    cases hdata with
    | list => rw [Option.some.inj h]
    | _ => exact nomatch h
  · intro heq
    subst heq
    rfl

/-- The only name of a member is the preferred one. -/
theorem firstMember?_single (name : String) (members : Members) :
    firstMember? [name] members = Data.member? name members := by
  unfold firstMember?
  cases h : Data.member? name members <;> simp [h]

/-- Of two names the first is preferred. -/
theorem firstMember?_pair (first second : String) (members : Members) :
    firstMember? [first, second] members =
      (Data.member? first members).or (Data.member? second members) := by
  unfold firstMember?
  cases h : Data.member? first members with
  | none => cases h' : Data.member? second members <;> simp [h, h']
  | some value => simp [h]

/-- The members of an object are decoded JSON under whichever name they are found. -/
theorem isJson_of_firstMember? (hmembers : (Data.map members).IsJson) {names : List String}
    (h : firstMember? names members = some data) : data.IsJson := by
  obtain ⟨name, -, hname⟩ := List.exists_of_findSome?_eq_some h
  exact hmembers.member hname

/-- A check that takes a null for none, and otherwise gives the value of another check, gives what
an optional field stands for. -/
theorem optional_gives {β : Type} {optional : Data → Checked (Option α)} {check : Data → Checked β}
    {wrap : β → α} {holds : Data → α → Prop} (hnull : optional .null = .valid none)
    (hother : ∀ data, data ≠ .null → optional data = (fun b => some (wrap b)) <$> check data)
    (hcheck : Gives (fun data => wrap <$> check data) holds)
    (hholds : ∀ value, ¬ holds .null value) :
    Gives optional fun data => OptionalOf holds (some data) := by
  intro data hdata value
  apply Iff.intro
  · intro h
    by_cases hdata' : data = .null
    · subst hdata'
      rw [hnull] at h
      obtain rfl : none = value := Checked.valid.inj h
      exact .null
    · rw [hother data hdata'] at h
      obtain ⟨b, hb, rfl⟩ := (Checked.map_eq_valid_iff _ _ _).1 h
      refine .given ((hcheck data hdata _).1 ?_)
      exact (Checked.map_eq_valid_iff _ _ _).2 ⟨b, hb, rfl⟩
  · intro h
    cases h with
    | null => exact hnull
    | given hvalue =>
      have hdata' : data ≠ .null := by
        intro heq
        subst heq
        exact hholds _ hvalue
      obtain ⟨b, hb, rfl⟩ := (Checked.map_eq_valid_iff _ _ _).1 ((hcheck data hdata _).2 hvalue)
      rw [hother data hdata']
      exact (Checked.map_eq_valid_iff _ _ _).2 ⟨b, hb, rfl⟩

/-- The check of an optional text gives what the field stands for. -/
theorem optionalText_gives : Gives optionalText fun data => OptionalOf TextOf (some data) := by
  refine @optional_gives String String optionalText text id TextOf rfl ?_ ?_ ?_
  · intro data hdata
    cases data <;> first | exact absurd rfl hdata | rfl
  · intro data hdata s
    rw [Checked.map_eq_valid_iff, ← text_gives data hdata]
    apply Iff.intro
    · intro h
      obtain ⟨b, hb, rfl⟩ := h
      exact hb
    · intro h
      exact ⟨s, h, rfl⟩
  · intro s h
    exact nomatch h

/-- The check of a number that is not below zero gives the number, if it is not. -/
theorem nonnegative_eq_valid_iff {x : Number.Binary64} :
    nonnegative data = .valid x ↔ number data = .valid x ∧ x.isNonnegative = true := by
  unfold nonnegative
  apply Iff.intro
  · intro h
    split at h
    · rename_i other hother
      split at h
      · rename_i hnonnegative
        obtain rfl : other = x := Checked.valid.inj h
        exact ⟨hother, hnonnegative⟩
      · exact absurd h (Checked.fail_ne_valid _ _)
    · exact nomatch h
  · intro h
    obtain ⟨hx, hnonnegative⟩ := h
    simp only [hx, if_pos hnonnegative]

/-- The check of an optional delay gives what the field stands for. -/
theorem optionalDelay_gives : Gives optionalDelay fun data => OptionalOf DelayOf (some data) := by
  refine @optional_gives Duration _ optionalDelay nonnegative .floating DelayOf rfl ?_ ?_ ?_
  · intro data hdata
    cases data <;> first | exact absurd rfl hdata | rfl
  · intro data hdata delay
    rw [Checked.map_eq_valid_iff]
    apply Iff.intro
    · intro h
      obtain ⟨x, hx, rfl⟩ := h
      obtain ⟨hnumber, hnonnegative⟩ := nonnegative_eq_valid_iff.1 hx
      exact .number ((number_gives data hdata x).1 hnumber) hnonnegative
    · intro h
      obtain ⟨hnumber, hnonnegative⟩ := h
      have hx := (number_gives data hdata _).2 hnumber
      exact ⟨_, nonnegative_eq_valid_iff.2 ⟨hx, hnonnegative⟩, rfl⟩
  · intro delay h
    obtain ⟨hnumber, -⟩ := h
    exact nomatch hnumber

/-- The check of a list gives the values that its items stand for, in order. -/
theorem listOf_gives {check : Data → Checked α} {holds : Data → α → Prop}
    (hcheck : Gives check holds) : Gives (listOf check) fun data => ListOf holds (some data) := by
  have heach {items : List Data} (hlist : (Data.list items).IsJson) (values : List α) :
      Checked.each check items = .valid values ↔ List.Forall₂ holds items values := by
    rw [Checked.each_eq_valid_iff]
    apply Iff.intro
    · intro h
      exact List.forall₂_iff_get.2 ⟨h.length_eq, fun i h₁ h₂ =>
        (hcheck _ (Data.isJson_list_iff.1 hlist _ (List.get_mem _ _)) _).1 (h.get h₁ h₂)⟩
    · intro h
      exact List.forall₂_iff_get.2 ⟨h.length_eq, fun i h₁ h₂ =>
        (hcheck _ (Data.isJson_list_iff.1 hlist _ (List.get_mem _ _)) _).2 (h.get h₁ h₂)⟩
  intro data hdata values
  unfold listOf
  apply Iff.intro
  · intro h
    cases hlist : listItems? data with
    | none =>
      rw [hlist] at h
      exact absurd h (Checked.fail_ne_valid _ _)
    | some items =>
      rw [hlist] at h
      obtain rfl := (listItems?_eq_some_iff hdata).1 hlist
      exact .given ((heach hdata values).1 h)
  · intro h
    cases h with
    | given hitems => exact (heach hdata values).2 hitems

/-- The check of a member that has to be there gives the value of that member. -/
theorem required_eq_valid_iff {check : Data → Checked α} {holds : Data → α → Prop}
    (hcheck : Gives check holds) (hmembers : (Data.map members).IsJson) {name : String}
    {value : α} :
    required name check members = .valid value ↔
      RequiredOf holds (Data.member? name members) value := by
  unfold required RequiredOf
  rw [Checked.within_eq_valid_iff]
  cases hmember : Data.member? name members with
  | none =>
    apply Iff.intro
    · intro h
      exact absurd h (Checked.fail_ne_valid _ _)
    · intro h
      obtain ⟨data, hdata, -⟩ := h
      exact nomatch hdata
  | some data =>
    have hdata := hcheck data (hmembers.member hmember) value
    apply Iff.intro
    · intro h
      exact ⟨data, rfl, hdata.1 h⟩
    · intro h
      obtain ⟨other, hother, h⟩ := h
      obtain rfl : data = other := Option.some.inj hother
      exact hdata.2 h

/-- The check of a member that may be absent gives what the member stands for, if the default is
what an absent one stands for. -/
theorem withDefault_eq_valid_iff {check : Data → Checked α} {default : α}
    {holds : Option Data → α → Prop} (hcheck : Gives check fun data => holds (some data))
    (habsent : ∀ value, default = value ↔ holds none value) (hmembers : (Data.map members).IsJson)
    {name : String} {value : α} :
    withDefault name default check members = .valid value ↔
      holds (Data.member? name members) value := by
  unfold withDefault
  cases hmember : Data.member? name members with
  | none =>
    rw [← habsent]
    apply Iff.intro
    · intro h
      exact Checked.valid.inj h
    · intro heq
      subst heq
      rfl
  | some data =>
    rw [Checked.within_eq_valid_iff]
    exact hcheck data (hmembers.member hmember) value

/-- An optional field that is absent stands for none. -/
theorem optionalOf_absent_iff {holds : Data → α → Prop} (value : Option α) :
    none = value ↔ OptionalOf holds none value := by
  apply Iff.intro
  · intro heq
    subst heq
    exact .absent
  · intro h
    cases h
    rfl

/-- An optional list that is absent has no items. -/
theorem listOf_absent_iff {holds : Data → α → Prop} (values : List α) :
    [] = values ↔ ListOf holds none values := by
  apply Iff.intro
  · intro heq
    subst heq
    exact .absent
  · intro h
    cases h
    rfl

/-- The check of an optional text member gives what the member stands for. -/
theorem textMember_eq_valid_iff (hmembers : (Data.map members).IsJson) {name : String}
    {value : Option String} :
    textMember name members = .valid value ↔
      OptionalOf TextOf (firstMember? [name] members) value := by
  rw [firstMember?_single]
  exact withDefault_eq_valid_iff optionalText_gives optionalOf_absent_iff hmembers

/-- The check of a delay member gives what the member stands for. -/
theorem delayMember_eq_valid_iff (hmembers : (Data.map members).IsJson) {name : String}
    {value : Option Duration} :
    withDefault name none optionalDelay members = .valid value ↔
      OptionalOf DelayOf (Data.member? name members) value :=
  withDefault_eq_valid_iff optionalDelay_gives optionalOf_absent_iff hmembers

/-- The check of an optional list gives the values that the member stands for, in order. -/
theorem listMember_eq_valid_iff {check : Data → Checked α} {holds : Data → α → Prop}
    (hcheck : Gives check holds) (hmembers : (Data.map members).IsJson) {name : String}
    {values : List α} :
    withDefault name [] (listOf check) members = .valid values ↔
      ListOf holds (Data.member? name members) values :=
  withDefault_eq_valid_iff (listOf_gives hcheck) listOf_absent_iff hmembers

/-- The check of the class that suppresses a click gives what the first of its names stands
for. -/
theorem skipClassMember_eq_valid_iff (hmembers : (Data.map members).IsJson)
    {value : Option String} :
    skipClassMember members = .valid value ↔
      OptionalOf TextOf (firstMember? ["skipIfHasClass", "skip_if_has_class"] members) value := by
  unfold skipClassMember
  rw [firstMember?_pair]
  cases hmember : Data.member? "skipIfHasClass" members with
  | none =>
    rw [Option.none_or, ← firstMember?_single]
    exact textMember_eq_valid_iff hmembers
  | some data =>
    rw [Option.some_or, Checked.within_eq_valid_iff]
    exact optionalText_gives data (hmembers.member hmember) value

end BrowserScenario.Schema
