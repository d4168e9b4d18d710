import BrowserScenario.Proofs.Data.Checked
import BrowserScenario.Proofs.Json.Decoded
import BrowserScenario.Scenario.Schema

/-!
# Fields of scenario documents

What a field of decoded JSON may hold, and what it stands for. A text may be given as a number
that is not a truth value; a delay is what converts to a floating point number that is not below
zero. An optional field may be absent or null, an optional list may be absent. Main statements:
each check of the schema gives exactly the values that its field stands for, and there is one
exactly when the field is accepted.
-/

namespace BrowserScenario.Schema

open BrowserScenario.Number BrowserScenario.Time

variable {α : Type}

/-- A check that gives the values which decoded JSON stands for, and no others. -/
def Gives (check : Data → Checked α) (holds : Data → α → Prop) : Prop :=
  ∀ data, data.IsJson → ∀ value, check data = .valid value ↔ holds data value

/-- The text that a text or a number stands for. -/
inductive TextOf : Data → String → Prop
  | text (s : String) : TextOf (.text s) s
  | int (n : Int) : TextOf (.int n) (Data.intText n)
  | float (x : Binary64) : TextOf (.float x) x.text

/-- The floating point number that a value converts to. -/
inductive NumberOf : Data → Binary64 → Prop
  | bool (b : Bool) : NumberOf (.bool b) (Binary64.ofInt (if b then 1 else 0))
  | int {n : Int} {x : Binary64} (h : Binary64.ofInt? n = some x) : NumberOf (.int n) x
  | float (x : Binary64) : NumberOf (.float x) x
  | text {s : String} {x : Binary64} (h : fieldNumber? s.toList = some x) : NumberOf (.text s) x

/-- The delay that a value stands for. -/
inductive DelayOf : Data → Duration → Prop
  | number {data : Data} {x : Binary64} (h : NumberOf data x) (hx : x.isNonnegative = true) :
    DelayOf data (.floating x)

/-- The value of a field that has to be there. -/
def RequiredOf (holds : Data → α → Prop) (field : Option Data) (value : α) : Prop :=
  ∃ data, field = some data ∧ holds data value

/-- The value of an optional field: none when it is absent or null. -/
inductive OptionalOf (holds : Data → α → Prop) : Option Data → Option α → Prop
  | absent : OptionalOf holds none none
  | null : OptionalOf holds (some .null) none
  | given {data : Data} {value : α} (h : holds data value) :
    OptionalOf holds (some data) (some value)

/-- The items of an optional list, in order: none when it is absent. -/
inductive ListOf (holds : Data → α → Prop) : Option Data → List α → Prop
  | absent : ListOf holds none []
  | given {items : List Data} {values : List α} (h : List.Forall₂ holds items values) :
    ListOf holds (some (.list items)) values

/-- A text, or a number that is not a truth value. -/
def IsTextual : Data → Prop
  | .text _ => True
  | .int _ => True
  | .float _ => True
  | _ => False

/-- A value that converts to a floating point number that is not below zero. -/
def IsDelay (data : Data) : Prop :=
  ∃ x, NumberOf data x ∧ x.isNonnegative = true

/-- A field that is absent, null, or of the given kind. -/
def OptionallyA (kind : Data → Prop) (field : Option Data) : Prop :=
  ∀ data, field = some data → data = .null ∨ kind data

/-- A field that is absent, or an array of items of the given kind. -/
def OptionallyListOf (kind : Data → Prop) (field : Option Data) : Prop :=
  ∀ data, field = some data → ∃ items, data = .list items ∧ ∀ item ∈ items, kind item

/-- The member with one of several names; an earlier name is preferred. -/
def firstMember? (names : List String) (members : Members) : Option Data :=
  names.findSome? fun name => Data.member? name members

/-- What is textual stands for a text. -/
theorem isTextual_iff {data : Data} : IsTextual data ↔ ∃ s, TextOf data s := by
  apply Iff.intro
  · intro h
    cases data with
    | text s => exact ⟨_, .text s⟩
    | int n => exact ⟨_, .int n⟩
    | float x => exact ⟨_, .float x⟩
    | _ => exact h.elim
  · intro h
    obtain ⟨s, h⟩ := h
    cases h <;> trivial

/-- What is a delay stands for one. -/
theorem isDelay_iff {data : Data} : IsDelay data ↔ ∃ delay, DelayOf data delay := by
  apply Iff.intro
  · intro h
    obtain ⟨x, hx, hnonnegative⟩ := h
    exact ⟨_, .number hx hnonnegative⟩
  · intro h
    obtain ⟨delay, h⟩ := h
    cases h with
    | number hx hnonnegative => exact ⟨_, hx, hnonnegative⟩

/-- An optional field stands for something exactly when it is absent, null, or of the kind that
stands for something. -/
theorem optionallyA_iff {holds : Data → α → Prop} {kind : Data → Prop}
    (hkind : ∀ data, kind data ↔ ∃ value, holds data value) {field : Option Data} :
    OptionallyA kind field ↔ ∃ value, OptionalOf holds field value := by
  apply Iff.intro
  · intro h
    cases field with
    | none => exact ⟨none, .absent⟩
    | some data =>
      rcases h data rfl with rfl | hdata
      · exact ⟨none, .null⟩
      · obtain ⟨value, hvalue⟩ := (hkind data).1 hdata
        exact ⟨some value, .given hvalue⟩
  · intro h data heq
    obtain ⟨value, h⟩ := h
    subst heq
    cases h with
    | null => exact Or.inl rfl
    | given hvalue => exact Or.inr ((hkind data).2 ⟨_, hvalue⟩)

/-- The items of a list all stand for something exactly when a list of values is what they stand
for. -/
theorem exists_forall₂_iff {β : Type} {holds : β → α → Prop} {items : List β} :
    (∃ values, List.Forall₂ holds items values) ↔ ∀ item ∈ items, ∃ value, holds item value := by
  induction items with
  | nil => simp
  | cons item rest ih =>
    rw [List.forall_mem_cons, ← ih]
    apply Iff.intro
    · intro h
      obtain ⟨values, h⟩ := h
      cases h with
      | cons hvalue hrest => exact ⟨⟨_, hvalue⟩, ⟨_, hrest⟩⟩
    · intro h
      obtain ⟨⟨value, hvalue⟩, ⟨others, hothers⟩⟩ := h
      exact ⟨value :: others, .cons hvalue hothers⟩

/-- An optional list stands for something exactly when it is absent or an array whose items do. -/
theorem optionallyListOf_iff {holds : Data → α → Prop} {kind : Data → Prop}
    (hkind : ∀ data, kind data ↔ ∃ value, holds data value) {field : Option Data} :
    OptionallyListOf kind field ↔ ∃ values, ListOf holds field values := by
  apply Iff.intro
  · intro h
    cases field with
    | none => exact ⟨[], .absent⟩
    | some data =>
      obtain ⟨items, rfl, hitems⟩ := h data rfl
      obtain ⟨values, hvalues⟩ :=
        exists_forall₂_iff.2 fun item hitem => (hkind item).1 (hitems item hitem)
      exact ⟨values, .given hvalues⟩
  · intro h data heq
    obtain ⟨values, h⟩ := h
    subst heq
    cases h with
    | given hvalues =>
      refine ⟨_, rfl, fun item hitem => (hkind item).2 ?_⟩
      exact exists_forall₂_iff.1 ⟨_, hvalues⟩ item hitem

/-- The check of a text gives the text that decoded JSON stands for. -/
theorem text_gives : Gives text TextOf := by
  intro data hdata s
  apply Iff.intro
  · intro h
    cases hdata with
    | text other =>
      obtain rfl : other = s := Checked.valid.inj h
      exact .text other
    | @int n hn =>
      rw [text, if_pos hn] at h
      obtain rfl : Data.intText n = s := Checked.valid.inj h
      exact .int n
    | float x =>
      obtain rfl : x.text = s := Checked.valid.inj h
      exact .float x
    | _ => exact nomatch h
  · intro h
    cases h with
    | text s => rfl
    | int n => exact if_pos (Data.isJson_int_iff.1 hdata)
    | float x => rfl

/-- The check of a number gives the number that decoded JSON converts to. -/
theorem number_gives : Gives number NumberOf := by
  intro data hdata x
  apply Iff.intro
  · intro h
    cases hdata with
    | bool b =>
      obtain rfl : Binary64.ofInt (if b then 1 else 0) = x := Checked.valid.inj h
      exact .bool b
    | @int n _ =>
      simp only [number] at h
      split at h
      · rename_i other hother
        obtain rfl : other = x := Checked.valid.inj h
        exact .int hother
      · exact absurd h (Checked.fail_ne_valid _ _)
    | float other =>
      obtain rfl : other = x := Checked.valid.inj h
      exact .float other
    | text s =>
      simp only [number, numberOfText] at h
      split at h
      · rename_i other hother
        obtain rfl : other = x := Checked.valid.inj h
        exact .text hother
      · exact absurd h (Checked.fail_ne_valid _ _)
    | _ => exact nomatch h
  · intro h
    cases h with
    | bool b => rfl
    | int hx => simp only [number, hx]
    | float x => rfl
    | text hx => simp only [number, numberOfText, hx]

end BrowserScenario.Schema
