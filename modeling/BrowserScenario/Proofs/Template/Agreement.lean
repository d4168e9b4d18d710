import BrowserScenario.Proofs.Template.Names

/-!
# Variables that agree

Of a name only its value counts, and an empty value counts as none. Variables agree on names when
they give the same to each of them. Main statements: a text is filled alike with variables that
agree on its names; and a name that is set or taken away changes nothing for other names.
-/

namespace BrowserScenario

/-- Variables without a name. -/
def Variables.without (values : Variables) (name : String) : Variables :=
  ⟨values.entries.filter (·.1 ≠ name)⟩

/-- The look-up in entries from which another name was taken away. -/
theorem Variables.lookupIn_filter_ne {name other : String} (h : other ≠ name)
    (entries : List (String × String)) :
    lookupIn other (entries.filter (·.1 ≠ name)) = lookupIn other entries := by
  induction entries with
  | nil => rfl
  | cons entry rest ih =>
    by_cases hentry : entry.1 = name
    · have hne : ¬ entry.1 = other := fun heq => h (heq.symm.trans hentry)
      rw [List.filter_cons_of_neg (by simp [hentry]), ih]
      simp [lookupIn, hne]
    · rw [List.filter_cons_of_pos (by simp [hentry])]
      simp only [lookupIn, ih]

/-- After a name is taken away, other names have what they had. -/
theorem Variables.get?_without_of_ne (values : Variables) {name other : String} (h : other ≠ name) :
    (values.without name).get? other = values.get? other :=
  lookupIn_filter_ne h values.entries

namespace Template

variable {names : List (List Char)} {first second : Variables}

/-- Variables agree on names when each of the names has the same value in both, where a name that
is absent counts as one with an empty value. -/
def AgreeOn (names : List (List Char)) (first second : Variables) : Prop :=
  ∀ name ∈ names, (first.get? (String.ofList name)).getD "" =
    (second.get? (String.ofList name)).getD ""

/-- Variables agree on the names of items when they agree on those of each item. -/
theorem agreeOn_flatMap {α : Type} {items : List α} {namesOf : α → List (List Char)} :
    AgreeOn (items.flatMap namesOf) first second ↔
      ∀ item ∈ items, AgreeOn (namesOf item) first second := by
  simp only [AgreeOn, List.mem_flatMap]
  grind

/-- A name that is set to a value changes nothing for other names. -/
theorem agreeOn_set (values : Variables) {name : String} (value : String)
    (h : name.toList ∉ names) : AgreeOn names (values.set name value) values := by
  intro other hother
  have hne : String.ofList other ≠ name := by
    rintro rfl
    exact h (by simpa using hother)
  rw [Variables.get?_set, if_neg hne]

/-- A name that is taken away changes nothing for other names. -/
theorem agreeOn_without (values : Variables) {name : String} (h : name.toList ∉ names) :
    AgreeOn names (values.without name) values := by
  intro other hother
  have hne : String.ofList other ≠ name := by
    rintro rfl
    exact h (by simpa using hother)
  rw [values.get?_without_of_ne hne]

/-- What a name stands for is told by its value, where none and an empty one are alike. -/
theorem valueOf?_eq (values : Variables) (name : List Char) :
    valueOf? values name =
      if ((values.get? (String.ofList name)).getD "").isEmpty then none
      else some ((values.get? (String.ofList name)).getD "").toList := by
  unfold valueOf?
  cases values.get? (String.ofList name) with
  | none => rfl
  | some value => rfl

/-- A text is filled alike with variables that agree on the names of its markers. -/
theorem fillChars_congr {text : List Char}
    (h : AgreeOn ((decompose text).pieces.map Piece.name) first second) :
    fillChars first text = fillChars second text := by
  induction text using decompose.induct with
  | case1 text name after hmarker ih =>
    rw [decompose_of_marker hmarker] at h
    obtain ⟨hname, hafter⟩ := List.forall_mem_cons.1 h
    have hvalue : valueOf? first name = valueOf? second name := by
      rw [valueOf?_eq, valueOf?_eq, hname]
    cases hsecond : valueOf? second name with
    | none =>
      rw [fillChars_of_missing hmarker (hvalue.trans hsecond),
        fillChars_of_missing hmarker hsecond]
    | some value =>
      rw [fillChars_of_marker hmarker (hvalue.trans hsecond), fillChars_of_marker hmarker hsecond,
        ih hafter]
  | case2 hmarker =>
    rw [fillChars, fillChars]
    rfl
  | case3 c rest hmarker ih =>
    rw [decompose_of_literal hmarker] at h
    rw [fillChars_of_literal hmarker, fillChars_of_literal hmarker, ih h]

/-- A text is filled alike with variables that agree on its names. -/
theorem fill_congr {text : String} (h : AgreeOn (Template.names text) first second) :
    fill first text = fill second text := by
  rw [fill, fill, fillChars_congr h]

end Template

end BrowserScenario
