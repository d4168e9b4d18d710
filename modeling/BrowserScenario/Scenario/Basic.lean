import BrowserScenario.Time.Duration

/-!
# Scenarios

A scenario leads a browser to an address, performs steps there in order, and then checks
expectations in order. Each kind of step and each kind of expectation has its own optional
fields; a field that is absent says nothing, and one that is empty counts as missing where it is
needed. Main statement: tags are held in order and without repetition, whatever they were made of.
-/

namespace BrowserScenario

open BrowserScenario.Time

/-- One interaction with the page. -/
inductive Step
  | fill (selector value : Option String)
  | click (selector skipClass : Option String)
  | type (selector value : Option String) (delay : Option Duration)
  | select (selector value : Option String)
  | check (selector : Option String)
  | uncheck (selector : Option String)
  | hover (selector : Option String)
  | wait (value : Option String)
deriving DecidableEq, Repr

/-- One condition that the page has to meet. -/
inductive Expectation
  | url (value : Option String)
  | text (selector value : Option String)
  | notText (selector value : Option String)
  | visible (selector : Option String)
  | hidden (selector : Option String)
  | hasAttribute (selector name value : Option String)
  | count (selector value : Option String)
deriving DecidableEq, Repr

/-- A scenario with its identity, its target and what is done and checked there. -/
structure Scenario where
  id : String
  name : String
  url : String
  steps : List Step
  expectations : List Expectation
  tags : List String
deriving DecidableEq, Repr

/-- The word for the action of a step. -/
def Step.action : Step → String
  | .fill .. => "fill"
  | .click .. => "click"
  | .type .. => "type"
  | .select .. => "select"
  | .check .. => "check"
  | .uncheck .. => "uncheck"
  | .hover .. => "hover"
  | .wait .. => "wait"

/-- The word for the kind of an expectation. -/
def Expectation.kind : Expectation → String
  | .url .. => "url"
  | .text .. => "text"
  | .notText .. => "notText"
  | .visible .. => "visible"
  | .hidden .. => "hidden"
  | .hasAttribute .. => "attribute"
  | .count .. => "count"

/-- What identifies a scenario in a log, with the length of its two parts. -/
structure Summary where
  id : String
  steps : Nat
  expectations : Nat
deriving DecidableEq, Repr

/-- The summary of a scenario. -/
def Scenario.summary (scenario : Scenario) : Summary :=
  ⟨scenario.id, scenario.steps.length, scenario.expectations.length⟩

/-- A field that is present and not empty. -/
def filled? (field : Option String) : Option String :=
  field.filter (· != "")

/-- A tag put into its place among tags in increasing order, unless it is there already. -/
def insertTag (tag : String) : List String → List String
  | [] => [tag]
  | other :: rest =>
    if tag = other then other :: rest
    else if tag < other then tag :: other :: rest
    else other :: insertTag tag rest

/-- The tags in increasing order, each once. -/
def tagSet (tags : List String) : List String :=
  tags.foldr insertTag []

/-- Putting a tag into its place adds it and nothing else. -/
theorem mem_insertTag {tag other : String} {tags : List String} :
    other ∈ insertTag tag tags ↔ other = tag ∨ other ∈ tags := by
  induction tags with
  | nil => simp [insertTag]
  | cons first rest ih =>
    unfold insertTag
    split
    · rename_i heq
      simp [heq]
    · split
      · simp
      · rw [List.mem_cons, ih, List.mem_cons]
        constructor
        · rintro (h | h | h)
          · exact Or.inr (Or.inl h)
          · exact Or.inl h
          · exact Or.inr (Or.inr h)
        · rintro (h | h | h)
          · exact Or.inr (Or.inl h)
          · exact Or.inl h
          · exact Or.inr (Or.inr h)

/-- Putting a tag into its place keeps the order. -/
theorem insertTag_increasing {tag : String} {tags : List String}
    (h : tags.Pairwise (· < ·)) : (insertTag tag tags).Pairwise (· < ·) := by
  induction tags with
  | nil => simp [insertTag]
  | cons first rest ih =>
    rw [List.pairwise_cons] at h
    unfold insertTag
    split
    · exact List.pairwise_cons.2 h
    · rename_i hne
      split
      · rename_i hlt
        refine List.pairwise_cons.2 ⟨fun other hother => ?_, List.pairwise_cons.2 h⟩
        rcases List.mem_cons.1 hother with rfl | hmem
        · exact hlt
        · exact String.lt_trans hlt (h.1 other hmem)
      · rename_i hnlt
        refine List.pairwise_cons.2 ⟨fun other hother => ?_, ih h.2⟩
        rcases mem_insertTag.1 hother with rfl | hmem
        · exact Std.lt_of_le_of_ne (String.not_lt.1 hnlt) (fun heq => hne heq.symm)
        · exact h.1 other hmem

/-- A tag is among the ordered tags exactly when it is among the given ones. -/
theorem mem_tagSet {tag : String} {tags : List String} : tag ∈ tagSet tags ↔ tag ∈ tags := by
  induction tags with
  | nil => simp [tagSet]
  | cons first rest ih =>
    have hstep : tagSet (first :: rest) = insertTag first (tagSet rest) := rfl
    rw [hstep, mem_insertTag, ih, List.mem_cons]

/-- Tags are held in increasing order, so none is repeated. -/
theorem tagSet_increasing (tags : List String) : (tagSet tags).Pairwise (· < ·) := by
  induction tags with
  | nil => simp [tagSet]
  | cons first rest ih => exact insertTag_increasing ih

end BrowserScenario
