import BrowserScenario.Scenario.Select
import Mathlib.Data.List.Range

/-!
# Selected positions

A selection narrows a list in turn: to the first scenario with an identity, to those that carry a
tag, and to those whose name a pattern matches somewhere. Each of these steps picks the items at
certain positions, and what a step picks of what was picked before is told by positions of the whole
list. Main statement: a selection gives the scenarios at the positions that all its filters allow,
in order; of several scenarios with the identity only the least position is allowed, whatever the
other filters are; and a pattern that cannot be read is refused whatever is left for it to match.
-/

namespace BrowserScenario

open BrowserScenario.Pattern BrowserScenario.Text

section Picked

variable {α : Type} {items picked : List α} {holds : Nat → α → Prop}

/-- The items of a list at the positions where something holds, in order. -/
def PickedAt (holds : Nat → α → Prop) (items picked : List α) : Prop :=
  ∃ positions : List Nat, positions.Pairwise (· < ·) ∧
    (∀ position, position ∈ positions ↔ ∃ item, items[position]? = some item ∧
      holds position item) ∧
    picked = positions.filterMap fun position => items[position]?

/-- The items at all positions are the list. -/
theorem filterMap_range (items : List α) :
    (List.range items.length).filterMap (fun position => items[position]?) = items := by
  have hmap : (List.range items.length).map (fun position => items[position]?) =
      items.map some := by
    refine List.ext_getElem (by simp) fun position hrange hitems => ?_
    simp [List.getElem?_eq_getElem (by simpa using hitems : position < items.length)]
  calc (List.range items.length).filterMap (fun position => items[position]?)
      = ((List.range items.length).map fun position => items[position]?).filterMap id := by
        rw [List.filterMap_map]
        rfl
    _ = (items.map some).filterMap id := by rw [hmap]
    _ = items := by
        rw [List.filterMap_map]
        exact List.filterMap_some

/-- All items are picked where nothing is asked for. -/
theorem pickedAt_all (items : List α) : PickedAt (fun _ _ => True) items items := by
  refine ⟨List.range items.length, List.pairwise_lt_range, fun position => ?_,
    (filterMap_range items).symm⟩
  rw [List.mem_range]
  refine ⟨fun hlt => ⟨items[position], List.getElem?_eq_getElem hlt, trivial⟩, fun h => ?_⟩
  obtain ⟨item, hitem, -⟩ := h
  exact (List.getElem?_eq_some_iff.1 hitem).1

/-- What is asked for may be said in another way. -/
theorem PickedAt.congr (h : PickedAt holds items picked) {same : Nat → α → Prop}
    (hsame : ∀ position item, items[position]? = some item →
      (holds position item ↔ same position item)) : PickedAt same items picked := by
  obtain ⟨positions, hincreasing, hmem, hpicked⟩ := h
  refine ⟨positions, hincreasing, fun position => ?_, hpicked⟩
  rw [hmem]
  exact exists_congr fun item => and_congr_right fun hitem => hsame position item hitem

/-- Items that are picked and then tested are those that are allowed by both. -/
theorem PickedAt.filter (h : PickedAt holds items picked) (test : α → Bool) :
    PickedAt (fun position item => holds position item ∧ test item = true) items
      (picked.filter test) := by
  obtain ⟨positions, hincreasing, hmem, rfl⟩ := h
  refine ⟨positions.filter fun position => items[position]?.any test, hincreasing.filter _,
    fun position => ?_, ?_⟩
  · rw [List.mem_filter, hmem, Option.any_eq_true]
    constructor
    · rintro ⟨⟨item, hitem, hholds⟩, other, hother, htest⟩
      obtain rfl : item = other := Option.some.inj (hitem.symm.trans hother)
      exact ⟨item, hitem, hholds, htest⟩
    · rintro ⟨item, hitem, hholds, htest⟩
      exact ⟨⟨item, hitem, hholds⟩, item, hitem, htest⟩
  · rw [List.filter_filterMap, List.filterMap_filter]
    refine List.filterMap_congr fun position _ => ?_
    cases items[position]? with
    | none => rfl
    | some item => exact Option.filter_some

/-- The first item that a test allows is picked at the least position where it is allowed. -/
theorem pickedAt_find? (test : α → Bool) (items : List α) :
    PickedAt (fun position item => test item = true ∧
      ∀ earlier < position, ∀ other, items[earlier]? = some other → test other = false)
      items (items.find? test).toList := by
  cases hfound : items.find? test with
  | none =>
    refine ⟨[], .nil, fun position => ?_, rfl⟩
    constructor
    · intro h
      exact nomatch h
    · rintro ⟨item, hitem, htest, -⟩
      exact absurd htest (List.find?_eq_none.1 hfound item (List.mem_of_getElem? hitem))
  | some found =>
    obtain ⟨htest, least, hlt, rfl, hearlier⟩ := List.find?_eq_some_iff_getElem.1 hfound
    have hleast : items[least]? = some items[least] := List.getElem?_eq_getElem hlt
    refine ⟨[least], List.pairwise_singleton _ _, fun position => ?_, by simp [hleast]⟩
    rw [List.mem_singleton]
    constructor
    · rintro rfl
      refine ⟨items[position], hleast, htest, fun earlier hlt' other hother => ?_⟩
      obtain ⟨_, rfl⟩ := List.getElem?_eq_some_iff.1 hother
      simpa using hearlier earlier hlt'
    · rintro ⟨item, hitem, hallowed, hnone⟩
      obtain ⟨hposition, rfl⟩ := List.getElem?_eq_some_iff.1 hitem
      -- Neither position is before the other, as each is the first that is allowed.
      rcases Nat.lt_trichotomy position least with hbefore | rfl | hafter
      · have hrefused := hearlier position hbefore
        rw [hallowed] at hrefused
        exact nomatch hrefused
      · rfl
      · have hrefused := hnone least hafter _ hleast
        rw [htest] at hrefused
        exact nomatch hrefused

end Picked

namespace Pattern

/-- A compiled pattern matches somewhere in a text: it does so at a place that has some of the
characters before it and the others after it. -/
def Compiled.MatchesIn (compiled : Compiled) (text : String) : Prop :=
  ∃ before after, text.toList = before ++ after ∧
    (compiled.node.matching compiled.groups compiled.switches stop
      ⟨before.reverse, after, before.length⟩ []).isSome = true

/-- A search tries every place from its start on. -/
theorem searchFrom_iff (attempt : Cursor → Bool) (before : List Char) (position : Nat)
    (rest : List Char) :
    searchFrom attempt before position rest = true ↔ ∃ front back, rest = front ++ back ∧
      attempt ⟨front.reverse ++ before, back, position + front.length⟩ = true := by
  induction rest generalizing before position with
  | nil =>
    rw [searchFrom]
    constructor
    · intro h
      exact ⟨[], [], rfl, h⟩
    · rintro ⟨front, back, hrest, h⟩
      obtain ⟨rfl, rfl⟩ := List.append_eq_nil_iff.1 hrest.symm
      exact h
  | cons c rest ih =>
    rw [searchFrom, Bool.or_eq_true, ih]
    constructor
    · rintro (h | ⟨front, back, rfl, h⟩)
      · exact ⟨[], c :: rest, rfl, h⟩
      · refine ⟨c :: front, back, rfl, ?_⟩
        rw [List.reverse_cons, List.append_assoc, List.length_cons, Nat.add_comm front.length,
          ← Nat.add_assoc]
        exact h
    · rintro ⟨front, back, hrest, h⟩
      cases front with
      | nil =>
        obtain rfl : c :: rest = back := hrest
        exact .inl h
      | cons first front =>
        obtain ⟨rfl, rfl⟩ := List.cons.inj hrest
        rw [List.reverse_cons, List.append_assoc, List.length_cons, Nat.add_comm front.length,
          ← Nat.add_assoc] at h
        exact .inr ⟨front, back, rfl, h⟩

/-- A text is searched for a place where the pattern matches. -/
theorem search_iff (compiled : Compiled) (text : String) :
    compiled.search text = true ↔ compiled.MatchesIn text := by
  unfold Compiled.search Compiled.MatchesIn
  rw [searchFrom_iff]
  simp only [List.append_nil, Nat.zero_add]

end Pattern

section Filters

variable {scenarios picked : List Scenario} {holds : Nat → Scenario → Prop}

/-- Of the scenarios with an identity the one at the least position is picked. -/
theorem pickedAt_id (id : String) (scenarios : List Scenario) :
    PickedAt (fun position scenario => id = "" ∨ scenario.id = id ∧
        ∀ earlier < position, ∀ other, scenarios[earlier]? = some other → other.id ≠ id)
      scenarios (if id.isEmpty then scenarios else (scenarioWithId? id scenarios).toList) := by
  by_cases hid : id = ""
  · rw [if_pos (String.isEmpty_iff.2 hid)]
    exact (pickedAt_all scenarios).congr fun _ _ _ => by simp [hid]
  · rw [if_neg (mt String.isEmpty_iff.1 hid), scenarioWithId?]
    have hfirst := pickedAt_find? (fun scenario : Scenario => scenario.id == id) scenarios
    exact hfirst.congr fun _ _ _ => by simp [hid]

/-- Of the scenarios that are picked those with a tag stay. -/
theorem PickedAt.tag (h : PickedAt holds scenarios picked) (tag : String) :
    PickedAt (fun position scenario => holds position scenario ∧ (tag = "" ∨ tag ∈ scenario.tags))
      scenarios (if tag.isEmpty then picked else scenariosWithTag tag picked) := by
  by_cases htag : tag = ""
  · rw [if_pos (String.isEmpty_iff.2 htag)]
    exact h.congr fun _ _ _ => by simp [htag]
  · rw [if_neg (mt String.isEmpty_iff.1 htag)]
    exact (h.filter (·.tags.contains tag)).congr fun _ _ _ => by simp [htag]

/-- Of the scenarios that are picked those stay in whose name a pattern matches somewhere. -/
theorem PickedAt.name (h : PickedAt holds scenarios picked) (compiled : Compiled) :
    PickedAt (fun position scenario => holds position scenario ∧ compiled.MatchesIn scenario.name)
      scenarios (picked.filter fun scenario => compiled.search scenario.name) := by
  refine (h.filter fun scenario => compiled.search scenario.name).congr fun _ _ _ => ?_
  rw [Pattern.search_iff]

end Filters

/-- A scenario at a position of a list is allowed by all filters of a selection that are not empty:
it is the first with the identity, it carries the tag, and the pattern matches somewhere in its
name. -/
structure Selection.Allows [CharacterNames] (selection : Selection) (scenarios : List Scenario)
    (position : Nat) (scenario : Scenario) : Prop where
  id : selection.id = "" ∨ scenario.id = selection.id ∧
    ∀ earlier < position, ∀ other, scenarios[earlier]? = some other → other.id ≠ selection.id
  tag : selection.tag = "" ∨ selection.tag ∈ scenario.tags
  name : selection.name = "" ∨ ∃ compiled, Pattern.compile selection.name = .ok compiled ∧
    compiled.MatchesIn scenario.name

/-- A selection without a pattern gives the scenarios that the identity and the tag allow. -/
theorem Selection.select_of_noPattern [CharacterNames] (selection : Selection)
    (scenarios : List Scenario) (hname : selection.name = "") :
    ∃ selected, selection.select scenarios = .ok selected ∧
      PickedAt (selection.Allows scenarios) scenarios selected := by
  refine ⟨_, if_pos (String.isEmpty_iff.2 hname), ?_⟩
  have hpicked := (pickedAt_id selection.id scenarios).tag selection.tag
  refine hpicked.congr fun position scenario _ => ?_
  constructor
  · rintro ⟨hid, htag⟩
    exact ⟨hid, htag, .inl hname⟩
  · intro h
    exact ⟨h.id, h.tag⟩

/-- A selection with a pattern that can be read gives the scenarios that all its filters allow. -/
theorem Selection.select_of_compile [CharacterNames] (selection : Selection)
    (scenarios : List Scenario) (hname : selection.name ≠ "") {compiled : Compiled}
    (hcompiled : Pattern.compile selection.name = .ok compiled) :
    ∃ selected, selection.select scenarios = .ok selected ∧
      PickedAt (selection.Allows scenarios) scenarios selected := by
  have hpicked := ((pickedAt_id selection.id scenarios).tag selection.tag).name compiled
  refine ⟨_, ?_, hpicked.congr fun position scenario _ => ?_⟩
  · unfold Selection.select scenariosWithName
    rw [if_neg (mt String.isEmpty_iff.1 hname), hcompiled]
  · constructor
    · rintro ⟨⟨hid, htag⟩, hmatches⟩
      exact ⟨hid, htag, .inr ⟨compiled, hcompiled, hmatches⟩⟩
    · intro h
      obtain ⟨other, hother, hmatches⟩ := h.name.resolve_left hname
      obtain rfl : compiled = other := Except.ok.inj (hcompiled.symm.trans hother)
      exact ⟨⟨h.id, h.tag⟩, hmatches⟩

/-- A pattern that cannot be read is refused whatever the scenarios and the other filters are.
Otherwise a selection gives the scenarios at the positions that it allows, in order. -/
theorem select_positional [CharacterNames] (selection : Selection) (scenarios : List Scenario) :
    (∀ error, selection.name ≠ "" → Pattern.compile selection.name = .error error →
      selection.select scenarios = .error error) ∧
    ((selection.name ≠ "" → ∃ compiled, Pattern.compile selection.name = .ok compiled) →
      ∃ selected, selection.select scenarios = .ok selected ∧
        PickedAt (selection.Allows scenarios) scenarios selected) := by
  refine ⟨fun error hname herror => ?_, fun hreadable => ?_⟩
  · unfold Selection.select scenariosWithName
    rw [if_neg (mt String.isEmpty_iff.1 hname), herror]
  · by_cases hname : selection.name = ""
    · exact selection.select_of_noPattern scenarios hname
    · obtain ⟨compiled, hcompiled⟩ := hreadable hname
      exact selection.select_of_compile scenarios hname hcompiled

/-- Scenarios of which the first two have one identity. -/
def twins : List Scenario :=
  [("1", "first"), ("1", "second"), ("2", "second")].map fun (id, name) =>
    ⟨id, name, "/", [], [], []⟩

/-- A group that is not closed is refused when nothing is left to match, and the second twin is not
given where the first does not match. -/
theorem select_positional_twins :
    Selection.select ⟨"3", "", "("⟩ twins = .error (.at .unterminatedGroup 0) ∧
      (∃ compiled, Pattern.compile "SEC" = .ok compiled) ∧
        (∃ selected, Selection.select ⟨"1", "", "SEC"⟩ twins = .ok selected ∧
          PickedAt (Selection.Allows ⟨"1", "", "SEC"⟩ twins) twins selected) := by
  have hreadable : ∃ compiled, Pattern.compile "SEC" = .ok compiled := ⟨_, rfl⟩
  exact ⟨(select_positional _ twins).1 _ (by decide) rfl, hreadable,
    (select_positional ⟨"1", "", "SEC"⟩ twins).2 fun _ => hreadable⟩

example : Selection.select ⟨"1", "", "SEC"⟩ twins = .ok [] := by decide +kernel

end BrowserScenario
