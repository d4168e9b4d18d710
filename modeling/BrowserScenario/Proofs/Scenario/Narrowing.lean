import BrowserScenario.Scenario.Select
import Mathlib.Data.List.Nodup
import Mathlib.Data.List.Perm.Basic

/-!
# Selections one after the other

A list of scenarios may be narrowed by a sequence of selections, each of which selects from what the
one before it kept. A selection of an identity keeps the first scenario with it, which is not a test
of single scenarios; where no two scenarios share an identity it is one, and so is the whole
selection. What is kept is a sublist, so that identities stay distinct on the way. Main statement:
selecting again changes nothing, and on scenarios with distinct identities the selections of a
sequence may be put into any order, repeated, or taken apart into their filters.
-/

namespace BrowserScenario

open BrowserScenario.Text

/-- What is left of scenarios when selections are made one after the other. -/
def narrow [CharacterNames] (selections : List Selection) (scenarios : List Scenario) :
    Except Pattern.Error (List Scenario) :=
  selections.foldlM (fun kept selection => selection.select kept) scenarios

namespace Selection

/-- The pattern of a selection, if there is one, can be read. -/
def IsReadable [CharacterNames] (selection : Selection) : Prop :=
  selection.name ≠ "" → ∃ compiled, Pattern.compile selection.name = .ok compiled

/-- The scenario with the identity that is asked for, or all of them. -/
def identified (selection : Selection) (scenarios : List Scenario) : List Scenario :=
  if selection.id.isEmpty then scenarios else (scenarioWithId? selection.id scenarios).toList

/-- Whether a scenario has the tag that is asked for. -/
def isTagged (selection : Selection) (scenario : Scenario) : Bool :=
  selection.tag.isEmpty || scenario.tags.contains selection.tag

/-- Whether a scenario has a name in which the pattern that is asked for is found; one that cannot
be read is not found. -/
def isNamed [CharacterNames] (selection : Selection) (scenario : Scenario) : Bool :=
  selection.name.isEmpty ||
    match Pattern.compile selection.name with
    | .ok compiled => compiled.search scenario.name
    | .error _ => false

/-- Whether a scenario has the tag and the name that are asked for. -/
def passes [CharacterNames] (selection : Selection) (scenario : Scenario) : Bool :=
  selection.isNamed scenario && selection.isTagged scenario

/-- Whether a scenario has all that is asked for, seen on its own. -/
def keeps [CharacterNames] (selection : Selection) (scenario : Scenario) : Bool :=
  selection.passes scenario && (selection.id.isEmpty || scenario.id == selection.id)

variable {selection : Selection} {scenarios kept : List Scenario}

/-- A selection whose pattern can be read tests what has the identity. -/
theorem select_of_isReadable [CharacterNames] (hreadable : selection.IsReadable)
    (scenarios : List Scenario) : selection.select scenarios =
      .ok ((selection.identified scenarios).filter selection.passes) := by
  have htagged : (if selection.tag.isEmpty then selection.identified scenarios
      else scenariosWithTag selection.tag (selection.identified scenarios)) =
        (selection.identified scenarios).filter selection.isTagged := by
    unfold isTagged
    by_cases htag : selection.tag.isEmpty = true
    · simp [htag]
    · simp [htag, scenariosWithTag]
  have hnamed : (selection.identified scenarios).filter selection.passes =
      ((selection.identified scenarios).filter selection.isTagged).filter selection.isNamed :=
    List.filter_filter.symm
  unfold select
  simp only
  rw [hnamed, ← identified, htagged]
  unfold isNamed
  by_cases hname : selection.name.isEmpty = true
  · simp [hname]
  · obtain ⟨compiled, hcompiled⟩ := hreadable (mt String.isEmpty_iff.2 hname)
    simp [hname, scenariosWithName, hcompiled]

/-- All selections with one pattern that cannot be read are refused alike, whatever there is to
select from. -/
theorem exists_error_of_not_isReadable [CharacterNames] (hreadable : ¬ selection.IsReadable) :
    ∃ error, ∀ other : Selection, other.name = selection.name →
      ∀ scenarios, other.select scenarios = .error error := by
  obtain ⟨hname, hcompile⟩ := Classical.not_imp.1 hreadable
  cases herror : Pattern.compile selection.name with
  | ok compiled => exact absurd ⟨compiled, herror⟩ hcompile
  | error error =>
    refine ⟨error, fun other hother scenarios => ?_⟩
    unfold select scenariosWithName
    rw [hother, if_neg (mt String.isEmpty_iff.1 hname), herror]

/-- What is left of the scenario with an identity is found by it again. -/
theorem identified_of_sublist (h : kept.Sublist (selection.identified scenarios)) :
    selection.identified kept = kept := by
  by_cases hid : selection.id.isEmpty = true
  · exact if_pos hid
  · unfold identified at h ⊢
    rw [if_neg hid] at h ⊢
    cases hfound : scenarioWithId? selection.id scenarios with
    | none =>
      rw [hfound] at h
      rw [List.sublist_nil.1 h]
      rfl
    | some found =>
      rw [hfound, Option.toList_some, List.sublist_singleton] at h
      have htest : (found.id == selection.id) = true :=
        List.find?_some (p := fun scenario : Scenario => scenario.id == selection.id) hfound
      rcases h with rfl | rfl
      · rfl
      · simp [scenarioWithId?, htest]

/-- A selection keeps all that it has selected. -/
theorem select_bind_select [CharacterNames] (selection : Selection) (scenarios : List Scenario) :
    (selection.select scenarios).bind selection.select = selection.select scenarios := by
  by_cases hreadable : selection.IsReadable
  · rw [select_of_isReadable hreadable]
    change selection.select _ = _
    rw [select_of_isReadable hreadable, identified_of_sublist List.filter_sublist,
      List.filter_filter]
    simp
  · obtain ⟨error, herror⟩ := exists_error_of_not_isReadable hreadable
    rw [herror selection rfl]
    rfl

/-- Where identities are distinct, those who have an identity are the first who has it. -/
theorem toList_scenarioWithId? (id : String) (hdistinct : (scenarios.map (·.id)).Nodup) :
    (scenarioWithId? id scenarios).toList = scenarios.filter (·.id == id) := by
  unfold scenarioWithId?
  induction scenarios with
  | nil => rfl
  | cons scenario rest ih =>
    rw [List.map_cons, List.nodup_cons] at hdistinct
    by_cases hid : scenario.id = id
    · have hothers : rest.filter (·.id == id) = [] := by
        rw [List.filter_eq_nil_iff]
        intro other hother hsame
        have hsame : other.id = scenario.id := (beq_iff_eq.1 hsame).trans hid.symm
        exact hdistinct.1 (List.mem_map.2 ⟨other, hother, hsame⟩)
      simp [hid, hothers]
    · simp [hid, ih hdistinct.2]

/-- Where identities are distinct, a selection tests every scenario on its own. -/
theorem select_of_nodup [CharacterNames] (hreadable : selection.IsReadable)
    (hdistinct : (scenarios.map (·.id)).Nodup) :
    selection.select scenarios = .ok (scenarios.filter selection.keeps) := by
  have hidentified : selection.identified scenarios = scenarios.filter fun scenario =>
      selection.id.isEmpty || scenario.id == selection.id := by
    unfold identified
    by_cases hid : selection.id.isEmpty = true
    · simp [hid]
    · rw [if_neg hid, toList_scenarioWithId? _ hdistinct]
      simp [hid]
  rw [select_of_isReadable hreadable, hidentified, List.filter_filter]
  rfl

/-- The selections that ask for one of the three each. -/
def filters (selection : Selection) : List Selection :=
  [⟨selection.id, "", ""⟩, ⟨"", selection.tag, ""⟩, ⟨"", "", selection.name⟩]

/-- The filters of a selection keep together what the selection keeps. -/
theorem all_filters_keeps [CharacterNames] (selection : Selection) (scenario : Scenario) :
    selection.filters.all (·.keeps scenario) = selection.keeps scenario := by
  have hempty : "".isEmpty = true := rfl
  simp only [filters, keeps, passes, isTagged, isNamed, hempty, Bool.true_or, Bool.true_and,
    Bool.and_true, List.all_cons, List.all_nil]
  ac_rfl

/-- Only one of the filters of a selection has its pattern, the others have none and can be read. -/
theorem eq_or_isReadable_of_mem_filters [CharacterNames] {filter : Selection}
    (h : filter ∈ selection.filters) :
    filter = ⟨"", "", selection.name⟩ ∨ filter.IsReadable := by
  simp only [filters, List.mem_cons, List.not_mem_nil, or_false] at h
  rcases h with rfl | rfl | rfl
  · exact .inr fun hname => absurd rfl hname
  · exact .inr fun hname => absurd rfl hname
  · exact .inl rfl

end Selection

open Selection

variable {selections others : List Selection} {scenarios : List Scenario}

/-- Selections that can be read keep what all of them keep. -/
theorem narrow_of_nodup [CharacterNames]
    (hreadable : ∀ selection ∈ selections, selection.IsReadable)
    (hdistinct : (scenarios.map (·.id)).Nodup) :
    narrow selections scenarios =
      .ok (scenarios.filter fun scenario => selections.all (·.keeps scenario)) := by
  unfold narrow
  induction selections generalizing scenarios with
  | nil => simp [pure, Except.pure]
  | cons selection rest ih =>
    rw [List.forall_mem_cons] at hreadable
    have hkept : ((scenarios.filter selection.keeps).map (·.id)).Nodup :=
      hdistinct.sublist (List.filter_sublist.map _)
    rw [List.foldlM_cons, select_of_nodup hreadable.1 hdistinct]
    change rest.foldlM _ _ = _
    rw [ih hreadable.2 hkept, List.filter_filter]
    simp [Bool.and_comm]

/-- Only which selections there are matters for what all of them keep. -/
theorem all_keeps_congr [CharacterNames]
    (hsame : ∀ selection, selection ∈ others ↔ selection ∈ selections)
    (scenario : Scenario) : others.all (·.keeps scenario) = selections.all (·.keeps scenario) := by
  rw [Bool.eq_iff_iff, List.all_eq_true, List.all_eq_true]
  exact forall_congr' fun selection => imp_congr_left (hsame selection)

/-- Selections are refused if the pattern of one of them cannot be read and all others can. -/
theorem narrow_of_not_isReadable [CharacterNames] {refused : Selection}
    (hrefused : ¬ refused.IsReadable) (hmem : refused ∈ selections)
    (hothers : ∀ selection ∈ selections, selection = refused ∨ selection.IsReadable)
    (scenarios : List Scenario) : narrow selections scenarios = refused.select scenarios := by
  obtain ⟨error, herror⟩ := exists_error_of_not_isReadable hrefused
  rw [herror refused rfl]
  unfold narrow
  induction selections generalizing scenarios with
  | nil => exact nomatch hmem
  | cons selection rest ih =>
    rw [List.forall_mem_cons] at hothers
    rw [List.foldlM_cons]
    by_cases hfirst : selection = refused
    · rw [hfirst, herror refused rfl]
      rfl
    · rw [select_of_isReadable (hothers.1.resolve_left hfirst)]
      exact ih ((List.mem_cons.1 hmem).resolve_left (Ne.symm hfirst)) hothers.2 _

/-- The filters of a selection, one after the other in any order, select what the selection does,
or are refused as it is. -/
theorem narrow_filters [CharacterNames] (selection : Selection)
    (hdistinct : (scenarios.map (·.id)).Nodup) (hperm : selections.Perm selection.filters) :
    narrow selections scenarios = selection.select scenarios := by
  have hmembers : ∀ filter ∈ selections, filter = ⟨"", "", selection.name⟩ ∨ filter.IsReadable :=
    fun filter hfilter => eq_or_isReadable_of_mem_filters (hperm.mem_iff.1 hfilter)
  by_cases hreadable : selection.IsReadable
  · have hfilters : ∀ filter ∈ selections, filter.IsReadable := by
      intro filter hfilter
      rcases hmembers filter hfilter with rfl | hfilter
      · exact hreadable
      · exact hfilter
    rw [narrow_of_nodup hfilters hdistinct, select_of_nodup hreadable hdistinct]
    congr 1
    refine List.filter_congr fun scenario _ => ?_
    rw [all_keeps_congr fun _ => hperm.mem_iff, all_filters_keeps]
  · have hrefused : ¬ IsReadable ⟨"", "", selection.name⟩ := hreadable
    have hmem : ⟨"", "", selection.name⟩ ∈ selections := hperm.mem_iff.2 (by simp [filters])
    rw [narrow_of_not_isReadable hrefused hmem hmembers]
    obtain ⟨error, herror⟩ := exists_error_of_not_isReadable hreadable
    rw [herror selection rfl]
    exact herror ⟨"", "", selection.name⟩ rfl scenarios

/-- Selecting again with the same selection changes nothing. On scenarios with distinct identities,
selections that can be read keep those that each of them keeps, so that they may be made in any
order and any number of times; and a selection is the same as its three filters, one after the other
in any order. -/
theorem narrow_order_independent [CharacterNames] :
    (∀ (selection : Selection) (scenarios : List Scenario),
      narrow [selection, selection] scenarios = selection.select scenarios) ∧
    ∀ scenarios : List Scenario, (scenarios.map (·.id)).Nodup →
      (∀ selections others : List Selection,
        (∀ selection ∈ selections, selection.IsReadable) →
        (∀ selection, selection ∈ others ↔ selection ∈ selections) →
        ∃ kept, narrow selections scenarios = .ok kept ∧ narrow others scenarios = .ok kept ∧
          kept = scenarios.filter fun scenario => selections.all (·.keeps scenario)) ∧
      ∀ (selection : Selection) (single : List Selection), single.Perm selection.filters →
        narrow single scenarios = selection.select scenarios := by
  refine ⟨fun selection scenarios => ?_, fun scenarios hdistinct =>
    ⟨fun selections others hreadable hsame => ?_, fun selection single hperm =>
      narrow_filters selection hdistinct hperm⟩⟩
  · have htwice := select_bind_select selection scenarios
    rw [← htwice]
    unfold narrow
    rw [List.foldlM_cons]
    exact congrArg (selection.select scenarios).bind (funext fun kept => by simp)
  · refine ⟨_, narrow_of_nodup hreadable hdistinct, ?_, rfl⟩
    rw [narrow_of_nodup (fun selection hother => hreadable selection ((hsame selection).1 hother))
      hdistinct]
    simp only [all_keeps_congr hsame]

/-- Scenarios with identities of their own. -/
def trio : List Scenario :=
  [("1", "first", "a"), ("2", "second", "a"), ("3", "Second", "b")].map fun (identity, name, tag) =>
    ⟨identity, name, "/", [], [], [tag]⟩

/-- A tag and a pattern in one order, and in the other with the pattern twice; and all three filters
at once. -/
theorem narrow_order_independent_trio :
    (trio.map (·.id)).Nodup ∧
      (∀ selection ∈ [⟨"", "a", ""⟩, ⟨"", "", "SEC"⟩], IsReadable selection) ∧
      (∀ selection, selection ∈ [⟨"", "", "SEC"⟩, ⟨"", "a", ""⟩, ⟨"", "", "SEC"⟩] ↔
        selection ∈ [(⟨"", "a", ""⟩ : Selection), ⟨"", "", "SEC"⟩]) ∧
      (∃ kept, narrow [⟨"", "a", ""⟩, ⟨"", "", "SEC"⟩] trio = .ok kept ∧
        narrow [⟨"", "", "SEC"⟩, ⟨"", "a", ""⟩, ⟨"", "", "SEC"⟩] trio = .ok kept ∧
        kept = trio.filter fun scenario =>
          [⟨"", "a", ""⟩, ⟨"", "", "SEC"⟩].all fun selection => keeps selection scenario) ∧
      narrow [⟨"", "", "SEC"⟩, ⟨"2", "", ""⟩, ⟨"", "a", ""⟩] trio =
        Selection.select ⟨"2", "a", "SEC"⟩ trio := by
  have hdistinct : (trio.map (·.id)).Nodup := by decide
  have hreadable : ∀ selection ∈ [⟨"", "a", ""⟩, ⟨"", "", "SEC"⟩], IsReadable selection := by
    simp only [List.forall_mem_cons]
    exact ⟨fun hname => absurd rfl hname, fun _ => ⟨_, rfl⟩, by simp⟩
  have hsame : ∀ selection, selection ∈ [⟨"", "", "SEC"⟩, ⟨"", "a", ""⟩, ⟨"", "", "SEC"⟩] ↔
      selection ∈ [(⟨"", "a", ""⟩ : Selection), ⟨"", "", "SEC"⟩] := by
    simp only [List.mem_cons, List.not_mem_nil, or_false]
    intro selection
    tauto
  have hperm : [⟨"", "", "SEC"⟩, ⟨"2", "", ""⟩, ⟨"", "a", ""⟩].Perm (filters ⟨"2", "a", "SEC"⟩) := by
    decide
  obtain ⟨hany, hfilters⟩ := narrow_order_independent.2 trio hdistinct
  exact ⟨hdistinct, hreadable, hsame, hany _ _ hreadable hsame, hfilters _ _ hperm⟩

example : (narrow [⟨"", "", "SEC"⟩, ⟨"", "a", ""⟩] trio).map (·.map (·.id)) = .ok ["2"] := by
  decide +kernel

end BrowserScenario
