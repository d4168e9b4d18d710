import BrowserScenario.Variables.Basic
import Mathlib.Data.List.Nodup

/-!
# Entries of variables

Variables that are made by setting names repeat none, so that their entries are the values that are
looked up. Main statements: of two lists of settings, made one after the other, the second decides
where it says something; and settings that repeat no name are the entries of the variables that they
make.
-/

namespace BrowserScenario.Variables

variable {name value : String} {entries settings : List (String × String)}

/-- The names after one is set are those before and, if it is new, the one that is set. -/
theorem keys_setIn (name value : String) (entries : List (String × String)) :
    (setIn name value entries).map Prod.fst =
      if name ∈ entries.map Prod.fst then entries.map Prod.fst
      else entries.map Prod.fst ++ [name] := by
  induction entries with
  | nil => simp [setIn]
  | cons entry rest ih =>
    obtain ⟨key, old⟩ := entry
    by_cases hkey : key = name
    · simp [setIn, hkey]
    · have hne : ¬ name = key := fun heq => hkey heq.symm
      rw [setIn, if_neg hkey, List.map_cons, ih]
      split
      · rename_i hmem
        simp [hmem]
      · rename_i hmem
        simp [hmem, hne]

/-- Setting a name repeats none. -/
theorem nodup_keys_setIn (h : (entries.map Prod.fst).Nodup) (name value : String) :
    ((setIn name value entries).map Prod.fst).Nodup := by
  rw [keys_setIn]
  split
  · exact h
  · rename_i hnew
    exact List.nodup_append.2 ⟨h, List.nodup_singleton name, by grind⟩

/-- Variables that are made by setting names repeat none. -/
theorem nodup_keys_ofList (settings : List (String × String)) :
    ((ofList settings).entries.map Prod.fst).Nodup := by
  have hfold (values : Variables) (h : (values.entries.map Prod.fst).Nodup) :
      ((settings.foldl (fun values setting => values.set setting.1 setting.2) values).entries.map
        Prod.fst).Nodup := by
    induction settings generalizing values with
    | nil => exact h
    | cons setting rest ih => exact ih _ (nodup_keys_setIn h setting.1 setting.2)
  exact hfold .empty List.nodup_nil

/-- A name that no entry has is found in none of them. -/
theorem lookupIn_eq_none (h : name ∉ entries.map Prod.fst) : lookupIn name entries = none := by
  induction entries with
  | nil => rfl
  | cons entry rest ih =>
    obtain ⟨hentry, hrest⟩ := List.ne_and_not_mem_of_not_mem_cons h
    rw [lookupIn, if_neg (Ne.symm hentry), ih hrest]

/-- Where no name is repeated, the entries are what is looked up. -/
theorem lookupIn_eq_some_iff (h : (entries.map Prod.fst).Nodup) :
    lookupIn name entries = some value ↔ (name, value) ∈ entries := by
  induction entries with
  | nil => simp [lookupIn]
  | cons entry rest ih =>
    obtain ⟨key, old⟩ := entry
    rw [List.map_cons, List.nodup_cons] at h
    rw [lookupIn, List.mem_cons, Prod.mk.injEq]
    by_cases hkey : key = name
    · subst hkey
      have hrest : (key, value) ∉ rest := fun hmem => h.1 (List.mem_map.2 ⟨_, hmem, rfl⟩)
      simp [hrest, eq_comm]
    · rw [if_neg hkey, ih h.2]
      simp [Ne.symm hkey]

/-- Look-ups agree in variables that repeat no name and have the same entries in any order. -/
theorem get?_of_perm {first second : Variables} (hnodup : (second.entries.map Prod.fst).Nodup)
    (hperm : first.entries.Perm second.entries) (name : String) :
    first.get? name = second.get? name := by
  have hfirst : (first.entries.map Prod.fst).Nodup := (hperm.map Prod.fst).nodup_iff.2 hnodup
  refine Option.ext fun value => ?_
  rw [get?, get?, lookupIn_eq_some_iff hfirst, lookupIn_eq_some_iff hnodup, hperm.mem_iff]

/-- After settings are made a name has what they give it, or else what it had before. -/
theorem get?_foldl_set (settings : List (String × String)) (values : Variables) (name : String) :
    (settings.foldl (fun values setting => values.set setting.1 setting.2) values).get? name =
      ((ofList settings).get? name).or (values.get? name) := by
  induction settings generalizing values with
  | nil => rfl
  | cons setting rest ih =>
    rw [ofList, List.foldl_cons, List.foldl_cons, ih, ih (empty.set setting.1 setting.2),
      get?_set, get?_set, Option.or_assoc]
    split
    · rfl
    · rfl

/-- Of settings made one after the other the later ones decide where they say something. -/
theorem get?_ofList_append (settings others : List (String × String)) (name : String) :
    (ofList (settings ++ others)).get? name =
      ((ofList others).get? name).or ((ofList settings).get? name) := by
  rw [ofList, List.foldl_append]
  exact get?_foldl_set others (ofList settings) name

/-- A new name is set at the end. -/
theorem setIn_of_not_mem (h : name ∉ entries.map Prod.fst) (value : String) :
    setIn name value entries = entries ++ [(name, value)] := by
  induction entries with
  | nil => rfl
  | cons entry rest ih =>
    obtain ⟨hentry, hrest⟩ := List.ne_and_not_mem_of_not_mem_cons h
    rw [setIn, if_neg (Ne.symm hentry), ih hrest, List.cons_append]

/-- Settings of new names that repeat none are added as they are. -/
theorem entries_foldl_set (values : Variables)
    (h : ((values.entries ++ settings).map Prod.fst).Nodup) :
    (settings.foldl (fun values setting => values.set setting.1 setting.2) values).entries =
      values.entries ++ settings := by
  induction settings generalizing values with
  | nil => exact (List.append_nil _).symm
  | cons setting rest ih =>
    have hnew : setting.1 ∉ values.entries.map Prod.fst := by
      rw [List.map_append, List.map_cons, List.nodup_append] at h
      exact fun hmem => h.2.2 _ hmem _ List.mem_cons_self rfl
    have hset : (values.set setting.1 setting.2).entries = values.entries ++ [setting] :=
      setIn_of_not_mem hnew setting.2
    rw [List.foldl_cons, ih _ (by rw [hset]; simpa using h), hset, List.append_assoc,
      List.singleton_append]

/-- Settings that repeat no name are the entries that they make. -/
theorem entries_ofList (h : (settings.map Prod.fst).Nodup) :
    (ofList settings).entries = settings :=
  entries_foldl_set empty h

end BrowserScenario.Variables
