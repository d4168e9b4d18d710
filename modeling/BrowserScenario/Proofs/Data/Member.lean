import BrowserScenario.Data.Basic
import Mathlib.Data.List.Nodup

/-!
# Members of a mapping by name

What is found under a name depends only on the entries of that name. Entries of other names may be
added, removed or changed. Main statements: where no two entries have one name, each is found under
its name, and the order of the entries does not matter.
-/

namespace BrowserScenario.Data

variable {name : String} {entries others : List (Data × Data)}

/-- The first entry is found under its name. -/
@[simp]
theorem member?_cons_self (name : String) (value : Data) (rest : List (Data × Data)) :
    member? name ((.text name, value) :: rest) = some value := by
  simp [member?]

/-- An entry of another name is passed over. -/
theorem member?_cons_of_ne {key : Data} (h : key ≠ .text name) (value : Data)
    (rest : List (Data × Data)) : member? name ((key, value) :: rest) = member? name rest := by
  cases key with
  | text other =>
    have hne : other ≠ name := fun heq => h (congrArg Data.text heq)
    simp [member?, hne]
  | _ => rfl

/-- In two lists of entries one after the other, the first list is preferred. -/
theorem member?_append (name : String) (entries others : List (Data × Data)) :
    member? name (entries ++ others) = (member? name entries).or (member? name others) := by
  induction entries with
  | nil => simp [member?]
  | cons entry rest ih =>
    obtain ⟨key, value⟩ := entry
    by_cases hkey : key = .text name
    · subst hkey
      simp
    · rw [List.cons_append, member?_cons_of_ne hkey, member?_cons_of_ne hkey, ih]

/-- An entry that is added is not seen under another name. -/
theorem member?_insert_of_ne {key : Data} (h : key ≠ .text name) (value : Data)
    (before after : List (Data × Data)) :
    member? name (before ++ (key, value) :: after) = member? name (before ++ after) := by
  rw [member?_append, member?_append, member?_cons_of_ne h]

/-- Nothing is found under a name that no entry has. -/
theorem member?_eq_none (h : .text name ∉ entries.map Prod.fst) : member? name entries = none := by
  induction entries with
  | nil => rfl
  | cons entry rest ih =>
    rw [List.map_cons, List.mem_cons, not_or] at h
    rw [member?_cons_of_ne (Ne.symm h.1)]
    exact ih h.2

/-- Where no two entries have one name, each entry is found under its name. -/
theorem member?_eq_some (hkeys : (entries.map Prod.fst).Nodup) {value : Data}
    (h : (.text name, value) ∈ entries) : member? name entries = some value := by
  induction entries with
  | nil => simp at h
  | cons entry rest ih =>
    rw [List.map_cons, List.nodup_cons] at hkeys
    rcases List.mem_cons.1 h with rfl | hrest
    · exact member?_cons_self name value rest
    · have hne : entry.1 ≠ .text name := by
        intro heq
        exact hkeys.1 (heq ▸ List.mem_map_of_mem hrest)
      rw [member?_cons_of_ne hne]
      exact ih hkeys.2 hrest

/-- Where no two entries have one name, their order does not matter. -/
theorem member?_perm (hkeys : (entries.map Prod.fst).Nodup) (h : entries.Perm others)
    (name : String) : member? name entries = member? name others := by
  have hkeys' : (others.map Prod.fst).Nodup := (h.map Prod.fst).nodup_iff.1 hkeys
  by_cases hname : .text name ∈ entries.map Prod.fst
  · obtain ⟨⟨key, value⟩, hentry, rfl⟩ := List.mem_map.1 hname
    rw [member?_eq_some hkeys hentry, member?_eq_some hkeys' (h.mem_iff.1 hentry)]
  · have hname' : .text name ∉ others.map Prod.fst := fun hmem =>
      hname ((h.map Prod.fst).mem_iff.2 hmem)
    rw [member?_eq_none hname, member?_eq_none hname']

end BrowserScenario.Data
