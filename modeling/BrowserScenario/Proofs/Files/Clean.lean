import BrowserScenario.Proofs.Files.Location

/-!
# Clean paths

A clean path is a root of one slash or two with proper names below it. It ends with a slash only if
it is a root, and a name that is joined to it goes one directory down. Main statements: what cleaning
gives is clean, and a path is clean exactly when cleaning leaves it as it is, whatever directory it is
meant from; and a path leads to the location that its clean form names.
-/

namespace BrowserScenario.Files

open BrowserScenario.Text

/-- A path of proper names below a root. -/
def IsClean (path : List Char) : Prop :=
  ∃ root names, (root = ['/'] ∨ root = ['/', '/']) ∧ (∀ name ∈ names, IsProper name) ∧
    path = root ++ joinChars '/' names

/-- A path that is led to from another by going down, one proper name after the other. -/
def LiesUnder (root path : List Char) : Prop :=
  ∃ names, names ≠ [] ∧ (∀ name ∈ names, IsProper name) ∧ path = names.foldl joinName root

variable {names : List (List Char)} {root path directory : List Char}

/-- Proper names that are joined start with something other than a slash. -/
theorem exists_joinChars_eq_cons (hne : names ≠ []) (h : ∀ name ∈ names, IsProper name) :
    ∃ c rest, c ≠ '/' ∧ joinChars '/' names = c :: rest := by
  obtain ⟨name, more, rfl⟩ := List.exists_cons_of_ne_nil hne
  have hname := h name List.mem_cons_self
  obtain ⟨c, rest, rfl⟩ := List.exists_cons_of_ne_nil hname.ne_nil
  have hc : c ≠ '/' := fun hslash => hname.no_slash (hslash ▸ List.mem_cons_self)
  cases more with
  | nil => exact ⟨c, rest, hc, rfl⟩
  | cons next others => exact ⟨c, _, hc, rfl⟩

/-- Proper names that are joined end with something other than a slash. -/
theorem getLast?_joinChars_ne (h : ∀ name ∈ names, IsProper name) :
    (joinChars '/' names).getLast? ≠ some '/' := by
  induction names with
  | nil => simp [joinChars]
  | cons name more ih =>
    obtain ⟨hname, hmore⟩ := List.forall_mem_cons.1 h
    cases more with
    | nil => exact fun hlast => hname.no_slash (List.mem_of_getLast? hlast)
    | cons next others =>
      obtain ⟨c, rest, -, hjoined⟩ := exists_joinChars_eq_cons (List.cons_ne_nil next others) hmore
      have hend := ih hmore
      rw [hjoined] at hend
      rw [joinChars, hjoined]
      · simpa using hend
      · simp

/-- The root of proper names below a root is that root. -/
theorem rootOf_root_append (hroot : root = ['/'] ∨ root = ['/', '/'])
    (h : ∀ name ∈ names, IsProper name) : rootOf (root ++ joinChars '/' names) = root := by
  by_cases hnames : names = []
  · subst hnames
    rcases hroot with rfl | rfl <;> rfl
  · obtain ⟨c, rest, hc, hjoined⟩ := exists_joinChars_eq_cons hnames h
    rw [hjoined]
    rcases hroot with rfl | rfl <;> simp [rootOf, hc]

/-- What cleaning gives is clean. -/
theorem isClean_clean (directory path : List Char) : IsClean (clean directory path) :=
  ⟨_, _, rootOf_eq _, fun _ => isProper_of_mem_namesOf, rfl⟩

namespace IsClean

variable (h : IsClean path)
include h

/-- A clean path is absolute. -/
theorem isAbsolute : isAbsolute path = true := by
  obtain ⟨_, names, rfl | rfl, -, rfl⟩ := h <;> rfl

/-- A clean path with a slash at its end is a root. -/
theorem eq_root_of_getLast? (hlast : path.getLast? = some '/') :
    path = ['/'] ∨ path = ['/', '/'] := by
  obtain ⟨root, names, hroot, hproper, rfl⟩ := h
  by_cases hnames : names = []
  · subst hnames
    simpa [joinChars] using hroot
  · obtain ⟨c, rest, -, hjoined⟩ := exists_joinChars_eq_cons hnames hproper
    have hend := getLast?_joinChars_ne hproper
    rw [hjoined, List.getLast?_cons] at hend
    rw [hjoined, List.getLast?_append, List.getLast?_cons, Option.some_or] at hlast
    exact absurd hlast hend

/-- Cleaning leaves a clean path as it is, whatever directory paths are meant from. -/
theorem clean_eq (directory : List Char) : clean directory path = path := by
  have hwhole : fromDirectory directory path = path := if_pos h.isAbsolute
  simp only [clean, hwhole]
  obtain ⟨root, names, hroot, hproper, rfl⟩ := h
  have hnames := namesOf_root_append (root ++ joinChars '/' names) hproper
  rw [rootOf_root_append hroot hproper] at hnames
  rw [rootOf_root_append hroot hproper, hnames]

end IsClean

/-- A path is clean when cleaning leaves it as it is. -/
theorem clean_eq_self_iff : clean directory path = path ↔ IsClean path :=
  ⟨fun h => h ▸ isClean_clean directory path, fun h => h.clean_eq directory⟩

/-- A path that is found from a working directory is found at the location that its clean form
names. -/
theorem Tree.namesOf_clean_of_locate {tree : Tree} {location : Location}
    (h : tree.locate (namesOf directory) path = .ok location) :
    namesOf (clean directory path) = location := by
  rw [namesOf_clean, locate_eq_walkNames h]
  by_cases hpath : isAbsolute path = true
  · rw [fromDirectory, if_pos hpath, if_pos hpath]
    rfl
  · have hjoined : fromDirectory directory path = joinName directory path := if_neg hpath
    rw [hjoined, namesOf_joinName_eq_walkNames, if_neg hpath]

end BrowserScenario.Files
