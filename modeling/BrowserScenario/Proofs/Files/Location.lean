import BrowserScenario.Files.Artifact
import BrowserScenario.Files.Tree
import BrowserScenario.Proofs.Text.Pieces

/-!
# Locations of paths

The names along a path are walked one after the other: an empty name and a single dot stay, and
two dots go up. What is left are proper names, and they are the location of the path. Main
statements: wherever a tree can be followed along a path, this leads to the location of the path;
and a name that is joined to a path goes one directory down.
-/

namespace BrowserScenario.Files

open BrowserScenario.Text

/-- A name that leads one directory down: it is not empty, is not one or two dots, and has no
slash in it. -/
structure IsProper (name : List Char) : Prop where
  ne_nil : name ≠ []
  ne_dot : name ≠ ['.']
  ne_dots : name ≠ ['.', '.']
  no_slash : '/' ∉ name

variable {names walked : List (List Char)} {name path directory : List Char}

/-- Names are walked in two parts. -/
theorem walkNames_append (walked first rest : List (List Char)) :
    walkNames walked (first ++ rest) = walkNames (walkNames walked first).reverse rest := by
  induction first generalizing walked with
  | nil => simp [walkNames]
  | cons name more ih =>
    rw [List.cons_append, walkNames, walkNames]
    split
    · exact ih walked
    · split
      · exact ih walked.tail
      · exact ih (name :: walked)

/-- Proper names are all kept. -/
theorem walkNames_of_proper (h : ∀ name ∈ names, IsProper name) :
    walkNames walked names = walked.reverse ++ names := by
  induction names generalizing walked with
  | nil => simp [walkNames]
  | cons name more ih =>
    obtain ⟨hname, hmore⟩ := List.forall_mem_cons.1 h
    have hstay : ¬ (name = [] || name = ['.']) = true := by simp [hname.ne_nil, hname.ne_dot]
    rw [walkNames, if_neg hstay, if_neg hname.ne_dots, ih hmore]
    simp

/-- Names without slashes leave proper names. -/
theorem isProper_of_mem_walkNames (hnames : ∀ name ∈ names, '/' ∉ name)
    (hwalked : ∀ name ∈ walked, IsProper name) :
    ∀ name ∈ walkNames walked names, IsProper name := by
  induction names generalizing walked with
  | nil => simpa [walkNames] using hwalked
  | cons name more ih =>
    obtain ⟨hname, hmore⟩ := List.forall_mem_cons.1 hnames
    rw [walkNames]
    split
    · exact ih hmore hwalked
    · rename_i hstay
      split
      · exact ih hmore fun other hother => hwalked other (List.mem_of_mem_tail hother)
      · rename_i hup
        simp only [Bool.or_eq_true, decide_eq_true_eq, not_or] at hstay
        exact ih hmore (List.forall_mem_cons.2 ⟨⟨hstay.1, hstay.2, hup, hname⟩, hwalked⟩)

/-- The names of a path are proper. -/
theorem isProper_of_mem_namesOf (h : name ∈ namesOf path) : IsProper name :=
  isProper_of_mem_walkNames (fun _ => not_mem_of_mem_splitAtChar) (by simp) name h

/-- A slash in front of a path changes no name. -/
theorem namesOf_slash (path : List Char) : namesOf ('/' :: path) = namesOf path := by
  simp [namesOf, splitAtChar, walkNames]

/-- A root is a slash or two. -/
theorem rootOf_eq (path : List Char) : rootOf path = ['/'] ∨ rootOf path = ['/', '/'] := by
  unfold rootOf
  split <;> simp

/-- Proper names below a root are the names of their path. -/
theorem namesOf_root_append (path : List Char) (h : ∀ name ∈ names, IsProper name) :
    namesOf (rootOf path ++ joinChars '/' names) = names := by
  have hjoined : namesOf (joinChars '/' names) = names := by
    cases names with
    | nil => rfl
    | cons first more =>
      unfold namesOf
      rw [splitAtChar_joinChars (fun name hname => (h name hname).no_slash) (by simp),
        walkNames_of_proper h]
      rfl
  rcases rootOf_eq path with hroot | hroot
  · rw [hroot, List.singleton_append, namesOf_slash, hjoined]
  · rw [hroot]
    simp only [List.cons_append, List.nil_append, namesOf_slash, hjoined]

/-- What stands after a slash is walked from the names in front of it on. -/
theorem namesOf_append_slash (above rest : List Char) :
    namesOf (above ++ '/' :: rest) = walkNames (namesOf above).reverse (splitAtChar '/' rest) := by
  unfold namesOf
  rw [splitAtChar_append, walkNames_append]

/-- What is joined to a path is walked from the names of the path on. -/
theorem namesOf_joinName_eq_walkNames (path rest : List Char) :
    namesOf (joinName path rest) = walkNames (namesOf path).reverse (splitAtChar '/' rest) := by
  unfold joinName
  split
  · rename_i hlast
    obtain ⟨above, rfl⟩ := List.getLast?_eq_some_iff.1 hlast
    rw [List.append_assoc, List.singleton_append, namesOf_append_slash, namesOf_append_slash]
    simp [splitAtChar, walkNames]
  · exact namesOf_append_slash path rest

/-- A path followed by a name has that name below its own. -/
theorem namesOf_joinName (hname : IsProper name) (path : List Char) :
    namesOf (joinName path name) = namesOf path ++ [name] := by
  rw [namesOf_joinName_eq_walkNames, splitAtChar_of_not_mem hname.no_slash,
    walkNames_of_proper (by simpa using hname), List.reverse_reverse]

/-- The names of a clean path are those of the path that was made clean. -/
theorem namesOf_clean (directory path : List Char) :
    namesOf (clean directory path) = namesOf (fromDirectory directory path) :=
  namesOf_root_append _ fun _ => isProper_of_mem_namesOf

/-- A clean path is absolute. -/
theorem isAbsolute_clean (directory path : List Char) :
    isAbsolute (clean directory path) = true := by
  simp only [clean]
  rcases rootOf_eq (fromDirectory directory path) with hroot | hroot
  · rw [hroot]
    rfl
  · rw [hroot]
    rfl

/-- An absolute path is absolute with a name after it. -/
theorem isAbsolute_joinName (h : isAbsolute path = true) (name : List Char) :
    isAbsolute (joinName path name) = true := by
  unfold isAbsolute at h
  split at h
  · unfold joinName
    split <;> rfl
  · exact nomatch h

namespace Tree

variable {tree : Tree} {current location : Location}

/-- Following names leads to where walking them leads. -/
theorem follow_eq_ok (h : tree.follow current names = .ok location) :
    location = walkNames current.reverse names := by
  induction names generalizing current with
  | nil =>
    obtain rfl : current = location := Except.ok.inj h
    simp [walkNames]
  | cons name more ih =>
    rw [follow] at h
    split at h
    · exact nomatch h
    · exact nomatch h
    · rw [walkNames]
      split at h
      · rename_i hstay
        rw [if_pos hstay]
        exact ih h
      · rename_i hstay
        rw [if_neg hstay]
        split at h
        · rename_i hup
          rw [if_pos hup, ih h, List.tail_reverse]
        · rename_i hup
          rw [if_neg hup]
          split at h
          · exact nomatch h
          · rw [ih h, List.reverse_append]
            rfl

/-- A path that is found is walked to from the root or from the directory that it is meant from. -/
theorem locate_eq_walkNames {directory : Location} (h : tree.locate directory path = .ok location) :
    location = walkNames (if isAbsolute path then [] else directory).reverse
      (splitAtChar '/' path) := by
  unfold locate at h
  split at h
  · exact nomatch h
  · split at h
    · exact nomatch h
    · split at h
      · exact nomatch h
      · exact follow_eq_ok h

/-- A path that is found is found at its location. -/
theorem locate_eq_ok (h : tree.locate [] path = .ok location) : location = namesOf path := by
  rw [locate_eq_walkNames h, ite_self]
  rfl

/-- An absolute path is found at its location, whatever directory paths are meant from. -/
theorem locate_of_isAbsolute (h : isAbsolute path = true) (directory : Location) :
    tree.locate directory path = tree.locate [] path := by
  unfold locate
  rw [if_pos h, if_pos h]

end Tree

end BrowserScenario.Files
