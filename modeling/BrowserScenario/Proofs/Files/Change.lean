import BrowserScenario.Proofs.Files.Location
import Mathlib.Data.Set.Basic

/-!
# Changes of file trees

What is done to a tree is told by two sets of locations: those where a directory may be made that
was missing, and those where a file may be written. Everything else stays as it was. Changes in
sequence are changes inside the unions of their sets. Main statements: making the directories of
a path makes only directories along its names, also where it fails half-way; and writing a file
changes only the location of its path.
-/

namespace BrowserScenario.Files

open BrowserScenario.Text

/-- What may become of what is at a location: it is kept, a missing directory is made, or a file is
written. -/
inductive ChangeAt (mayMake mayWrite : Prop) : Option Entry → Option Entry → Prop
  | kept (found : Option Entry) : ChangeAt mayMake mayWrite found found
  | made (h : mayMake) : ChangeAt mayMake mayWrite none (some .directory)
  | written (h : mayWrite) (found : Option Entry) (content : List UInt8) :
    ChangeAt mayMake mayWrite found (some (.file content))

/-- A tree that differs from another only by directories that were missing and by files, at some
locations. -/
def Change (made written : Set Location) (before after : Tree) : Prop :=
  ∀ location, ChangeAt (location ∈ made) (location ∈ written) (before.get? location)
    (after.get? location)

/-- What may become of a location may become of it when more is allowed. -/
theorem ChangeAt.mono {mayMake mayWrite make write : Prop} {found later : Option Entry}
    (h : ChangeAt mayMake mayWrite found later) (hmake : mayMake → make)
    (hwrite : mayWrite → write) : ChangeAt make write found later := by
  cases h with
  | kept => exact .kept found
  | made h => exact .made (hmake h)
  | written h _ content => exact .written (hwrite h) found content

/-- A location is changed twice in a row as it may be changed once: a directory is only made where
something is missing, and nothing that is there goes missing. -/
theorem ChangeAt.trans {mayMake mayWrite : Prop} {found later last : Option Entry}
    (h : ChangeAt mayMake mayWrite found later) (hlater : ChangeAt mayMake mayWrite later last) :
    ChangeAt mayMake mayWrite found last := by
  cases hlater with
  | kept => exact h
  | written hwrite _ content => exact .written hwrite found content
  | made hmake =>
    cases h with
    | kept => exact .made hmake

section Change

variable {made written more others : Set Location} {tree before middle after : Tree}
  {location : Location} {path : List Char}

/-- A tree that stays as it is is changed nowhere. -/
theorem Change.refl (tree : Tree) : Change made written tree tree :=
  fun location => .kept (tree.get? location)

/-- A change inside some locations is one inside more of them. -/
theorem Change.mono (h : Change made written before after) (hmade : made ⊆ more)
    (hwritten : written ⊆ others) : Change more others before after :=
  fun location => (h location).mono (fun hin => hmade hin) fun hin => hwritten hin

/-- Two changes in a row are one. -/
theorem Change.trans (h : Change made written before middle)
    (hlater : Change made written middle after) : Change made written before after :=
  fun location => (h location).trans (hlater location)

/-- The root is no location where something is missing. -/
theorem Tree.ne_nil_of_get? (h : tree.get? location = none) : location ≠ [] := by
  rintro rfl
  exact nomatch h

/-- A directory that was missing is made at its location. -/
theorem change_put_directory (h : tree.get? location = none) :
    Change {location} ∅ tree (tree.put location .directory) := by
  intro other
  rw [Tree.get?_put (Tree.ne_nil_of_get? h)]
  split
  · rename_i hother
    subst hother
    rw [h]
    exact .made rfl
  · exact .kept _

/-- A file is written at its location. -/
theorem change_put_file (h : location ≠ []) (content : List UInt8) :
    Change ∅ {location} tree (tree.put location (.file content)) := by
  intro other
  rw [Tree.get?_put h]
  split
  · rename_i hother
    exact .written hother _ content
  · exact .kept _

/-- A file that is written at a path is all that changes. -/
theorem Tree.change_write {content : List UInt8} {directory : Location} {result : Tree}
    (hpath : isAbsolute path = true) (h : tree.write directory path content = .ok result) :
    Change ∅ {namesOf path} tree result := by
  unfold write at h
  rw [locate_of_isAbsolute hpath] at h
  split at h
  · exact nomatch h
  · rename_i location hlocate
    obtain rfl := locate_eq_ok hlocate
    split at h
    · exact nomatch h
    · rename_i hfile
      obtain rfl := Except.ok.inj h
      refine change_put_file (fun hroot => ?_) content
      rw [hroot] at hfile
      exact hfile rfl

/-- A directory that is made at a path is all that changes. -/
theorem Tree.change_makeDirectory {result : Tree} (h : tree.makeDirectory path = .ok result) :
    Change {namesOf path} ∅ tree result := by
  unfold makeDirectory at h
  split at h
  · exact nomatch h
  · rename_i location hlocate
    obtain rfl := locate_eq_ok hlocate
    split at h
    · exact nomatch h
    · rename_i hmissing
      obtain rfl := Except.ok.inj h
      exact change_put_directory hmissing

/-- A directory that is made at a path unless there is one is all that changes. -/
theorem Tree.change_ensureDirectory {result : Tree} (h : tree.ensureDirectory path = .ok result) :
    Change {namesOf path} ∅ tree result := by
  unfold ensureDirectory at h
  split at h
  · rename_i hmade
    obtain rfl := Except.ok.inj h
    exact change_makeDirectory hmade
  · split at h
    · obtain rfl := Except.ok.inj h
      exact .refl tree
    · exact nomatch h

/-- The last directory of a way is all that changes at its end. -/
theorem Tree.change_finish {root name : List Char} {above : List (List Char)} :
    Change {namesOf (root ++ joinChars '/' (name :: above).reverse)} ∅ tree
      (ensureAlong.finish root tree name above).1 := by
  unfold ensureAlong.finish
  split
  · rename_i hmade
    exact change_ensureDirectory hmade
  · exact .refl tree

/-- Directories that are made along names change nothing but these directories, also where one of
them cannot be made. -/
theorem Tree.change_ensureAlong (tree : Tree) {above : List (List Char)}
    (h : ∀ name ∈ above, IsProper name) (path : List Char) :
    Change {location | location <+: above.reverse} ∅ tree
      (tree.ensureAlong (rootOf path) above).1 := by
  induction above with
  | nil =>
    rw [ensureAlong]
    exact .refl tree
  | cons name above ih =>
    have hproper : ∀ other ∈ (name :: above).reverse, IsProper other :=
      fun other hother => h other (List.mem_reverse.1 hother)
    -- The last directory is made in whatever tree the directories above it have left.
    have hfinish (below : Tree) : Change {location | location <+: (name :: above).reverse} ∅ below
        (ensureAlong.finish (rootOf path) below name above).1 := by
      refine Tree.change_finish.mono (fun location hlocation => ?_) subset_rfl
      rw [namesOf_root_append path hproper] at hlocation
      exact hlocation ▸ List.prefix_refl _
    have hbelow : Change {location | location <+: (name :: above).reverse} ∅ tree
        (tree.ensureAlong (rootOf path) above).1 := by
      refine (ih fun other hother => h other (List.mem_cons_of_mem _ hother)).mono
        (fun location hlocation => ?_) subset_rfl
      have hreverse : (name :: above).reverse = above.reverse ++ [name] := List.reverse_cons
      exact hreverse ▸ List.IsPrefix.trans hlocation (List.prefix_append _ _)
    rw [ensureAlong]
    split
    rename_i below failed hpart
    have hfirst : Change {location | location <+: (name :: above).reverse} ∅ tree below := by
      split at hpart
      · obtain ⟨rfl, -⟩ := Prod.mk.inj hpart
        exact .refl tree
      · rwa [hpart] at hbelow
    split
    · split
      · exact hfirst.trans (hfinish below)
      · exact hfirst
    · exact hfirst.trans (hfinish below)

/-- The directories of a path that are made change nothing but these directories. -/
theorem Tree.change_ensureDirectories (tree : Tree) (path : List Char) :
    Change {location | location <+: namesOf path} ∅ tree (tree.ensureDirectories path).1 := by
  have hproper : ∀ name ∈ (namesOf path).reverse, IsProper name := by
    intro name hname
    exact isProper_of_mem_namesOf (List.mem_reverse.1 hname)
  have halong := tree.change_ensureAlong hproper path
  rwa [List.reverse_reverse] at halong

end Change

end BrowserScenario.Files
