import BrowserScenario.Files.Path
import BrowserScenario.Text.Quoted

/-!
# File trees

A tree holds directories and files at locations, which are the names from the root on. A path is
followed name by name through directories that exist. Reading, writing and making directories
fail as a file system does: because something is missing, is or is not a directory, is there
already, has too long a name, or because a name has a null character. Main statement: what is put
at one location changes no other.
-/

namespace BrowserScenario.Files

open BrowserScenario.Text

/-- The names from the root to a place in a tree. -/
abbrev Location := List (List Char)

/-- What is at a location. -/
inductive Entry
  | directory
  | file (content : List UInt8)
deriving DecidableEq, Repr

/-- Directories and files by location. -/
structure Tree where
  entries : List (Location × Entry)
deriving DecidableEq, Repr

/-- Why a file cannot be used. -/
inductive FileFault
  | missing
  | notDirectory
  | isDirectory
  | alreadyThere
  | nameTooLong
  | nullCharacter
deriving DecidableEq, Repr

/-- A fault with the path at which it arose. -/
structure FileError where
  fault : FileFault
  path : List Char
deriving DecidableEq, Repr

/-- The wording of a file error. -/
def FileError.message (error : FileError) : String :=
  let numbered (text : String) := text ++ ": " ++ quoted (String.ofList error.path)
  match error.fault with
  | .missing => numbered "[Errno 2] No such file or directory"
  | .notDirectory => numbered "[Errno 20] Not a directory"
  | .isDirectory => numbered "[Errno 21] Is a directory"
  | .alreadyThere => numbered "[Errno 17] File exists"
  | .nameTooLong => numbered "[Errno 36] File name too long"
  | .nullCharacter => "embedded null byte"

/-- The name of the kind of a file error. -/
def FileError.kind (error : FileError) : String :=
  match error.fault with
  | .missing => "FileNotFoundError"
  | .notDirectory => "NotADirectoryError"
  | .isDirectory => "IsADirectoryError"
  | .alreadyThere => "FileExistsError"
  | .nameTooLong => "OSError"
  | .nullCharacter => "ValueError"

/-- The greatest number of bytes of a name. -/
def nameLimit : Nat := 255

/-- The greatest number of bytes of a path. -/
def pathLimit : Nat := 4095

/-- The number of bytes of a text. -/
def byteLength (s : List Char) : Nat :=
  s.foldl (fun total c => total + c.utf8Size) 0

namespace Tree

/-- The tree of the root alone. -/
def empty : Tree := ⟨[]⟩

/-- The entry of a location in a list of entries. -/
def entryIn (location : Location) : List (Location × Entry) → Option Entry
  | [] => none
  | (other, entry) :: rest => if other = location then some entry else entryIn location rest

/-- What is at a location; the root is a directory. -/
def get? (tree : Tree) (location : Location) : Option Entry :=
  if location = [] then some .directory else entryIn location tree.entries

/-- The tree with an entry put at a location. -/
def put (tree : Tree) (location : Location) (entry : Entry) : Tree :=
  ⟨(location, entry) :: tree.entries.filter (·.1 ≠ location)⟩

/-- The location that names lead to from a directory. Every name but the last has to be found, and
steps are only taken inside directories. -/
def follow (tree : Tree) : Location → List (List Char) → Except FileFault Location
  | current, [] => .ok current
  | current, name :: rest =>
    match tree.get? current with
    | none => .error .missing
    | some (.file _) => .error .notDirectory
    | some .directory =>
      if name = [] || name = ['.'] then follow tree current rest
      else if name = ['.', '.'] then follow tree current.dropLast rest
      else if nameLimit < byteLength name then .error .nameTooLong
      else follow tree (current ++ [name]) rest

/-- The location of a path that is meant from a directory. -/
def locate (tree : Tree) (directory : Location) (path : List Char) : Except FileFault Location :=
  if path.contains '\x00' then .error .nullCharacter
  else if path = [] then .error .missing
  else if pathLimit < byteLength path then .error .nameTooLong
  else follow tree (if isAbsolute path then [] else directory) (splitAtChar '/' path)

/-- The content of the file at a path. -/
def read (tree : Tree) (directory : Location) (path : List Char) :
    Except FileError (List UInt8) :=
  match tree.locate directory path with
  | .error fault => .error ⟨fault, path⟩
  | .ok location =>
    match tree.get? location with
    | none => .error ⟨.missing, path⟩
    | some .directory => .error ⟨.isDirectory, path⟩
    | some (.file content) => .ok content

/-- Whether there is a file at an absolute path. -/
def isFile (tree : Tree) (path : List Char) : Bool :=
  match tree.locate [] path with
  | .error _ => false
  | .ok location =>
    match tree.get? location with
    | some (.file _) => true
    | _ => false

/-- Whether there is a directory at an absolute path. -/
def isDirectory (tree : Tree) (path : List Char) : Bool :=
  match tree.locate [] path with
  | .error _ => false
  | .ok location => tree.get? location == some .directory

/-- Whether there is anything at an absolute path. -/
def hasEntry (tree : Tree) (path : List Char) : Bool :=
  match tree.locate [] path with
  | .error _ => false
  | .ok location => (tree.get? location).isSome

/-- The tree with a file written at a path. -/
def write (tree : Tree) (directory : Location) (path : List Char) (content : List UInt8) :
    Except FileError Tree :=
  match tree.locate directory path with
  | .error fault => .error ⟨fault, path⟩
  | .ok location =>
    match tree.get? location with
    | some .directory => .error ⟨.isDirectory, path⟩
    | _ => .ok (tree.put location (.file content))

/-- The tree with a directory made at an absolute path. -/
def makeDirectory (tree : Tree) (path : List Char) : Except FileError Tree :=
  match tree.locate [] path with
  | .error fault => .error ⟨fault, path⟩
  | .ok location =>
    match tree.get? location with
    | some _ => .error ⟨.alreadyThere, path⟩
    | none => .ok (tree.put location .directory)

/-- A directory made at an absolute path, unless there is one. -/
def ensureDirectory (tree : Tree) (path : List Char) : Except FileError Tree :=
  match tree.makeDirectory path with
  | .ok made => .ok made
  | .error error => if tree.isDirectory path then .ok tree else .error error

/-- The directories along names below a root, given from the last name upwards, made where they
are missing; with the tree as far as it was made. -/
def ensureAlong (tree : Tree) (root : List Char) : List (List Char) → Tree × Option FileError
  | [] => (tree, none)
  | name :: above =>
    let parent := root ++ joinChars '/' above.reverse
    let (below, failed) :=
      if tree.hasEntry parent then (tree, none) else ensureAlong tree root above
    match failed with
    | some error =>
      if error.fault = .alreadyThere then finish below name above else (below, some error)
    | none => finish below name above
where
  /-- The last directory of the way. -/
  finish (tree : Tree) (name : List Char) (above : List (List Char)) : Tree × Option FileError :=
    match tree.ensureDirectory (root ++ joinChars '/' (name :: above).reverse) with
    | .ok made => (made, none)
    | .error error => (tree, some error)

/-- The directories of a clean path, made where they are missing; with the tree as far as it was
made. -/
def ensureDirectories (tree : Tree) (path : List Char) : Tree × Option FileError :=
  tree.ensureAlong (rootOf path) (namesOf path).reverse

/-- The look-up in entries without those of another location. -/
theorem entryIn_filter_ne {location other : Location} (h : other ≠ location)
    (entries : List (Location × Entry)) :
    entryIn other (entries.filter (·.1 ≠ location)) = entryIn other entries := by
  induction entries with
  | nil => rfl
  | cons item rest ih =>
    by_cases hitem : item.1 = location
    · have hne : ¬ item.1 = other := fun heq => h (heq.symm.trans hitem)
      rw [List.filter_cons_of_neg (by simp [hitem]), ih]
      simp [entryIn, hne]
    · rw [List.filter_cons_of_pos (by simp [hitem])]
      by_cases hother : item.1 = other
      · simp [entryIn, hother]
      · simpa [entryIn, hother] using ih

/-- What is put at one location changes no other. -/
theorem get?_put {tree : Tree} {location other : Location} {entry : Entry}
    (hroot : location ≠ []) :
    (tree.put location entry).get? other
      = if other = location then some entry else tree.get? other := by
  by_cases h : other = location
  · simp [put, get?, entryIn, h, hroot]
  · have hne : ¬ location = other := fun heq => h heq.symm
    simp only [put, get?, entryIn, if_neg hne, entryIn_filter_ne h, if_neg h]

end Tree

end BrowserScenario.Files
