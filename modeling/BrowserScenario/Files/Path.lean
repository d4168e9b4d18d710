import BrowserScenario.Text.Split

/-!
# Paths

A path is written as names between slashes. An absolute path starts with a slash; any other is
meant from a working directory. The clean form of a path is absolute, has no empty name and no
name of one or two dots, and keeps a pair of slashes in front apart from a single one.
-/

namespace BrowserScenario.Files

open BrowserScenario.Text

/-- Whether a path starts at the root. -/
def isAbsolute : List Char → Bool
  | '/' :: _ => true
  | _ => false

/-- The names along a path, after those walked already, which are kept in reverse: an empty name
and a single dot stay, two dots go up, and nothing is above the root. -/
def walkNames : List (List Char) → List (List Char) → List (List Char)
  | walked, [] => walked.reverse
  | walked, name :: rest =>
    if name = [] || name = ['.'] then walkNames walked rest
    else if name = ['.', '.'] then walkNames walked.tail rest
    else walkNames (name :: walked) rest

/-- The names of an absolute path in clean form. -/
def namesOf (path : List Char) : List (List Char) :=
  walkNames [] (splitAtChar '/' path)

/-- The slashes that a clean path starts with: two if the path starts with exactly two. -/
def rootOf : List Char → List Char
  | '/' :: '/' :: '/' :: _ => ['/']
  | '/' :: '/' :: _ => ['/', '/']
  | _ => ['/']

/-- A path as seen from the working directory: an absolute path is itself. -/
def fromDirectory (directory path : List Char) : List Char :=
  if isAbsolute path then path
  else if directory.getLast? = some '/' then directory ++ path
  else directory ++ '/' :: path

/-- The clean form of a path that is meant from a working directory. -/
def clean (directory path : List Char) : List Char :=
  let whole := fromDirectory directory path
  rootOf whole ++ joinChars '/' (namesOf whole)

/-- The clean form of a path, with a single slash in front. -/
def cleanFromRoot (directory path : List Char) : List Char :=
  '/' :: joinChars '/' (namesOf (fromDirectory directory path))

/-- A path without empty names and single dots; if nothing is left, a single dot. -/
def tidy (path : List Char) : List Char :=
  let names := (splitAtChar '/' path).filter fun name => name ≠ [] ∧ name ≠ ['.']
  let root := if isAbsolute path then rootOf path else []
  match root, names with
  | [], [] => ['.']
  | _, _ => root ++ joinChars '/' names

/-- A path followed by a name. -/
def joinName (path name : List Char) : List Char :=
  if path.getLast? = some '/' then path ++ name else path ++ '/' :: name

/-- The last part of a path. -/
def lastName (path : List Char) : List Char :=
  (path.reverse.takeWhile (· != '/')).reverse

/-- The ending of a file name from its last dot on; leading dots belong to the name. -/
def extension (path : List Char) : List Char :=
  let name := (lastName path).dropWhile (· == '.')
  if name.contains '.' then '.' :: (name.reverse.takeWhile (· != '.')).reverse else []

end BrowserScenario.Files
