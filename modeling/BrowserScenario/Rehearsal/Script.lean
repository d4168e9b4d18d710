import BrowserScenario.Run.Browser

/-!
# Scripts of rehearsals

A rehearsal goes through a run without a browser. Its script tells at which calls an incident is
reported: at every call of a name or at one occurrence of it, counted from one. A rule may also
close the page. Where no rule applies, calls are answered. Pictures that are taken hold a fixed
content.
-/

namespace BrowserScenario.Rehearsal

open BrowserScenario.Files

/-- An incident at the calls of a name, or at one occurrence of such a call. -/
structure Rule where
  call : String
  occurrence : Option Int
  incident : Incident
  closes : Bool
deriving DecidableEq, Repr

/-- Rules, whether the page is closed, and the names of the calls made so far. -/
structure Script where
  rules : List Rule
  closed : Bool
  made : List String
deriving DecidableEq, Repr

/-- Whether a rule applies to an occurrence of a call. -/
def Rule.applies (rule : Rule) (call : String) (occurrence : Nat) : Bool :=
  rule.call == call && (rule.occurrence.all (· == (occurrence : Int)))

/-- A call by name: it is counted, and the first rule that applies reports its incident. -/
def Script.attempt (call : String) : Attempt Script Unit := fun script =>
  let made := call :: script.made
  match script.rules.find? (·.applies call (made.count call)) with
  | none => (.ok (), { script with made })
  | some rule => (.error rule.incident, { script with made, closed := script.closed || rule.closes })

/-- The content of the pictures of a rehearsal: the signature of the format and a word. -/
def pictureContent : List UInt8 :=
  [0x89, 0x50, 0x4E, 0x47, 0x0D, 0x0A, 0x1A, 0x0A, 0x66, 0x61, 0x6B, 0x65]

/-- A picture saved at a path that is meant from a directory. -/
def savePicture (directory : Location) (path : List Char) : Attempt Tree (List UInt8) := fun tree =>
  match tree.write directory path pictureContent with
  | .ok written => (.ok pictureContent, written)
  | .error error => (.error (.ofFile error), tree)

/-- A call by name that takes a picture when no rule applies. -/
def Script.picture (directory : Location) (path : List Char) :
    Attempt (Script × Tree) (List UInt8) := fun (script, tree) =>
  match script.attempt "screenshot" with
  | (.error incident, after) => (.error incident, after, tree)
  | (.ok (), after) =>
    let (answer, written) := savePicture directory path tree
    (answer, after, written)

end BrowserScenario.Rehearsal
