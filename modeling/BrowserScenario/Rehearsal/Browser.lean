import BrowserScenario.Rehearsal.Script

/-!
# Rehearsed browsers

A browser that follows a script and knows the classes of elements from a table; elements that are
not in the table have none. Asking whether the page is closed follows no rule.
-/

namespace BrowserScenario.Rehearsal

open BrowserScenario.Files

/-- A script with the classes of elements and the directory that paths are meant from. -/
structure BrowserState where
  script : Script
  classes : List (String × List String)
  directory : Location
deriving DecidableEq, Repr

/-- The classes of an element. -/
def BrowserState.classesOf (state : BrowserState) (selector : String) : List String :=
  (state.classes.lookup selector).getD []

/-- A call by name with an answer that the state gives when no rule applies. -/
def scripted {α : Type} (call : String) (answer : BrowserState → α) :
    Attempt BrowserState α := fun state =>
  let (result, script) := state.script.attempt call
  (result.map fun _ => answer state, { state with script })

/-- The browser that follows the script of its state. -/
def browser : Browser BrowserState where
  interact interaction := scripted interaction.name fun _ => ()
  expect check := scripted check.name fun _ => ()
  classList selector := scripted "class_list" (·.classesOf selector)
  screenshot path _ := fun (state, tree) =>
    let (answer, script, written) := Script.picture state.directory path (state.script, tree)
    (answer, { state with script }, written)
  isClosed := fun state => (.ok state.script.closed, state)

end BrowserScenario.Rehearsal
