import BrowserScenario.Page.Browser
import BrowserScenario.Rehearsal.Script

/-!
# Rehearsed pages

A page that follows a script and knows the attributes of elements from a table; what is not in the
table has no value. Every call may meet a rule, also the one that asks whether the page is closed.
-/

namespace BrowserScenario.Rehearsal

open BrowserScenario.Files BrowserScenario.Page

/-- A script with the attributes of elements and the directory that paths are meant from. -/
structure PageState where
  script : Script
  attributes : List (String × List (String × Option String))
  directory : Location
deriving DecidableEq, Repr

/-- The value of an attribute of the elements that a selector finds. -/
def PageState.valueOf (state : PageState) (selector name : String) : Option String :=
  (((state.attributes.lookup selector).getD []).lookup name).join

/-- A call by name with an answer that the state gives when no rule applies. -/
def scriptedPage {α : Type} (call : String) (answer : PageState → Script → α) :
    Attempt PageState α := fun state =>
  let (result, script) := state.script.attempt call
  (result.map fun _ => answer state script, { state with script })

/-- The page that follows the script of its state. -/
def page : Page PageState where
  act action := scriptedPage action.name fun _ _ => ()
  await assertion := scriptedPage assertion.condition.name fun _ _ => ()
  attributeOf element name := scriptedPage "get_attribute" fun state _ =>
    state.valueOf element.selector name
  screenshot path _ := fun (state, tree) =>
    let (answer, script, written) := Script.picture state.directory path (state.script, tree)
    (answer, { state with script }, written)
  isClosed := scriptedPage "is_closed" fun _ script => script.closed

end BrowserScenario.Rehearsal
