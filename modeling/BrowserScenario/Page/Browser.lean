import BrowserScenario.Page.Call
import BrowserScenario.Run.Browser
import BrowserScenario.Text.Blank

/-!
# Pages as browsers

A page is called by actions, assertions and questions, each of which may report an incident. A page
serves as the browser of a run: every interaction and every check is one call to the page, and the
classes of an element are the words of its class attribute. All assertions wait for the same time.
Text is looked for in the first element that holds it, so that a selector that finds several
elements may be used.
-/

namespace BrowserScenario

open BrowserScenario.Files BrowserScenario.Page BrowserScenario.Text BrowserScenario.Time

/-- The ways to call a page whose state is of a given type. -/
structure Page (π : Type) where
  /-- Does something to the page. -/
  act : PageAction → Attempt π Unit
  /-- Awaits a condition. -/
  await : Assertion → Attempt π Unit
  /-- Tells the value of an attribute of an element, if the element has it. -/
  attributeOf : Locator → String → Attempt π (Option String)
  /-- Saves a picture of the page at a path and gives its bytes. -/
  screenshot : List Char → Bool → Attempt (π × Tree) (List UInt8)
  /-- Tells whether the page is closed. -/
  isClosed : Attempt π Bool

namespace Page

/-- A page and the calls that were made to it, in order. -/
structure PageSession (π : Type) where
  page : π
  calls : List PageCall

/-- The action on the page that an interaction is. -/
def actionOf : Interaction → PageAction
  | .navigate address => .goto address
  | .fill selector text => .fill selector text
  | .click selector => .click selector
  | .typeText selector text delay => .pressSequentially (.all selector) text delay
  | .selectOption selector value => .selectOption selector value
  | .check selector => .check selector
  | .uncheck selector => .uncheck selector
  | .hover selector => .hover selector
  | .wait milliseconds => .waitForTimeout milliseconds

/-- The message of the assertion that an element holds a text. -/
def textMessage (selector part : String) : String :=
  "\"" ++ part ++ "\" not found in element \"" ++ selector ++ "\""

/-- The assertion that a check is. -/
def assertionOf (timeout : Option Duration) : Check → Assertion
  | .url address => ⟨.page, .haveUrl address, none, timeout⟩
  | .text selector part =>
    ⟨.element ⟨selector, [.holding part, .first]⟩, .containText part,
      some (textMessage selector part), timeout⟩
  | .notText selector part => ⟨.element (.all selector), .notContainText part, none, timeout⟩
  | .visible selector => ⟨.element (.all selector), .beVisible, none, timeout⟩
  | .hidden selector => ⟨.element (.all selector), .beHidden, none, timeout⟩
  | .hasAttribute selector name value =>
    ⟨.element (.all selector), .haveAttribute name value, none, timeout⟩
  | .count selector number => ⟨.element (.all selector), .haveCount number, none, timeout⟩

/-- The first element that a selector finds. -/
def firstOf (selector : String) : Locator := ⟨selector, [.first]⟩

/-- The classes that the value of a class attribute names. -/
def classesOf (value : Option String) : List String :=
  words (value.getD "")

variable {π α β : Type}

/-- An attempt at the page of a session, noted as a call. -/
def noted (call : PageCall) (attempt : Attempt π α) : Attempt (PageSession π) α := fun session =>
  let (answer, page) := attempt session.page
  (answer, ⟨page, session.calls ++ [call]⟩)

/-- The page as the browser of a run, with a time for assertions. -/
def browser (page : Page π) (timeout : Option Duration) : Browser (PageSession π) where
  interact interaction := noted (.act (actionOf interaction)) (page.act (actionOf interaction))
  expect check :=
    noted (.await (assertionOf timeout check)) (page.await (assertionOf timeout check))
  classList selector := fun session =>
    let (answer, after) :=
      noted (.attributeOf (firstOf selector) "class")
        (page.attributeOf (firstOf selector) "class") session
    (answer.map classesOf, after)
  screenshot path fullPage := fun (session, tree) =>
    let (answer, after, written) := page.screenshot path fullPage (session.page, tree)
    (answer, ⟨after, session.calls ++ [.screenshot path fullPage]⟩, written)
  isClosed := noted .isClosed page.isClosed

end Page

end BrowserScenario
