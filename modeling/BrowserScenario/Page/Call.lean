import BrowserScenario.Run.Call

/-!
# Calls to a page

What a page of a browser understands: actions on the page, actions on a located element, awaited
assertions, and questions. An element is located by a selector that may be narrowed to the
elements that hold a text and to the first of what is left. Every call has a name and arguments.
-/

namespace BrowserScenario.Page

open BrowserScenario.Time

/-- A restriction of the elements that were located so far. -/
inductive Narrowing
  | holding (part : String)
  | first
deriving DecidableEq, Repr

/-- Elements of a page: those that a selector finds, narrowed step by step. -/
structure Locator where
  selector : String
  narrowings : List Narrowing
deriving DecidableEq, Repr

/-- All elements that a selector finds. -/
def Locator.all (selector : String) : Locator := ⟨selector, []⟩

/-- Something done to a page. -/
inductive PageAction
  | goto (address : String)
  | fill (selector text : String)
  | click (selector : String)
  | pressSequentially (element : Locator) (text : String) (delay : Duration)
  | selectOption (selector value : String)
  | check (selector : String)
  | uncheck (selector : String)
  | hover (selector : String)
  | waitForTimeout (milliseconds : Int)
deriving DecidableEq, Repr

/-- What an assertion is about. -/
inductive Target
  | page
  | element (located : Locator)
deriving DecidableEq, Repr

/-- What an assertion says of its target. -/
inductive Condition
  | haveUrl (address : String)
  | containText (part : String)
  | notContainText (part : String)
  | beVisible
  | beHidden
  | haveAttribute (name value : String)
  | haveCount (number : Int)
deriving DecidableEq, Repr

/-- A condition that is awaited for some time; the time is up to the page if it is absent. -/
structure Assertion where
  target : Target
  condition : Condition
  message : Option String
  timeout : Option Duration
deriving DecidableEq, Repr

/-- A call to a page. -/
inductive PageCall
  | act (action : PageAction)
  | await (assertion : Assertion)
  | attributeOf (element : Locator) (name : String)
  | screenshot (path : List Char) (fullPage : Bool)
  | isClosed
deriving DecidableEq, Repr

/-- A narrowing as a value. -/
def Narrowing.data : Narrowing → Data
  | .holding part => .list [.text "filter", .text part]
  | .first => .list [.text "first"]

/-- A locator as a value. -/
def Locator.data (element : Locator) : Data :=
  .list (.list [.text "locator", .text element.selector] :: element.narrowings.map Narrowing.data)

/-- A target as a value. -/
def Target.data : Target → Data
  | .page => .list [.list [.text "page"]]
  | .element located => located.data

/-- The name of an action. -/
def PageAction.name : PageAction → String
  | .goto _ => "goto"
  | .fill .. => "fill"
  | .click _ => "click"
  | .pressSequentially .. => "press_sequentially"
  | .selectOption .. => "select_option"
  | .check _ => "check"
  | .uncheck _ => "uncheck"
  | .hover _ => "hover"
  | .waitForTimeout _ => "wait_for_timeout"

/-- The arguments of an action. -/
def PageAction.arguments : PageAction → List Data
  | .goto address => [.text address]
  | .fill selector text => [.text selector, .text text]
  | .click selector => [.text selector]
  | .pressSequentially element text delay => [element.data, .text text, delay.data]
  | .selectOption selector value => [.text selector, .text value]
  | .check selector => [.text selector]
  | .uncheck selector => [.text selector]
  | .hover selector => [.text selector]
  | .waitForTimeout milliseconds => [.int milliseconds]

/-- The name of a condition. -/
def Condition.name : Condition → String
  | .haveUrl _ => "to_have_url"
  | .containText _ => "to_contain_text"
  | .notContainText _ => "not_to_contain_text"
  | .beVisible => "to_be_visible"
  | .beHidden => "to_be_hidden"
  | .haveAttribute .. => "to_have_attribute"
  | .haveCount _ => "to_have_count"

/-- The arguments of a condition. -/
def Condition.arguments : Condition → List Data
  | .haveUrl address => [.text address]
  | .containText part => [.text part]
  | .notContainText part => [.text part]
  | .beVisible => []
  | .beHidden => []
  | .haveAttribute name value => [.text name, .text value]
  | .haveCount number => [.int number]

/-- An optional text as a value. -/
def optionalText : Option String → Data
  | some text => .text text
  | none => .null

/-- An optional duration as a value. -/
def optionalDuration : Option Duration → Data
  | some duration => duration.data
  | none => .null

/-- The arguments of an assertion: its target, message, condition and time. -/
def Assertion.arguments (assertion : Assertion) : List Data :=
  assertion.target.data :: optionalText assertion.message :: assertion.condition.arguments
    ++ [optionalDuration assertion.timeout]

/-- The name of a call. -/
def PageCall.name : PageCall → String
  | .act action => action.name
  | .await assertion => assertion.condition.name
  | .attributeOf .. => "get_attribute"
  | .screenshot .. => "screenshot"
  | .isClosed => "is_closed"

/-- The arguments of a call. -/
def PageCall.arguments : PageCall → List Data
  | .act action => action.arguments
  | .await assertion => assertion.arguments
  | .attributeOf element name => [element.data, .text name]
  | .screenshot path fullPage => [.text (String.ofList path), .bool fullPage]
  | .isClosed => []

end BrowserScenario.Page
