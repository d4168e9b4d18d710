import BrowserScenario.Data.Basic
import BrowserScenario.Time.Duration

/-!
# Calls to a browser

What a run asks of a browser: interactions with the page, checks of its state, the classes of an
element, and a screenshot. Every call has a name and arguments.
-/

namespace BrowserScenario

open BrowserScenario.Time

/-- Something done to the page. -/
inductive Interaction
  | navigate (address : String)
  | fill (selector text : String)
  | click (selector : String)
  | typeText (selector text : String) (delay : Duration)
  | selectOption (selector value : String)
  | check (selector : String)
  | uncheck (selector : String)
  | hover (selector : String)
  | wait (milliseconds : Int)
deriving DecidableEq, Repr

/-- A condition that is awaited on the page. -/
inductive Check
  | url (address : String)
  | text (selector part : String)
  | notText (selector part : String)
  | visible (selector : String)
  | hidden (selector : String)
  | hasAttribute (selector name value : String)
  | count (selector : String) (number : Int)
deriving DecidableEq, Repr

/-- A call to a browser. -/
inductive Call
  | interact (interaction : Interaction)
  | expect (check : Check)
  | classList (selector : String)
  | screenshot (path : List Char) (fullPage : Bool)
deriving DecidableEq, Repr

/-- A duration as a value. -/
def Time.Duration.data : Duration → Data
  | .whole count => .int count
  | .floating count => .float count

/-- The name of an interaction. -/
def Interaction.name : Interaction → String
  | .navigate _ => "navigate"
  | .fill .. => "fill"
  | .click _ => "click"
  | .typeText .. => "type_text"
  | .selectOption .. => "select_option"
  | .check _ => "check"
  | .uncheck _ => "uncheck"
  | .hover _ => "hover"
  | .wait _ => "wait"

/-- The arguments of an interaction. -/
def Interaction.arguments : Interaction → List Data
  | .navigate address => [.text address]
  | .fill selector text => [.text selector, .text text]
  | .click selector => [.text selector]
  | .typeText selector text delay => [.text selector, .text text, delay.data]
  | .selectOption selector value => [.text selector, .text value]
  | .check selector => [.text selector]
  | .uncheck selector => [.text selector]
  | .hover selector => [.text selector]
  | .wait milliseconds => [.int milliseconds]

/-- The name of a check. -/
def Check.name : Check → String
  | .url _ => "expect_url"
  | .text .. => "expect_text"
  | .notText .. => "expect_not_text"
  | .visible _ => "expect_visible"
  | .hidden _ => "expect_hidden"
  | .hasAttribute .. => "expect_attribute"
  | .count .. => "expect_count"

/-- The arguments of a check. -/
def Check.arguments : Check → List Data
  | .url address => [.text address]
  | .text selector part => [.text selector, .text part]
  | .notText selector part => [.text selector, .text part]
  | .visible selector => [.text selector]
  | .hidden selector => [.text selector]
  | .hasAttribute selector name value => [.text selector, .text name, .text value]
  | .count selector number => [.text selector, .int number]

/-- The name of a call. -/
def Call.name : Call → String
  | .interact interaction => interaction.name
  | .expect check => check.name
  | .classList _ => "class_list"
  | .screenshot .. => "screenshot"

/-- The arguments of a call. -/
def Call.arguments : Call → List Data
  | .interact interaction => interaction.arguments
  | .expect check => check.arguments
  | .classList selector => [.text selector]
  | .screenshot path fullPage => [.text (String.ofList path), .bool fullPage]

end BrowserScenario
