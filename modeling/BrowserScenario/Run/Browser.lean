import BrowserScenario.Run.Call
import BrowserScenario.Run.Event
import BrowserScenario.Run.Failure

/-!
# Runs in a world with a browser

A browser is a state with four ways to call it, each of which answers or reports an incident. A
run acts on a world: the state of the browser, the files, and what was called, told and attached
so far, in order. A call is noted whether it is answered or not, and a failing run leaves the world
as it had become.
-/

namespace BrowserScenario

open BrowserScenario.Files

/-- A way to act on a state that may report an incident; the state is changed in either case. -/
abbrev Attempt (σ α : Type) := σ → Except Incident α × σ

/-- The ways to call a browser whose state is of a given type. -/
structure Browser (σ : Type) where
  /-- Does something to the page. -/
  interact : Interaction → Attempt σ Unit
  /-- Awaits a condition on the page. -/
  expect : Check → Attempt σ Unit
  /-- Tells the classes of the element that a selector finds first. -/
  classList : String → Attempt σ (List String)
  /-- Saves a picture of the page at a path and gives its bytes. -/
  screenshot : List Char → Bool → Attempt (σ × Tree) (List UInt8)
  /-- Tells whether the page is closed. -/
  isClosed : Attempt σ Bool

/-- Something added to the report of a run. -/
structure Attachment where
  name : String
  content : List UInt8
  mediaType : String
deriving DecidableEq, Repr

/-- A report takes attachments, each of which may cause an incident. -/
abbrev Report := Attachment → Except Incident Unit

/-- What runs act on: the browser, the files, and what was called, told and attached so far. -/
structure World (σ : Type) where
  browser : σ
  tree : Tree
  calls : List Call
  events : List Event
  attached : List Attachment

/-- The world of a browser and files before anything is done. -/
def World.start {σ : Type} (browser : σ) (tree : Tree) : World σ :=
  ⟨browser, tree, [], [], []⟩

/-- A run in a world. -/
abbrev Run (σ α : Type) := ExceptT Failure (StateM (World σ)) α

namespace Run

variable {σ α : Type}

/-- The answer of a run and the world it leaves. -/
def outcome (run : Run σ α) (world : World σ) : Except Failure α × World σ :=
  run world

/-- An attempt at the browser, noted as a call. -/
def call (call : Call) (attempt : Attempt σ α) : Run σ α := fun world =>
  let (answer, browser) := attempt world.browser
  (answer.mapError .raised, { world with browser, calls := world.calls ++ [call] })

/-- An attempt at the browser that is not noted. -/
def ask (attempt : Attempt σ α) : Run σ α := fun world =>
  let (answer, browser) := attempt world.browser
  (answer.mapError .raised, { world with browser })

/-- Does something to the page. -/
def interact (browser : Browser σ) (interaction : Interaction) : Run σ Unit :=
  call (.interact interaction) (browser.interact interaction)

/-- Awaits a condition on the page. -/
def expect (browser : Browser σ) (check : Check) : Run σ Unit :=
  call (.expect check) (browser.expect check)

/-- The classes of the element that a selector finds first. -/
def classList (browser : Browser σ) (selector : String) : Run σ (List String) :=
  call (.classList selector) (browser.classList selector)

/-- A picture of the page, saved at a path. -/
def screenshot (browser : Browser σ) (path : List Char) (fullPage : Bool) :
    Run σ (List UInt8) := fun world =>
  let (answer, after, tree) := browser.screenshot path fullPage (world.browser, world.tree)
  (answer.mapError .raised,
    { world with browser := after, tree, calls := world.calls ++ [.screenshot path fullPage] })

/-- Directories of a clean path, made where they are missing. -/
def ensureDirectories (path : List Char) : Run σ Unit := fun world =>
  let (tree, error) := world.tree.ensureDirectories path
  (match error with
    | some error => .error (.files error)
    | none => .ok (), { world with tree })

/-- Tells an event. -/
def tell (event : Event) : Run σ Unit := fun world =>
  (.ok (), { world with events := world.events ++ [event] })

/-- Hands an attachment to a report. -/
def attach (report : Report) (attachment : Attachment) : Run σ Unit := fun world =>
  ((report attachment).mapError .raised,
    { world with attached := world.attached ++ [attachment] })

/-- Stops a run at a record that cannot be carried out. -/
def reject (rejection : Rejection) : Run σ α :=
  throw (.rejected rejection)

/-- The value that a pure computation gives, or a rejection. -/
def ofExcept (value : Except Rejection α) : Run σ α :=
  match value with
  | .ok value => pure value
  | .error rejection => reject rejection

end Run

end BrowserScenario
