import BrowserScenario.Data.Basic

/-!
# Devices of browser contexts

A context of a browser imitates a desktop device of its engine. Devices come from a table of
options by name; an engine without a device has no options of its own. The address that relative
addresses are resolved against is always set, and a directory for videos where one is given.
-/

namespace BrowserScenario.Suite

/-- Options of a browser context by name. -/
abbrev ContextOptions := List (String × Data)

/-- The desktop device of each engine. -/
def desktopDevices : List (String × String) := [
  ("chromium", "Desktop Chrome"), ("firefox", "Desktop Firefox"), ("webkit", "Desktop Safari")]

/-- An option that tells about the device but is none of a context. -/
def deviceOnlyOption : String := "default_browser_type"

/-- The options with one set; it keeps its place if it has one. -/
def setOption (name : String) (value : Data) : ContextOptions → ContextOptions
  | [] => [(name, value)]
  | (other, old) :: rest =>
    if other = name then (other, value) :: rest else (other, old) :: setOption name value rest

/-- The options of the device of an engine. -/
def deviceOptions (devices : List (String × ContextOptions)) (engine : String) : ContextOptions :=
  (devices.lookup ((desktopDevices.lookup engine).getD "")).getD []

/-- The options of a context for an engine. -/
def contextOptions (devices : List (String × ContextOptions)) (engine address : String)
    (videos : Option String) : ContextOptions :=
  let options := (deviceOptions devices engine).filter (·.1 != deviceOnlyOption)
  let options := setOption "base_url" (.text address) options
  match videos with
  | some directory =>
    if directory.isEmpty then options
    else setOption "record_video_dir" (.text directory) options
  | none => options

end BrowserScenario.Suite
