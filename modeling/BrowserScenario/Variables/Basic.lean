/-!
# Variables

Names with text values. A name has one value; giving it another replaces the value and keeps the
place of the name. Main statement: after a value is set, that name has it and every other name
has what it had.
-/

namespace BrowserScenario

/-- Names with their values, in the order in which the names were first set. -/
structure Variables where
  entries : List (String × String)
deriving DecidableEq, Repr

namespace Variables

/-- No variables. -/
def empty : Variables := ⟨[]⟩

/-- Whether there are no variables. -/
def isEmpty (values : Variables) : Bool :=
  values.entries.isEmpty

/-- The value of a name in a list of entries. -/
def lookupIn (name : String) : List (String × String) → Option String
  | [] => none
  | (key, value) :: rest => if key = name then some value else lookupIn name rest

/-- The value of a name. -/
def get? (values : Variables) (name : String) : Option String :=
  lookupIn name values.entries

/-- A list of entries with a name set to a value. -/
def setIn (name value : String) : List (String × String) → List (String × String)
  | [] => [(name, value)]
  | (key, old) :: rest =>
    if key = name then (key, value) :: rest else (key, old) :: setIn name value rest

/-- The variables with a name set to a value. -/
def set (values : Variables) (name value : String) : Variables :=
  ⟨setIn name value values.entries⟩

/-- The variables of a list of settings, of which a later one replaces an earlier one. -/
def ofList (settings : List (String × String)) : Variables :=
  settings.foldl (fun values setting => values.set setting.1 setting.2) empty

/-- The look-up in entries after one was set. -/
theorem lookupIn_setIn (name value other : String) (entries : List (String × String)) :
    lookupIn other (setIn name value entries)
      = if other = name then some value else lookupIn other entries := by
  induction entries with
  | nil =>
    by_cases h : other = name
    · simp [setIn, lookupIn, h]
    · simp [setIn, lookupIn, h, Ne.symm h]
  | cons entry rest ih =>
    obtain ⟨key, old⟩ := entry
    by_cases hkey : key = name
    · by_cases h : other = name
      · simp [setIn, lookupIn, hkey, h]
      · simp [setIn, lookupIn, hkey, h, Ne.symm h]
    · by_cases h : key = other
      · have hne : ¬ other = name := fun heq => hkey (h.trans heq)
        simp [setIn, lookupIn, h, hne]
      · simp [setIn, lookupIn, hkey, h, ih]

/-- After a name is set it has the value, and other names have what they had. -/
theorem get?_set (values : Variables) (name value other : String) :
    (values.set name value).get? other
      = if other = name then some value else values.get? other :=
  lookupIn_setIn name value other values.entries

end Variables

end BrowserScenario
