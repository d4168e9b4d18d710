import BrowserScenario.Text.Blank
import BrowserScenario.Variables.Basic

/-!
# Assignment files

A settings file assigns values to names, one assignment after the other. A name may stand in
single quotes and after the word "export"; a value may stand in single or double quotes, with
escapes, and then go on over several lines. A value without quotes ends with its line or before a
blank and a number sign. A name without an equals sign has no value. What is not an assignment is
passed over up to the end of its line. In values, a dollar sign and a name in braces stand for the
value of the name, or for a default that may follow the name after a colon and a dash.
-/

namespace BrowserScenario.Settings

open BrowserScenario.Text

/-- A name with a value or without one. -/
structure Assignment where
  name : List Char
  value : Option (List Char)
deriving DecidableEq, Repr

/-- A blank other than the end of a line. -/
def isInlineBlank (c : Char) : Bool :=
  isBlank c && c != '\n' && c != '\r'

/-- A character that ends a line. -/
def isLineEnd (c : Char) : Bool :=
  c == '\n' || c == '\r'

/-- The text up to the first quote that does not follow a backslash, and what follows the quote.
Where every quote follows a backslash, the last one counts. -/
def upToQuote? (quote : Char) : List Char → Option (List Char × List Char)
  | [] => none
  | '\\' :: c :: rest =>
    if c = quote then
      match upToQuote? quote rest with
      | some (inside, after) => some ('\\' :: c :: inside, after)
      | none => some (['\\'], rest)
    else (upToQuote? quote (c :: rest)).map fun (inside, after) => ('\\' :: inside, after)
  | c :: rest =>
    if c = quote then some ([], rest)
    else (upToQuote? quote rest).map fun (inside, after) => (c :: inside, after)

/-- The escapes in double quotes: the letter after the backslash and what it stands for. -/
def doubleEscapes : List (Char × Char) := [
  ('\\', '\\'), ('\'', '\''), ('"', '"'), ('a', '\x07'), ('b', '\x08'), ('f', '\x0C'),
  ('n', '\n'), ('r', '\r'), ('t', '\t'), ('v', '\x0B')]

/-- The escapes in single quotes. -/
def singleEscapes : List (Char × Char) := [('\\', '\\'), ('\'', '\'')]

/-- A text with its escapes replaced; a backslash in front of anything else stands for itself. -/
def unescape (escapes : List (Char × Char)) : List Char → List Char
  | '\\' :: c :: rest =>
    match escapes.lookup c with
    | some meant => meant :: unescape escapes rest
    | none => '\\' :: unescape escapes (c :: rest)
  | c :: rest => c :: unescape escapes rest
  | [] => []

/-- A value without quotes up to a comment, which is a number sign after blanks. -/
def beforeComment : List Char → List Char
  | [] => []
  | c :: rest =>
    if isBlank c && (rest.dropWhile isBlank).head? == some '#' then [] else c :: beforeComment rest

/-- The value that a text after an equals sign starts with, and what follows the value. -/
def value? : List Char → Option (List Char × List Char)
  | '\'' :: rest =>
    (upToQuote? '\'' rest).map fun (inside, after) => (unescape singleEscapes inside, after)
  | '"' :: rest =>
    (upToQuote? '"' rest).map fun (inside, after) => (unescape doubleEscapes inside, after)
  | text =>
    let line := text.takeWhile (!isLineEnd ·)
    some (dropTail isBlank (beforeComment line), text.dropWhile (!isLineEnd ·))

/-- The name that a text starts with, and what follows the name; at a comment there is no name. -/
def name? : List Char → Option (Option (List Char) × List Char)
  | '#' :: rest => some (none, '#' :: rest)
  | '\'' :: rest =>
    match rest.takeWhile (· != '\''), rest.dropWhile (· != '\'') with
    | first :: more, _ :: after => some (some (first :: more), after)
    | _, _ => none
  | text =>
    let isPart (c : Char) : Bool := c != '=' && c != '#' && !isBlank c
    match text.takeWhile isPart with
    | [] => none
    | name => some (some name, text.dropWhile isPart)

/-- The text after the word "export" and blanks, if it starts with them. -/
def afterExport (text : List Char) : List Char :=
  match "export".toList.isPrefixOf text, text.drop 6 with
  | true, c :: rest => if isInlineBlank c then rest.dropWhile isInlineBlank else text
  | _, _ => text

/-- What follows the end of a line, with blanks and a comment in front of it allowed. -/
def afterLine? (text : List Char) : Option (List Char) :=
  let afterBlanks := text.dropWhile isInlineBlank
  let rest := if afterBlanks.head? == some '#' then text.dropWhile (!isLineEnd ·) else afterBlanks
  match rest with
  | [] => some []
  | '\r' :: '\n' :: after => some after
  | c :: after => if isLineEnd c then some after else none

/-- What follows the line that a text is on. -/
def skipLine (text : List Char) : List Char :=
  (text.dropWhile (!isLineEnd ·)).drop 1

/-- An assignment, or nothing at a comment, and what follows its line; at what is not an
assignment, where the reading stopped. -/
def assignment? (text : List Char) :
    Except (List Char) (Option Assignment × List Char) :=
  let text := afterExport text
  match name? text with
  | none => .error text
  | some (name, rest) =>
    let rest := rest.dropWhile isInlineBlank
    let valued : Except (List Char) (Option (List Char) × List Char) :=
      match rest with
      | '=' :: after =>
        let after := after.dropWhile isInlineBlank
        match value? after with
        | some (value, after) => .ok (some value, after)
        | none => .error after
      | _ => .ok (none, rest)
    match valued with
    | .error stopped => .error stopped
    | .ok (value, rest) =>
      match afterLine? rest with
      | none => .error rest
      | some after => .ok (name.map (⟨·, value⟩), after)

/-- The assignments of a text, read for at most a number of lines. -/
def assignmentsWithin : Nat → List Char → List Assignment
  | 0, _ => []
  | bound + 1, text =>
    match text.dropWhile isBlank with
    | [] => []
    | start =>
      match assignment? start with
      | .ok (some assignment, rest) => assignment :: assignmentsWithin bound rest
      | .ok (none, rest) => assignmentsWithin bound rest
      | .error stopped => assignmentsWithin bound (skipLine stopped)

/-- The assignments of a text, in order. -/
def assignments (text : List Char) : List Assignment :=
  assignmentsWithin (text.length + 1) text

/-- A marker that a text starts with: its name, its default and what follows it. -/
def reference? : List Char → Option (List Char × Option (List Char) × List Char)
  | '$' :: '\x7b' :: rest =>
    let isPart (c : Char) : Bool := c != '\x7d' && c != ':'
    let name := rest.takeWhile isPart
    match rest.dropWhile isPart with
    | '\x7d' :: after => some (name, none, after)
    | ':' :: '-' :: fallback =>
      match fallback.dropWhile (· != '\x7d') with
      | _ :: after => some (name, some (fallback.takeWhile (· != '\x7d')), after)
      | [] => none
    | _ => none
  | _ => none

/-- A value with the markers replaced that a look-up knows or that have a default; others stand
for nothing. At most a number of characters is read. -/
def expandWithin (lookup : List Char → Option (List Char)) : Nat → List Char → List Char
  | 0, _ => []
  | _, [] => []
  | bound + 1, c :: rest =>
    match reference? (c :: rest) with
    | some (name, fallback, after) =>
      ((lookup name).getD (fallback.getD [])) ++ expandWithin lookup bound after
    | none => c :: expandWithin lookup bound rest

/-- A value with its markers replaced. -/
def expand (lookup : List Char → Option (List Char)) (value : List Char) : List Char :=
  expandWithin lookup value.length value

/-- Names with their values, an absent value among them, in the order in which the names were
first assigned. -/
abbrev Assigned := List (List Char × Option (List Char))

/-- The value that the name of a marker has: of the assignments so far the one of the name, or else
what the environment has. -/
def referenced (environment : Variables) (assigned : Assigned) (name : List Char) :
    Option (List Char) :=
  match assigned.lookup name with
  | some value => some (value.getD [])
  | none => (environment.get? (String.ofList name)).map String.toList

/-- A name assigned a value; it keeps its place if it has one. -/
def assign (name : List Char) (value : Option (List Char)) : Assigned → Assigned
  | [] => [(name, value)]
  | (other, old) :: rest =>
    if other = name then (other, value) :: rest else (other, old) :: assign name value rest

/-- The values after further assignments, with the markers of values replaced. -/
def assignAll (environment : Variables) (assigned : Assigned) (more : List Assignment) : Assigned :=
  more.foldl (fun assigned assignment =>
    assign assignment.name
      (assignment.value.map (expand (referenced environment assigned))) assigned) assigned

/-- The values that the text of an assignment file gives. -/
def assignedBy (environment : Variables) (text : List Char) : Assigned :=
  assignAll environment [] (assignments text)

end BrowserScenario.Settings
