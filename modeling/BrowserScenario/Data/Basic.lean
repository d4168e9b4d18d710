import BrowserScenario.Number.Binary64
import BrowserScenario.Time.Moment

/-!
# Decoded documents

What a document holds once its notation has been read: nulls, truth values, numbers, texts,
bytes, dates, and collections of those. A mapping keeps its members in order, and no two of its
keys are the same; keys are compared by value, so that the number one is the same key whether it
was written whole, with a point or as a truth value.
-/

namespace BrowserScenario

open BrowserScenario.Number BrowserScenario.Time

/-- A decoded value. A `pair` is a key with its value where these stand outside a mapping; an
`elided` collection is one that stands inside itself, keyed or not. -/
inductive Data
  | null
  | bool (b : Bool)
  | int (n : Int)
  | float (x : Binary64)
  | text (s : String)
  | bytes (content : List UInt8)
  | date (date : Date)
  | moment (moment : Moment)
  | list (items : List Data)
  | pair (key value : Data)
  | set (items : List Data)
  | map (entries : List (Data × Data))
  | elided (keyed : Bool)
deriving Repr

namespace Data

/-- A number that is whole, as a whole number; a truth value counts as zero or one. -/
def wholeKey? : Data → Option Int
  | .bool b => some (if b then 1 else 0)
  | .int n => some n
  | .float x => x.toInt?
  | _ => none

/-- Whether two keys are the same. -/
def sameKey (a b : Data) : Bool :=
  match a.wholeKey?, b.wholeKey? with
  | some m, some n => m == n
  | some _, none => false
  | none, some _ => false
  | none, none =>
    match a, b with
    | .null, .null => true
    | .float x, .float y => x == y && x != .nan
    | .text s, .text t => s == t
    | .bytes s, .bytes t => s == t
    | .date d, .date e => d == e
    | .moment s, .moment t => s.offset.isSome == t.offset.isSome && s.microseconds == t.microseconds
    | _, _ => false

/-- The entries with the value of a key replaced, or with the key added at the end. -/
def insertEntry {α : Type} (key : Data) (value : α) : List (Data × α) → List (Data × α)
  | [] => [(key, value)]
  | (k, v) :: rest =>
    if sameKey k key then (k, value) :: rest else (k, v) :: insertEntry key value rest

/-- The entries of a mapping written in an order in which a later value replaces an earlier one
of the same key. -/
def mergeEntries {α : Type} (entries : List (Data × α)) : List (Data × α) :=
  entries.foldl (fun merged entry => insertEntry entry.1 entry.2 merged) []

/-- The value of a member that is named by a text. -/
def member? (name : String) : List (Data × Data) → Option Data
  | [] => none
  | (.text key, value) :: rest => if key = name then some value else member? name rest
  | _ :: rest => member? name rest

end Data

end BrowserScenario
