import BrowserScenario.Data.Display
import BrowserScenario.Text.Utf8

/-!
# Checking data against a schema

A check either gives a value or lists every mismatch it found, in the order in which the parts
were looked at. Checks of several parts are put together so that no mismatch of one part hides
those of another. A text may be given as its bytes. Main statements: the mismatches of a combination
are those of its parts, one after the other, and the combination gives a value exactly when all
parts do.
-/

namespace BrowserScenario

open BrowserScenario.Text

/-- One step of the way from the top of the data to a part of it. -/
inductive PathPart
  | field (name : String)
  | index (position : Nat)
deriving DecidableEq, Repr

/-- The wording of a step of a path. -/
def PathPart.text : PathPart → String
  | .field name => name
  | .index position => toString position

/-- What is wrong with a part of the data. -/
inductive Mismatch
  | required
  | notModel (model : String)
  | notFields
  | notList
  | notTagSet
  | notText
  | notTextBytes
  | longNumber
  | notNumber
  | unreadableNumber
  | negative
  | notInteger
  | unreadableInteger
  | largeInteger
  | fractionalInteger
  | notFinite
  | notTruth
  | unreadableTruth
  | refused (reason : String)
  | noTag (discriminator : String)
  | unknownTag (tag discriminator : String) (expected : List String)
deriving DecidableEq, Repr

/-- The wording of a mismatch. -/
def Mismatch.message : Mismatch → String
  | .required => "Field required"
  | .notModel model => "Input should be a valid dictionary or instance of " ++ model
  | .notFields => "Input should be a valid dictionary or object to extract fields from"
  | .notList => "Input should be a valid list"
  | .notTagSet => "Input should be a valid frozenset"
  | .notText => "Input should be a valid string"
  | .notTextBytes =>
    "Input should be a valid string, unable to parse raw data as a unicode string"
  | .longNumber => Number.digitLimitMessage ""
  | .notNumber => "Input should be a valid number"
  | .unreadableNumber => "Input should be a valid number, unable to parse string as a number"
  | .negative => "Input should be greater than or equal to 0"
  | .notInteger => "Input should be a valid integer"
  | .unreadableInteger =>
    "Input should be a valid integer, unable to parse string as an integer"
  | .largeInteger => "Unable to parse input string as an integer, exceeded maximum size"
  | .fractionalInteger => "Input should be a valid integer, got a number with a fractional part"
  | .notFinite => "Input should be a finite number"
  | .notTruth => "Input should be a valid boolean"
  | .unreadableTruth => "Input should be a valid boolean, unable to interpret input"
  | .refused reason => "Value error, " ++ reason
  | .noTag discriminator => "Unable to extract tag using discriminator '" ++ discriminator ++ "'"
  | .unknownTag tag discriminator expected =>
    "Input tag '" ++ tag ++ "' found using '" ++ discriminator
      ++ "' does not match any of the expected tags: "
      ++ Data.commaJoined (expected.map fun name => "'" ++ name ++ "'")

/-- A mismatch and where it is. -/
structure Located where
  path : List PathPart
  mismatch : Mismatch
deriving DecidableEq, Repr

/-- The wording of a located mismatch. -/
def Located.message (located : Located) : String :=
  match located.path with
  | [] => located.mismatch.message
  | path => ".".intercalate (path.map PathPart.text) ++ ": " ++ located.mismatch.message

/-- The outcome of a check: a value, or at least one mismatch. -/
inductive Checked (α : Type)
  | valid (value : α)
  | invalid (first : Located) (more : List Located)
deriving DecidableEq, Repr

namespace Checked

variable {α β : Type}

/-- The mismatches found, none for a value. -/
def mismatches : Checked α → List Located
  | .valid _ => []
  | .invalid first more => first :: more

/-- The value, if the check gave one. -/
def value? : Checked α → Option α
  | .valid value => some value
  | .invalid _ _ => none

/-- A check that fails at the part it looks at. -/
def fail (mismatch : Mismatch) : Checked α :=
  .invalid ⟨[], mismatch⟩ []

/-- The same check with its value turned into another. -/
def map (f : α → β) : Checked α → Checked β
  | .valid value => .valid (f value)
  | .invalid first more => .invalid first more

/-- Both checks: the value of a function at a value, or the mismatches of the first and then of
the second. -/
def apply : Checked (α → β) → Checked α → Checked β
  | .valid f, .valid value => .valid (f value)
  | .valid _, .invalid first more => .invalid first more
  | .invalid first more, other => .invalid first (more ++ other.mismatches)

instance : Functor Checked where
  map := map

instance : Pure Checked where
  pure := .valid

instance : Seq Checked where
  seq f x := apply f (x ())

/-- A mismatch seen from one step further up. -/
def lift (part : PathPart) (located : Located) : Located :=
  { located with path := part :: located.path }

/-- A check of a part, seen from the whole. -/
def within (part : PathPart) : Checked α → Checked α
  | .valid value => .valid value
  | .invalid first more => .invalid (lift part first) (more.map (lift part))

/-- The checks of the items of a list from a position on. -/
def eachFrom (check : Data → Checked α) : Nat → List Data → Checked (List α)
  | _, [] => .valid []
  | position, item :: rest =>
    List.cons <$> within (.index position) (check item) <*> eachFrom check (position + 1) rest

/-- The checks of the items of a list. -/
def each (check : Data → Checked α) (items : List Data) : Checked (List α) :=
  eachFrom check 0 items

/-- The check of the text that bytes are; bytes that are no text do not fit. -/
def ofBytes (check : String → Checked α) (mismatch : Mismatch) (content : List UInt8) :
    Checked α :=
  match decodeUtf8 content with
  | .ok chars => check (String.ofList chars)
  | .error _ => fail mismatch

/-- A text, or bytes that are one. -/
def plainText : Data → Checked String
  | .text s => .valid s
  | .bytes content => ofBytes .valid .notTextBytes content
  | _ => fail .notText

/-- Turning a value into another changes no mismatch. -/
theorem mismatches_map (f : α → β) (checked : Checked α) :
    (f <$> checked).mismatches = checked.mismatches := by
  cases checked <;> rfl

/-- The mismatches of both checks are those of the first and then those of the second. -/
theorem mismatches_seq (first : Checked (α → β)) (second : Checked α) :
    (first <*> second).mismatches = first.mismatches ++ second.mismatches := by
  cases first with
  | valid f => cases second <;> rfl
  | invalid located more => rfl

/-- Both checks give a value exactly when each does. -/
theorem seq_eq_valid_iff (first : Checked (α → β)) (second : Checked α) (result : β) :
    (first <*> second) = .valid result
      ↔ ∃ f value, first = .valid f ∧ second = .valid value ∧ result = f value := by
  cases first with
  | valid f =>
    cases second with
    | valid value =>
      constructor
      · intro h
        exact ⟨f, value, rfl, rfl, (Checked.valid.inj h).symm⟩
      · rintro ⟨g, other, hf, hvalue, rfl⟩
        cases hf
        cases hvalue
        rfl
    | invalid located more =>
      constructor
      · intro h
        exact nomatch h
      · rintro ⟨g, other, -, hvalue, -⟩
        exact nomatch hvalue
  | invalid located more =>
    constructor
    · intro h
      exact nomatch h
    · rintro ⟨g, other, hf, -, -⟩
      exact nomatch hf

end Checked

end BrowserScenario
