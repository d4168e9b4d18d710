import BrowserScenario.Pattern.Basic
import BrowserScenario.Text.Alphanumeric
import BrowserScenario.Text.Blank
import BrowserScenario.Text.Casing
import BrowserScenario.Text.Decimal

/-!
# Comparing characters

Whether a character is one that a pattern names, or in a class. With case ignored two characters
agree if their lower-case forms agree or share an upper-case form; in the ASCII alphabet only ASCII
letters have case. Main statement: without ignoring case a character agrees with itself only.
-/

namespace BrowserScenario.Pattern

open BrowserScenario.Text

/-- The lower-case form of a code point in the alphabet of some switches. -/
def lowerCode (switches : Switches) (code : Nat) : Nat :=
  if switches.unicode then (lowerChar (Char.ofNat code)).toNat
  else if 65 ≤ code && code ≤ 90 then code + 32
  else code

/-- The lower-case code points that count as the same as one of them, without itself. -/
def siblingCodes (switches : Switches) (code : Nat) : List Nat :=
  if switches.unicode then (siblingsOf (Char.ofNat code)).map Char.toNat else []

/-- Whether a character agrees with a code point of a pattern. -/
def sameCode (switches : Switches) (code : Nat) (c : Char) : Bool :=
  if switches.ignoreCase then
    let lower := lowerCode switches code
    let own := lowerCode switches c.toNat
    own == lower || (siblingCodes switches lower).contains own
  else c.toNat == code

/-- The code points whose lower-case form is a given lower-case one. -/
def formsOf (switches : Switches) (code : Nat) : List Nat :=
  if switches.unicode then code :: (upperFormsOf (Char.ofNat code)).map Char.toNat
  else if 97 ≤ code && code ≤ 122 then [code, code - 32]
  else [code]

/-- Whether a character is in a range, or agrees with a member of it. -/
def inRange (switches : Switches) (first last : Nat) (c : Char) : Bool :=
  if switches.ignoreCase then
    let own := lowerCode switches c.toNat
    let agreeing := (own :: siblingCodes switches own).flatMap (formsOf switches)
    agreeing.any fun code => first ≤ code && code ≤ last
  else first ≤ c.toNat && c.toNat ≤ last

/-- A character that words are made of. -/
def isWord (switches : Switches) (c : Char) : Bool :=
  if switches.unicode then isWordChar c else c.isAlphanum || c == '_'

/-- Whether a character is in a category. -/
def inCategory (switches : Switches) (category : Category) (c : Char) : Bool :=
  match category with
  | .word => isWord switches c
  | .digit => if switches.unicode then isDecimal c else c.isDigit
  | .space =>
    if switches.unicode then isBlank c else c == ' ' || (9 ≤ c.toNat && c.toNat ≤ 13)

/-- Whether a character is one that an item of a class stands for. -/
def inItem (switches : Switches) (c : Char) : ClassItem → Bool
  | .code code => sameCode switches code c
  | .range first last => inRange switches first last c
  | .category category complement => inCategory switches category c != complement

/-- Whether a character is in a class or its complement. -/
def inClass (switches : Switches) (complement : Bool) (items : List ClassItem) (c : Char) : Bool :=
  items.any (inItem switches c) != complement

/-- Whether two characters agree where a text is to be found again. -/
def sameChar (switches : Switches) (a b : Char) : Bool :=
  if switches.ignoreCase then lowerCode switches a.toNat == lowerCode switches b.toNat else a == b

/-- Without ignoring case a character agrees with its own code point only. -/
theorem sameCode_of_case {switches : Switches} (h : switches.ignoreCase = false) (code : Nat)
    (c : Char) : sameCode switches code c = (c.toNat == code) := by
  simp [sameCode, h]

end BrowserScenario.Pattern
