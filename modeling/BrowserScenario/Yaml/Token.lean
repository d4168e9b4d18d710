import BrowserScenario.Yaml.Fault

/-!
# Tokens

The tokens that a document is made of. Besides the indicators that are written there are tokens
for what indentation says: where a block collection starts and where it ends, and where a key
starts that no question mark announces. A `broken` token stands where the text stops being
readable.
-/

namespace BrowserScenario.Yaml

/-- A line before a document that says how to read it. -/
inductive Directive
  | version (major : Nat)
  | handle (name start : List Char)
  | reserved
deriving DecidableEq, Repr

/-- A token. -/
inductive Token
  | directive (directive : Directive)
  | documentStart
  | documentEnd
  | streamEnd
  | blockSequenceStart
  | blockMappingStart
  | blockEnd
  | flowSequenceStart
  | flowSequenceEnd
  | flowMappingStart
  | flowMappingEnd
  | key
  | value
  | blockEntry
  | flowEntry
  | alias (name : List Char)
  | anchor (name : List Char)
  | tag (handle : Option (List Char)) (suffix : List Char)
  | scalar (text : List Char) (plain : Bool)
  | broken (fault : Fault)
deriving DecidableEq, Repr

/-- What a character is looked at past the end of a text. -/
def endMark : Char := '\x00'

/-- A character that ends a line. -/
def isBreak (c : Char) : Bool :=
  c == '\n' || c == '\u0085' || c == '\u2028' || c == '\u2029'

/-- A character that ends a line, or the end. -/
def isBreakOrEnd (c : Char) : Bool :=
  isBreak c || c == endMark

/-- A space, a character that ends a line, or the end. -/
def isSpaceOrEnd (c : Char) : Bool :=
  c == ' ' || isBreakOrEnd c

/-- A space, a tab, a character that ends a line, or the end. -/
def isGapOrEnd (c : Char) : Bool :=
  c == '\t' || isSpaceOrEnd c

/-- A character of a name: an ASCII letter or digit, a hyphen or an underscore. -/
def isNameChar (c : Char) : Bool :=
  c.isAlphanum || c == '-' || c == '_'

/-- A character of a tag, a percent sign apart. -/
def isTagChar (c : Char) : Bool :=
  c.isAlphanum || "-;/?:@&=+$,_.!~*'()[]".toList.contains c

/-- A character that a document may hold. -/
def isAllowed (c : Char) : Bool :=
  let n := c.toNat
  n == 9 || n == 10 || n == 13 || (0x20 ≤ n && n ≤ 0x7E) || n == 0x85 || (0xA0 ≤ n && n ≤ 0xD7FF)
    || (0xE000 ≤ n && n ≤ 0xFFFD) || 0x10000 ≤ n

/-- The characters that are left at a place of a text, with the number of characters before them,
the number of lines before them, and the column. -/
structure Place where
  rest : List Char
  index : Nat
  line : Nat
  column : Nat
deriving Repr

namespace Place

/-- The place at the start of a text. -/
def start (text : List Char) : Place := ⟨text, 0, 0, 0⟩

/-- The character at a distance from the place, or the end mark. -/
def peek (place : Place) (distance : Nat) : Char :=
  (place.rest.drop distance).headD endMark

/-- The character at the place, or the end mark. -/
def char (place : Place) : Char :=
  place.rest.headD endMark

/-- The place after some characters. A byte order mark takes up no column. -/
def skip (place : Place) : Nat → Place
  | 0 => place
  | count + 1 =>
    match place.rest with
    | [] => place
    | c :: rest =>
      let next : Place :=
        if isBreak c then ⟨rest, place.index + 1, place.line + 1, 0⟩
        else if c = '\uFEFF' then ⟨rest, place.index + 1, place.line, place.column⟩
        else ⟨rest, place.index + 1, place.line, place.column + 1⟩
      next.skip count

/-- The longest run of characters of a class at the place, and the place after it. -/
def span (member : Char → Bool) (place : Place) : List Char × Place :=
  let run := place.rest.takeWhile member
  (run, place.skip run.length)

/-- The place after the spaces. -/
def skipSpaces (place : Place) : Place :=
  (place.span (· == ' ')).2

/-- The place at the end of the line, if there is a comment to skip. -/
def skipComment (place : Place) : Place :=
  if place.char = '#' then (place.span fun c => !isBreakOrEnd c).2 else place

/-- The line break at the place, none or one character, and the place after it. -/
def lineBreak (place : Place) : List Char × Place :=
  let c := place.char
  if c = '\n' || c = '\u0085' then (['\n'], place.skip 1)
  else if c = '\u2028' || c = '\u2029' then ([c], place.skip 1)
  else ([], place)

/-- Whether a line that separates documents starts at the place. -/
def atSeparator (place : Place) : Bool :=
  (place.rest.take 3 == ['-', '-', '-'] || place.rest.take 3 == ['.', '.', '.'])
    && isGapOrEnd (place.peek 3)

end Place

end BrowserScenario.Yaml
