import BrowserScenario.Data.Basic
import BrowserScenario.Json.Error

/-!
# Reading JSON

A text is read as one value with blanks around it. Beyond the standard notation the names of the
infinities and of the value that is not a number are accepted. Of several members of an object with
one name the last gives the value and the first the place. Texts are made of characters, and half of
a pair of units that stands alone is replaced. Every reader works on the characters that are left,
together with the number of characters before them.
-/

namespace BrowserScenario.Json

open BrowserScenario.Number

/-- The characters that are left, after a number of characters. -/
structure Cursor where
  rest : List Char
  position : Nat
deriving Repr

namespace Cursor

/-- The cursor after some characters. -/
def skip (cursor : Cursor) (count : Nat) : Cursor :=
  ⟨cursor.rest.drop count, cursor.position + count⟩

/-- A blank of the notation. -/
def isGap (c : Char) : Bool :=
  c == ' ' || c == '\t' || c == '\n' || c == '\r'

/-- The cursor after the blanks in front. -/
def skipGaps (cursor : Cursor) : Cursor :=
  cursor.skip (cursor.rest.takeWhile isGap).length

/-- An error at the cursor. -/
def fail {α : Type} (cursor : Cursor) (fault : Fault) : Except Error α :=
  .error (.at fault cursor.position)

end Cursor

/-- The value of a hexadecimal digit. -/
def hexDigit? (c : Char) : Option Nat :=
  if c.isDigit then some (c.toNat - '0'.toNat)
  else if 'a' ≤ c && c ≤ 'f' then some (c.toNat - 'a'.toNat + 10)
  else if 'A' ≤ c && c ≤ 'F' then some (c.toNat - 'A'.toNat + 10)
  else none

/-- The value of four hexadecimal digits in front, with at least one character after them. -/
def codeUnit? : List Char → Option Nat
  | a :: b :: c :: d :: _ :: _ =>
    match hexDigit? a, hexDigit? b, hexDigit? c, hexDigit? d with
    | some p, some q, some r, some s => some (((p * 16 + q) * 16 + r) * 16 + s)
    | _, _, _, _ => none
  | _ => none

/-- The first of two units that make up one character. -/
def isHighUnit (unit : Nat) : Bool :=
  0xD800 ≤ unit && unit < 0xDC00

/-- The second of two units that make up one character. -/
def isLowUnit (unit : Nat) : Bool :=
  0xDC00 ≤ unit && unit < 0xE000

/-- The character that one escape stands for. -/
def simpleEscape? : Char → Option Char
  | '"' => some '"'
  | '\\' => some '\\'
  | '/' => some '/'
  | 'b' => some '\x08'
  | 'f' => some '\x0c'
  | 'n' => some '\n'
  | 'r' => some '\r'
  | 't' => some '\t'
  | _ => none

/-- The character that a unit stands for. A unit that makes up a character only together with
another one, and stands alone, has none: any such unit becomes the replacement character, so that
texts which differ in such units alone are read as one text. -/
def charOfCode (code : Nat) : Char :=
  if isHighUnit code || isLowUnit code then '\uFFFD' else Char.ofNat code

/-- The character of an escape by code units whose letter is at the cursor, and the number of
characters of the escape from there on. A high unit is joined with a low unit after it. -/
def codeEscape (cursor : Cursor) : Except Error (Char × Nat) :=
  match codeUnit? (cursor.rest.drop 1) with
  | none => cursor.fail .invalidCodeEscape
  | some unit =>
    let after := cursor.rest.drop 5
    if isHighUnit unit && 6 < after.length && after.take 2 == ['\\', 'u'] then
      match codeUnit? (after.drop 2) with
      | none => (cursor.skip 6).fail .invalidCodeEscape
      | some low =>
        if isLowUnit low then
          .ok (Char.ofNat (0x10000 + (unit - 0xD800) * 1024 + (low - 0xDC00)), 11)
        else .ok (charOfCode unit, 5)
    else .ok (charOfCode unit, 5)

/-- The characters of a text literal from the cursor to its closing quote. The opening quote is at
`start`; characters read so far are kept in reverse. -/
def literalChars (start : Nat) : Nat → List Char → Cursor → Except Error (List Char × Cursor)
  | 0, _, _ => .error (.at .unterminatedString start)
  | fuel + 1, read, cursor =>
    match cursor.rest with
    | [] => .error (.at .unterminatedString start)
    | '"' :: _ => .ok (read.reverse, cursor.skip 1)
    | ['\\'] => .error (.at .unterminatedString start)
    | '\\' :: 'u' :: _ =>
      match codeEscape (cursor.skip 1) with
      | .error e => .error e
      | .ok (c, count) => literalChars start fuel (c :: read) (cursor.skip (count + 1))
    | '\\' :: letter :: _ =>
      match simpleEscape? letter with
      | some c => literalChars start fuel (c :: read) (cursor.skip 2)
      | none => cursor.fail .invalidEscape
    | c :: _ =>
      if c.toNat ≤ 0x1F then cursor.fail .controlCharacter
      else literalChars start fuel (c :: read) (cursor.skip 1)

/-- The text literal whose opening quote is at the cursor. -/
def literal (cursor : Cursor) : Except Error (String × Cursor) :=
  match literalChars cursor.position (cursor.rest.length + 1) [] (cursor.skip 1) with
  | .ok (chars, after) => .ok (String.ofList chars, after)
  | .error e => .error e

/-- The number of characters of the whole part of a number, without its sign; zero if there is
none. -/
def wholeLength : List Char → Nat
  | '0' :: _ => 1
  | s => (s.takeWhile Char.isDigit).length

/-- The number of characters of a point with digits after it. -/
def fractionLength : List Char → Nat
  | '.' :: rest =>
    let digits := rest.takeWhile Char.isDigit
    if digits.isEmpty then 0 else digits.length + 1
  | _ => 0

/-- The number of characters of an exponent with digits. -/
def exponentLength : List Char → Nat
  | letter :: rest =>
    if letter = 'e' || letter = 'E' then
      let signLength := match rest with
        | '+' :: _ => 1
        | '-' :: _ => 1
        | _ => 0
      let digits := (rest.drop signLength).takeWhile Char.isDigit
      if digits.isEmpty then 0 else 1 + signLength + digits.length
    else 0
  | [] => 0

/-- The number at the cursor. -/
def numeral (cursor : Cursor) : Except Error (Data × Cursor) :=
  let (negative, rest) := match cursor.rest with
    | '-' :: rest => (true, rest)
    | rest => (false, rest)
  let signLength := if negative then 1 else 0
  let whole := wholeLength rest
  if whole = 0 then cursor.fail .expectingValue
  else
    let fraction := fractionLength (rest.drop whole)
    let exponent := exponentLength (rest.drop (whole + fraction))
    let after := cursor.skip (signLength + whole + fraction + exponent)
    if fraction + exponent = 0 then
      match limitedValue negative (rest.take whole) with
      | .ok n => .ok (.int n, after)
      | .error refusal => .error (.number refusal)
    else
      match unsignedDecimal? negative (rest.take (whole + fraction + exponent)) with
      | some x => .ok (.float x, after)
      | none => cursor.fail .expectingValue

/-- The words that stand for values. -/
def wordValues : List (List Char × Data) := [
  (['n', 'u', 'l', 'l'], .null),
  (['t', 'r', 'u', 'e'], .bool true),
  (['f', 'a', 'l', 's', 'e'], .bool false),
  (['N', 'a', 'N'], .float .nan),
  (['I', 'n', 'f', 'i', 'n', 'i', 't', 'y'], .float (.infinite false)),
  (['-', 'I', 'n', 'f', 'i', 'n', 'i', 't', 'y'], .float (.infinite true))]

/-- The value of a word at the cursor. -/
def word? (cursor : Cursor) : Option (Data × Cursor) :=
  (wordValues.find? fun entry => entry.1.isPrefixOf cursor.rest).map fun entry =>
    (entry.2, cursor.skip entry.1.length)

mutual

/-- The value at the cursor. -/
def value : Nat → Cursor → Except Error (Data × Cursor)
  | 0, cursor => cursor.fail .expectingValue
  | fuel + 1, cursor =>
    match cursor.rest with
    | [] => cursor.fail .expectingValue
    | '"' :: _ =>
      match literal cursor with
      | .ok (s, after) => .ok (.text s, after)
      | .error e => .error e
    | '[' :: _ =>
      let inner := (cursor.skip 1).skipGaps
      match inner.rest with
      | ']' :: _ => .ok (.list [], inner.skip 1)
      | _ => elements fuel [] inner
    | '\x7b' :: _ =>
      let inner := (cursor.skip 1).skipGaps
      match inner.rest with
      | '\x7d' :: _ => .ok (.map [], inner.skip 1)
      | _ => members fuel [] inner
    | _ =>
      match word? cursor with
      | some found => .ok found
      | none => numeral cursor

/-- The elements of an array from the cursor to its closing bracket, after those read already,
which are kept in reverse. -/
def elements : Nat → List Data → Cursor → Except Error (Data × Cursor)
  | 0, _, cursor => cursor.fail .expectingValue
  | fuel + 1, read, cursor =>
    match value fuel cursor with
    | .error e => .error e
    | .ok (item, after) =>
      let next := after.skipGaps
      match next.rest with
      | ']' :: _ => .ok (.list (item :: read).reverse, next.skip 1)
      | ',' :: _ => elements fuel (item :: read) (next.skip 1).skipGaps
      | _ => next.fail .expectingComma

/-- The members of an object from the cursor to its closing brace, after those read already, which
are kept in reverse. -/
def members : Nat → List (Data × Data) → Cursor → Except Error (Data × Cursor)
  | 0, _, cursor => cursor.fail .expectingName
  | fuel + 1, read, cursor =>
    match cursor.rest with
    | '"' :: _ =>
      match literal cursor with
      | .error e => .error e
      | .ok (name, afterName) =>
        let colon := afterName.skipGaps
        match colon.rest with
        | ':' :: _ =>
          match value fuel (colon.skip 1).skipGaps with
          | .error e => .error e
          | .ok (item, after) =>
            let next := after.skipGaps
            let read := (.text name, item) :: read
            match next.rest with
            | '\x7d' :: _ => .ok (.map (Data.mergeEntries read.reverse), next.skip 1)
            | ',' :: _ => members fuel read (next.skip 1).skipGaps
            | _ => next.fail .expectingComma
        | _ => colon.fail .expectingColon
    | _ => cursor.fail .expectingName

end

/-- The value that a text holds. -/
def read (text : List Char) : Except Error Data :=
  match text with
  | '\uFEFF' :: _ => .error (.at .byteOrderMark 0)
  | _ =>
    match value (2 * text.length + 2) (Cursor.mk text 0).skipGaps with
    | .error e => .error e
    | .ok (data, after) =>
      let last := after.skipGaps
      if last.rest.isEmpty then .ok data else last.fail .extraData

end BrowserScenario.Json
