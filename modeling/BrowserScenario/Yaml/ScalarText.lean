import BrowserScenario.Yaml.Token

/-!
# Scalars in the text of a document

A scalar is quoted, plain or a block of lines. Reading one gives its text, in which line breaks
are folded as the style asks, and the place after it.
-/

namespace BrowserScenario.Yaml

/-- The text of a scalar and the place after it. -/
abbrev Reading := Except Fault (List Char × Place)

/-- A hexadecimal digit. -/
def isHexDigit (c : Char) : Bool :=
  c.isDigit || ('a' ≤ c && c ≤ 'f') || ('A' ≤ c && c ≤ 'F')

/-- The value of hexadecimal digits. -/
def hexValue (digits : List Char) : Nat :=
  digits.foldl (fun value c => value * 16 + (Number.baseDigit? 16 c).getD 0) 0

/-- The character of a code. Half of a pair of units is no character; any such half becomes the
replacement character. -/
def codeChar (code : Nat) : Except Fault Char :=
  if 0x80000000 ≤ code then .error .characterCodeTooLarge
  else if 0x110000 ≤ code then .error .characterCode
  else if 0xD800 ≤ code && code < 0xE000 then .ok '\uFFFD'
  else .ok (Char.ofNat code)

/-- The character that an escape of one letter stands for. -/
def letterEscape? : Char → Option Char
  | '0' => some '\x00'
  | 'a' => some '\x07'
  | 'b' => some '\x08'
  | 't' => some '\t'
  | '\t' => some '\t'
  | 'n' => some '\n'
  | 'v' => some '\x0b'
  | 'f' => some '\x0c'
  | 'r' => some '\r'
  | 'e' => some '\x1b'
  | ' ' => some ' '
  | '"' => some '"'
  | '\\' => some '\\'
  | '/' => some '/'
  | 'N' => some '\u0085'
  | '_' => some '\u00A0'
  | 'L' => some '\u2028'
  | 'P' => some '\u2029'
  | _ => none

/-- The number of digits of an escape by code. -/
def codeLength? : Char → Option Nat
  | 'x' => some 2
  | 'u' => some 4
  | 'U' => some 8
  | _ => none

/-- The line breaks of blank lines inside a quoted scalar. -/
def quotedBreaks : Nat → Place → Reading
  | 0, _ => .error .malformed
  | fuel + 1, place =>
    if place.atSeparator then .error .malformed
    else
      let after := (place.span fun c => c == ' ' || c == '\t').2
      if isBreak after.char then
        let (lineBreak, next) := after.lineBreak
        match quotedBreaks fuel next with
        | .ok (more, last) => .ok (lineBreak ++ more, last)
        | .error fault => .error fault
      else .ok ([], after)

/-- A line break folded with the breaks of the blank lines after it. -/
def foldBreaks (lineBreak breaks : List Char) : List Char :=
  if lineBreak ≠ ['\n'] then lineBreak ++ breaks
  else if breaks.isEmpty then [' ']
  else breaks

/-- The blanks inside a quoted scalar. -/
def quotedBlanks (place : Place) : Reading :=
  let (blanks, after) := place.span fun c => c == ' ' || c == '\t'
  if after.char = endMark then .error .malformed
  else if isBreak after.char then
    let (lineBreak, next) := after.lineBreak
    match quotedBreaks (next.rest.length + 1) next with
    | .ok (breaks, last) => .ok (foldBreaks lineBreak breaks, last)
    | .error fault => .error fault
  else .ok (blanks, after)

/-- The escape whose letter is at a place. -/
def escape (place : Place) : Reading :=
  match letterEscape? place.char, codeLength? place.char with
  | some c, _ => .ok ([c], place.skip 1)
  | none, some length =>
    let digits := (place.skip 1).rest.take length
    if digits.length < length || !digits.all isHexDigit then .error .malformed
    else
      match codeChar (hexValue digits) with
      | .ok c => .ok ([c], place.skip (1 + length))
      | .error fault => .error fault
  | none, none =>
    if isBreak place.char then
      let next := place.lineBreak.2
      quotedBreaks (next.rest.length + 1) next
    else .error .malformed

/-- A character that stands for itself in a quoted scalar of either kind. -/
def isQuotedChar (c : Char) : Bool :=
  !(isGapOrEnd c || c == '\'' || c == '"' || c == '\\')

/-- The text of a quoted scalar up to its closing quote, after what was read already, which is
kept in reverse. -/
def quotedChars (double : Bool) : Nat → List Char → Place → Reading
  | 0, _, _ => .error .malformed
  | fuel + 1, read, place =>
    let (run, after) := place.span isQuotedChar
    let read := run.reverse ++ read
    let continueWith (reading : Reading) : Reading :=
      match reading with
      | .ok (chars, next) => quotedChars double fuel (chars.reverse ++ read) next
      | .error fault => .error fault
    match after.char, double with
    | '\'', false =>
      if after.peek 1 = '\'' then continueWith (.ok (['\''], after.skip 2))
      else .ok (read.reverse, after.skip 1)
    | '"', true => .ok (read.reverse, after.skip 1)
    | '\'', true => continueWith (.ok (['\''], after.skip 1))
    | '"', false => continueWith (.ok (['"'], after.skip 1))
    | '\\', false => continueWith (.ok (['\\'], after.skip 1))
    | '\\', true => continueWith (escape (after.skip 1))
    | _, _ => continueWith (quotedBlanks after)

/-- The quoted scalar whose opening quote is at a place. -/
def quotedScalar (double : Bool) (place : Place) : Reading :=
  quotedChars double (2 * place.rest.length + 2) [] (place.skip 1)

/-- The characters of a plain scalar that stand together. -/
def plainRun (inFlow : Bool) : List Char → List Char
  | [] => []
  | c :: rest =>
    let next := rest.headD endMark
    if isGapOrEnd c then []
    else if c == ':' && (isGapOrEnd next || (inFlow && ",[]\x7b\x7d".toList.contains next)) then []
    else if inFlow && ",?[]\x7b\x7d".toList.contains c then []
    else c :: plainRun inFlow rest

/-- The line breaks of blank lines inside a plain scalar, unless documents are separated there. -/
def plainBreaks : Nat → Place → Option (List Char) × Place
  | 0, place => (none, place)
  | fuel + 1, place =>
    let after := place.skipSpaces
    if isBreak after.char then
      let (lineBreak, next) := after.lineBreak
      if next.atSeparator then (none, next)
      else
        match plainBreaks fuel next with
        | (some more, last) => (some (lineBreak ++ more), last)
        | (none, last) => (none, last)
    else (some [], after)

/-- The blanks inside a plain scalar, whether a line ends there, and the place after them. Nothing
follows where there are no blanks. -/
def plainBlanks (place : Place) : List Char × Bool × Place :=
  let (spaces, after) := place.span (· == ' ')
  if isBreak after.char then
    let (lineBreak, next) := after.lineBreak
    if next.atSeparator then ([], true, next)
    else
      match plainBreaks (next.rest.length + 1) next with
      | (some breaks, last) => (foldBreaks lineBreak breaks, true, last)
      | (none, last) => ([], true, last)
  else (spaces, false, after)

/-- A plain scalar with the place after it, and whether a line has ended there. -/
structure PlainScalar where
  text : List Char
  place : Place
  lineEnded : Bool

/-- A plain scalar read on from a place, after what was read already, which is kept in reverse, and
the blanks after that. Outside flow collections the scalar ends at a lesser indentation. -/
def plainChars (inFlow : Bool) (indent : Int) :
    Nat → List Char → List Char → Bool → Place → PlainScalar
  | 0, read, _, lineEnded, place => ⟨read.reverse, place, lineEnded⟩
  | fuel + 1, read, blanks, lineEnded, place =>
    let run := if place.char = '#' then [] else plainRun inFlow place.rest
    if run.isEmpty then ⟨read.reverse, place, lineEnded⟩
    else
      let read := run.reverse ++ (blanks.reverse ++ read)
      let (blanks, lineEnded, next) := plainBlanks (place.skip run.length)
      if blanks.isEmpty || next.char = '#' || (!inFlow && (next.column : Int) < indent) then
        ⟨read.reverse, next, lineEnded⟩
      else plainChars inFlow indent fuel read blanks lineEnded next

/-- The plain scalar at a place. -/
def plainScalar (inFlow : Bool) (indent : Int) (place : Place) : PlainScalar :=
  plainChars inFlow indent (place.rest.length + 1) [] [] false place

/-- What is kept of the line breaks at the end of a block scalar. -/
inductive Chomping
  | strip
  | clip
  | keep
deriving DecidableEq, Repr

/-- The chomping that an indicator asks for. -/
def chomping? : Char → Option Chomping
  | '+' => some .keep
  | '-' => some .strip
  | _ => none

/-- An indentation from one to nine, none, or an error for zero. -/
def blockIncrement (place : Place) : Except Fault (Option Nat × Place) :=
  if place.char.isDigit then
    if place.char = '0' then .error .malformed
    else .ok (some (place.char.toNat - '0'.toNat), place.skip 1)
  else .ok (none, place)

/-- The indicators of a block scalar: chomping and indentation in either order. -/
def blockIndicators (place : Place) : Except Fault (Chomping × Option Nat × Place) :=
  match chomping? place.char with
  | some chomping =>
    match blockIncrement (place.skip 1) with
    | .ok (increment, after) => .ok (chomping, increment, after)
    | .error fault => .error fault
  | none =>
    match blockIncrement place with
    | .error fault => .error fault
    | .ok (none, after) => .ok (.clip, none, after)
    | .ok (some increment, after) =>
      match chomping? after.char with
      | some chomping => .ok (chomping, some increment, after.skip 1)
      | none => .ok (.clip, some increment, after)

/-- The header of a block scalar: its indicators, and perhaps a comment, up to the next line. -/
def blockHeader (place : Place) : Except Fault (Chomping × Option Nat × Place) :=
  match blockIndicators place with
  | .error fault => .error fault
  | .ok (chomping, increment, after) =>
    if !isSpaceOrEnd after.char then .error .malformed
    else
      let lineEnd := after.skipSpaces.skipComment
      if isBreakOrEnd lineEnd.char then .ok (chomping, increment, lineEnd.lineBreak.2)
      else .error .malformed

/-- The breaks of the blank lines at the start of a block scalar, and its greatest column. -/
def blockIndentation : Nat → Nat → Place → List Char × Nat × Place
  | 0, greatest, place => ([], greatest, place)
  | fuel + 1, greatest, place =>
    if place.char = ' ' then
      let next := place.skip 1
      blockIndentation fuel (max greatest next.column) next
    else if isBreak place.char then
      let (lineBreak, next) := place.lineBreak
      let (more, greatest, last) := blockIndentation fuel greatest next
      (lineBreak ++ more, greatest, last)
    else ([], greatest, place)

/-- The place after spaces up to a column. -/
def skipToColumn (column : Nat) (place : Place) : Place :=
  place.skip ((place.rest.takeWhile (· == ' ')).length.min (column - place.column))

/-- The breaks of blank lines inside a block scalar with an indentation. -/
def blockBreaks (indent : Nat) : Nat → Place → List Char × Place
  | 0, place => ([], place)
  | fuel + 1, place =>
    let after := skipToColumn indent place
    if isBreak after.char then
      let (lineBreak, next) := after.lineBreak
      let (more, last) := blockBreaks indent fuel next
      (lineBreak ++ more, last)
    else ([], after)

/-- The lines of a block scalar, each with the blank lines before it, after what was read already,
which is kept in reverse; the line break and the blank lines at its end; and the place after it. -/
def blockLines (folded : Bool) (indent : Nat) :
    Nat → List Char → List Char → Place → List Char × List Char × List Char × Place
  | 0, read, breaks, place => (read, [], breaks, place)
  | fuel + 1, read, breaks, place =>
    let solid := place.char ≠ ' ' ∧ place.char ≠ '\t'
    let (line, after) := place.span fun c => !isBreakOrEnd c
    let read := line.reverse ++ (breaks.reverse ++ read)
    let (lineBreak, next) := after.lineBreak
    let (breaks, last) := blockBreaks indent (next.rest.length + 1) next
    if last.column = indent && last.char ≠ endMark then
      let join :=
        if folded && lineBreak = ['\n'] && solid && last.char ≠ ' ' && last.char ≠ '\t' then
          if breaks.isEmpty then [' '] else []
        else lineBreak
      blockLines folded indent fuel (join.reverse ++ read) breaks last
    else (read, lineBreak, breaks, last)

/-- The block scalar whose indicator is at a place, inside a block of some indentation. -/
def blockScalar (folded : Bool) (outer : Int) (place : Place) : Reading :=
  match blockHeader (place.skip 1) with
  | .error fault => .error fault
  | .ok (chomping, increment, body) =>
    let least := (max (outer + 1) 1).toNat
    let fuel := body.rest.length + 1
    let (indent, breaks, first) :=
      match increment with
      | none =>
        let (breaks, greatest, first) := blockIndentation fuel 0 body
        (max least greatest, breaks, first)
      | some increment =>
        let indent := least + increment - 1
        let (breaks, first) := blockBreaks indent fuel body
        (indent, breaks, first)
    let (read, lineBreak, breaks, last) :=
      if first.column = indent && first.char ≠ endMark then
        blockLines folded indent fuel [] breaks first
      else ([], [], breaks, first)
    let ending :=
      match chomping with
      | .strip => []
      | .clip => lineBreak
      | .keep => lineBreak ++ breaks
    .ok (read.reverse ++ ending, last)

end BrowserScenario.Yaml
