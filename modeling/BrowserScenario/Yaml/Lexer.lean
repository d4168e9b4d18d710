import BrowserScenario.Text.Utf8
import BrowserScenario.Yaml.ScalarText

/-!
# The tokens of a text

A text is read token by token. Indentation opens and closes block collections. A key without a
question mark is recognised only at the colon after it, so the place where a key may have started
is remembered for every flow level, and the tokens for the key are put in there. Such a key ends
on the line where it starts and within a limited number of characters.
-/

namespace BrowserScenario.Yaml

open BrowserScenario.Text

/-- A place where a key may have started. A key is required where a block mapping goes on. -/
structure PossibleKey where
  tokenNumber : Nat
  required : Bool
  index : Nat
  line : Nat
  column : Nat
deriving Repr

/-- How far the reading of a text has come. -/
structure Lexer where
  place : Place
  flowLevel : Nat
  indent : Int
  outerIndents : List Int
  keyAllowed : Bool
  possibleKeys : List (Nat × PossibleKey)
  tokens : Array Token
deriving Repr

/-- The greatest number of characters from the start of a key to the colon after it. -/
def keyLimit : Nat := 1024

namespace Lexer

/-- The start of a text. -/
def start (text : List Char) : Lexer :=
  ⟨Place.start text, 0, -1, [], true, [], #[]⟩

/-- A step of reading. -/
abbrev Progress := Except Fault Lexer

/-- The lexer with a token added. -/
def push (lexer : Lexer) (token : Token) : Lexer :=
  { lexer with tokens := lexer.tokens.push token }

/-- The lexer with a token added for some characters at its place. -/
def pushIndicator (lexer : Lexer) (token : Token) (length : Nat) : Lexer :=
  { lexer with tokens := lexer.tokens.push token, place := lexer.place.skip length }

/-- The lexer with tokens put in before the token with a number. -/
def spliceTokens (lexer : Lexer) (number : Nat) (added : Array Token) : Lexer :=
  { lexer with
    tokens := lexer.tokens.extract 0 number ++ added ++ lexer.tokens.extract number }

/-- The possible key of the current flow level. -/
def possibleKey? (lexer : Lexer) : Option PossibleKey :=
  (lexer.possibleKeys.find? (·.1 == lexer.flowLevel)).map (·.2)

/-- The lexer without the possible key of the current flow level. -/
def forgetKey (lexer : Lexer) : Lexer :=
  { lexer with possibleKeys := lexer.possibleKeys.filter (·.1 != lexer.flowLevel) }

/-- The same, for a key that has to be given up; a required key may not be. -/
def dropKey (lexer : Lexer) : Progress :=
  match lexer.possibleKey? with
  | some key => if key.required then .error .malformed else .ok lexer.forgetKey
  | none => .ok lexer

/-- A key that is on an earlier line or too far back. -/
def isStale (place : Place) (key : PossibleKey) : Bool :=
  key.line != place.line || keyLimit < place.index - key.index

/-- The lexer without the keys that are no longer possible. -/
def dropStaleKeys (lexer : Lexer) : Progress :=
  if lexer.possibleKeys.any fun entry => isStale lexer.place entry.2 && entry.2.required then
    .error .malformed
  else
    .ok { lexer with
      possibleKeys := lexer.possibleKeys.filter fun entry => !isStale lexer.place entry.2 }

/-- The lexer with the coming token remembered as the possible start of a key. -/
def saveKey (lexer : Lexer) : Progress :=
  if lexer.keyAllowed then
    match lexer.dropKey with
    | .error fault => .error fault
    | .ok cleared =>
      let place := cleared.place
      let required := cleared.flowLevel == 0 && cleared.indent == (place.column : Int)
      let key : PossibleKey :=
        ⟨cleared.tokens.size, required, place.index, place.line, place.column⟩
      .ok { cleared with possibleKeys := (cleared.flowLevel, key) :: cleared.possibleKeys }
  else .ok lexer

/-- The lexer with the block collections closed that are indented further than a column. -/
def closeBlocks (lexer : Lexer) (column : Int) : List Int → Lexer
  | [] => lexer
  | outer :: more =>
    if column < lexer.indent then
      closeBlocks
        { lexer with
          indent := outer, outerIndents := more, tokens := lexer.tokens.push .blockEnd }
        column more
    else lexer

/-- The same, unless indentation is ignored inside a flow collection. -/
def unwind (lexer : Lexer) (column : Int) : Lexer :=
  if lexer.flowLevel = 0 then lexer.closeBlocks column lexer.outerIndents else lexer

/-- Whether a column is indented further than the block, and the lexer with that indentation. -/
def indentTo (lexer : Lexer) (column : Nat) : Bool × Lexer :=
  if lexer.indent < (column : Int) then
    (true,
      { lexer with indent := column, outerIndents := lexer.indent :: lexer.outerIndents })
  else (false, lexer)

/-- The lexer at the next token, after blanks, comments and line ends. -/
def skipToToken : Nat → Lexer → Lexer
  | 0, lexer => lexer
  | fuel + 1, lexer =>
    let place := lexer.place.skipSpaces.skipComment
    if isBreak place.char then
      let allowed := lexer.keyAllowed || lexer.flowLevel == 0
      skipToToken fuel { lexer with place := place.lineBreak.2, keyAllowed := allowed }
    else { lexer with place := place }

/-- The lexer after a byte order mark at the very start. -/
def skipByteOrderMark (lexer : Lexer) : Lexer :=
  if lexer.place.index = 0 && lexer.place.char = '\uFEFF' then
    { lexer with place := lexer.place.skip 1 }
  else lexer

/-- The bytes of escapes by percent signs at a place, and the place after them. -/
def percentBytes : Nat → Place → Except Fault (List UInt8 × Place)
  | 0, place => .ok ([], place)
  | fuel + 1, place =>
    if place.char = '%' then
      let digits := (place.rest.drop 1).take 2
      if digits.length < 2 || !digits.all isHexDigit then .error .malformed
      else
        match percentBytes fuel (place.skip 3) with
        | .ok (more, after) => .ok (UInt8.ofNat (hexValue digits) :: more, after)
        | .error fault => .error fault
    else .ok ([], place)

/-- The characters of a tag at a place, after those read already, which are kept in reverse. -/
def tagChars : Nat → List Char → Place → Reading
  | 0, read, place => .ok (read.reverse, place)
  | fuel + 1, read, place =>
    let (run, after) := place.span isTagChar
    let read := run.reverse ++ read
    if after.char = '%' then
      match percentBytes (after.rest.length + 1) after with
      | .error fault => .error fault
      | .ok (bytes, next) =>
        match decodeUtf8 bytes with
        | .ok chars => tagChars fuel (chars.reverse ++ read) next
        | .error _ => .error .malformed
    else .ok (read.reverse, after)

/-- The characters of a tag at a place, at least one piece of them. -/
def tagText (place : Place) : Reading :=
  if isTagChar place.char || place.char == '%' then
    tagChars (place.rest.length + 1) [] place
  else .error .malformed

/-- The handle of a tag at a place: an exclamation mark, or a name between two of them. -/
def tagHandle (place : Place) : Reading :=
  if place.char != '!' then .error .malformed
  else if place.peek 1 == ' ' then .ok (['!'], place.skip 1)
  else
    let (name, after) := (place.skip 1).span isNameChar
    if after.char == '!' then .ok ('!' :: name ++ ['!'], after.skip 1)
    else .error .malformed

/-- A whole number of a version at a place. -/
def versionNumber (place : Place) : Except Fault (Nat × Place) :=
  let (digits, after) := place.span Char.isDigit
  if digits.isEmpty then .error .malformed
  else if Number.digitLimit < digits.length then .error (.tooManyDigits ⟨digits.length⟩)
  else .ok (Number.digitsValue 10 digits, after)

/-- The version at a place, of which the first number counts. -/
def versionDirective (place : Place) : Except Fault (Directive × Place) :=
  match versionNumber place.skipSpaces with
  | .error fault => .error fault
  | .ok (major, after) =>
    if after.char != '.' then .error .malformed
    else
      match versionNumber (after.skip 1) with
      | .error fault => .error fault
      | .ok (_, last) =>
        if isSpaceOrEnd last.char then .ok (.version major, last) else .error .malformed

/-- The handle with what it stands for at a place. -/
def handleDirective (place : Place) : Except Fault (Directive × Place) :=
  match tagHandle place.skipSpaces with
  | .error fault => .error fault
  | .ok (name, after) =>
    if after.char != ' ' then .error .malformed
    else
      match tagText after.skipSpaces with
      | .error fault => .error fault
      | .ok (text, last) =>
        if isSpaceOrEnd last.char then .ok (.handle name text, last) else .error .malformed

/-- The directive whose percent sign is at a place, up to the next line. -/
def directiveToken (place : Place) : Except Fault (Directive × Place) :=
  let (name, after) := (place.skip 1).span isNameChar
  if name.isEmpty || !isSpaceOrEnd after.char then .error .malformed
  else
    let found :=
      if name = "YAML".toList then versionDirective after
      else if name = "TAG".toList then handleDirective after
      else .ok (.reserved, (after.span fun c => !isBreakOrEnd c).2)
    match found with
    | .error fault => .error fault
    | .ok (directive, last) =>
      let lineEnd := last.skipSpaces.skipComment
      if isBreakOrEnd lineEnd.char then .ok (directive, lineEnd.lineBreak.2)
      else .error .malformed

/-- The name of an anchor or alias whose indicator is at a place. -/
def anchorName (place : Place) : Reading :=
  let (name, after) := (place.skip 1).span isNameChar
  if name.isEmpty then .error .malformed
  else if isGapOrEnd after.char || "?:,]\x7d%@\x60".toList.contains after.char then
    .ok (name, after)
  else .error .malformed

/-- The tag whose exclamation mark is at a place. -/
def tagToken (place : Place) : Except Fault (Token × Place) :=
  let next := place.peek 1
  let found : Except Fault (Token × Place) :=
    if next == '<' then
      match tagText (place.skip 2) with
      | .error fault => .error fault
      | .ok (text, after) =>
        if after.char == '>' then .ok (.tag none text, after.skip 1) else .error .malformed
    else if isGapOrEnd next then .ok (.tag none ['!'], place.skip 1)
    else
      let word := (place.rest.drop 1).takeWhile fun c => !isSpaceOrEnd c
      let handle := if word.contains '!' then tagHandle place else .ok (['!'], place.skip 1)
      match handle with
      | .error fault => .error fault
      | .ok (name, after) =>
        match tagText after with
        | .error fault => .error fault
        | .ok (text, last) => .ok (.tag (some name) text, last)
  match found with
  | .error fault => .error fault
  | .ok (token, after) =>
    if isSpaceOrEnd after.char then .ok (token, after) else .error .malformed

/-- The end of the text: blocks are closed and a key can no longer come. -/
def readEnd (lexer : Lexer) : Progress :=
  match (lexer.unwind (-1)).dropKey with
  | .error fault => .error fault
  | .ok ended => .ok { ended.push .streamEnd with keyAllowed := false, possibleKeys := [] }

/-- A directive. -/
def readDirective (lexer : Lexer) : Progress :=
  match (lexer.unwind (-1)).dropKey with
  | .error fault => .error fault
  | .ok ready =>
    match directiveToken ready.place with
    | .error fault => .error fault
    | .ok (directive, after) =>
      .ok { ready.push (.directive directive) with keyAllowed := false, place := after }

/-- A line that starts or ends a document. -/
def readSeparator (lexer : Lexer) (token : Token) : Progress :=
  match (lexer.unwind (-1)).dropKey with
  | .error fault => .error fault
  | .ok ready => .ok { ready.pushIndicator token 3 with keyAllowed := false }

/-- The start of a flow collection, which may be a key. -/
def readFlowStart (lexer : Lexer) (token : Token) : Progress :=
  match lexer.saveKey with
  | .error fault => .error fault
  | .ok ready =>
    .ok { ready.pushIndicator token 1 with flowLevel := ready.flowLevel + 1, keyAllowed := true }

/-- The end of a flow collection. -/
def readFlowEnd (lexer : Lexer) (token : Token) : Progress :=
  match lexer.dropKey with
  | .error fault => .error fault
  | .ok ready =>
    .ok { ready.pushIndicator token 1 with flowLevel := ready.flowLevel - 1, keyAllowed := false }

/-- A comma between the members of a flow collection. -/
def readFlowEntry (lexer : Lexer) : Progress :=
  match lexer.dropKey with
  | .error fault => .error fault
  | .ok ready => .ok { ready.pushIndicator .flowEntry 1 with keyAllowed := true }

/-- The lexer with a block collection opened at its column, where that is indented further. -/
def openBlock (lexer : Lexer) (token : Token) : Progress :=
  if lexer.flowLevel = 0 then
    if lexer.keyAllowed then
      let (deeper, indented) := lexer.indentTo lexer.place.column
      .ok (if deeper then indented.push token else indented)
    else .error .malformed
  else .ok lexer

/-- A hyphen in front of a member of a block sequence. -/
def readBlockEntry (lexer : Lexer) : Progress :=
  match lexer.openBlock .blockSequenceStart with
  | .error fault => .error fault
  | .ok opened =>
    match opened.dropKey with
    | .error fault => .error fault
    | .ok ready => .ok { ready.pushIndicator .blockEntry 1 with keyAllowed := true }

/-- A question mark in front of a key. -/
def readKey (lexer : Lexer) : Progress :=
  match lexer.openBlock .blockMappingStart with
  | .error fault => .error fault
  | .ok opened =>
    match opened.dropKey with
    | .error fault => .error fault
    | .ok ready => .ok { ready.pushIndicator .key 1 with keyAllowed := ready.flowLevel == 0 }

/-- A colon in front of a value. The possible key before it turns out to be one. -/
def readValue (lexer : Lexer) : Progress :=
  match lexer.possibleKey? with
  | some key =>
    let (deeper, indented) :=
      if lexer.flowLevel = 0 then lexer.forgetKey.indentTo key.column
      else (false, lexer.forgetKey)
    let added := if deeper then #[.blockMappingStart, .key] else #[.key]
    .ok { (indented.spliceTokens key.tokenNumber added).pushIndicator .value 1 with
      keyAllowed := false }
  | none =>
    match lexer.openBlock .blockMappingStart with
    | .error fault => .error fault
    | .ok opened =>
      match opened.dropKey with
      | .error fault => .error fault
      | .ok ready => .ok { ready.pushIndicator .value 1 with keyAllowed := ready.flowLevel == 0 }

/-- An anchor or an alias, which may be a key. -/
def readAnchor (lexer : Lexer) (token : List Char → Token) : Progress :=
  match lexer.saveKey with
  | .error fault => .error fault
  | .ok ready =>
    match anchorName ready.place with
    | .error fault => .error fault
    | .ok (name, after) => .ok { ready.push (token name) with keyAllowed := false, place := after }

/-- A tag, which may be in front of a key. -/
def readTag (lexer : Lexer) : Progress :=
  match lexer.saveKey with
  | .error fault => .error fault
  | .ok ready =>
    match tagToken ready.place with
    | .error fault => .error fault
    | .ok (token, after) => .ok { ready.push token with keyAllowed := false, place := after }

/-- A block scalar. -/
def readBlockScalar (lexer : Lexer) (folded : Bool) : Progress :=
  match lexer.dropKey with
  | .error fault => .error fault
  | .ok ready =>
    match blockScalar folded ready.indent ready.place with
    | .error fault => .error fault
    | .ok (text, after) =>
      .ok { ready.push (.scalar text false) with keyAllowed := true, place := after }

/-- A quoted scalar, which may be a key. -/
def readQuoted (lexer : Lexer) (double : Bool) : Progress :=
  match lexer.saveKey with
  | .error fault => .error fault
  | .ok ready =>
    match quotedScalar double ready.place with
    | .error fault => .error fault
    | .ok (text, after) =>
      .ok { ready.push (.scalar text false) with keyAllowed := false, place := after }

/-- A plain scalar, which may be a key. -/
def readPlain (lexer : Lexer) : Progress :=
  match lexer.saveKey with
  | .error fault => .error fault
  | .ok ready =>
    let found := plainScalar (ready.flowLevel != 0) (ready.indent + 1) ready.place
    .ok { ready.push (.scalar found.text true) with
      keyAllowed := found.lineEnded, place := found.place }

/-- Whether a plain scalar may start with a character, given the one after it. -/
def startsPlain (inFlow : Bool) (c next : Char) : Bool :=
  !(isGapOrEnd c || "-?:,[]\x7b\x7d#&*!|>'\"%@\x60".toList.contains c)
    || (!isGapOrEnd next && (c == '-' || (!inFlow && (c == '?' || c == ':'))))

/-- Whether three characters and a gap are at the start of a line. -/
def atLineStart (place : Place) (mark : Char) : Bool :=
  place.column == 0 && place.rest.take 3 == [mark, mark, mark] && isGapOrEnd (place.peek 3)

/-- The token at the place of a lexer. -/
def readToken (lexer : Lexer) : Progress :=
  let place := lexer.place
  let c := place.char
  let inFlow := lexer.flowLevel != 0
  let gapNext := isGapOrEnd (place.peek 1)
  if c == endMark then lexer.readEnd
  else if c == '%' && place.column == 0 then lexer.readDirective
  else if atLineStart place '-' then lexer.readSeparator .documentStart
  else if atLineStart place '.' then lexer.readSeparator .documentEnd
  else if c == '[' then lexer.readFlowStart .flowSequenceStart
  else if c == '\x7b' then lexer.readFlowStart .flowMappingStart
  else if c == ']' then lexer.readFlowEnd .flowSequenceEnd
  else if c == '\x7d' then lexer.readFlowEnd .flowMappingEnd
  else if c == ',' then lexer.readFlowEntry
  else if c == '-' && gapNext then lexer.readBlockEntry
  else if c == '?' && (inFlow || gapNext) then lexer.readKey
  else if c == ':' && (inFlow || gapNext) then lexer.readValue
  else if c == '*' then lexer.readAnchor .alias
  else if c == '&' then lexer.readAnchor .anchor
  else if c == '!' then lexer.readTag
  else if c == '|' && !inFlow then lexer.readBlockScalar false
  else if c == '>' && !inFlow then lexer.readBlockScalar true
  else if c == '\'' then lexer.readQuoted false
  else if c == '"' then lexer.readQuoted true
  else if startsPlain inFlow c (place.peek 1) then lexer.readPlain
  else .error .malformed

/-- The next token, with the tokens that indentation and keys add. -/
def step (lexer : Lexer) : Progress :=
  let skipped := skipToToken (lexer.place.rest.length + 1) lexer.skipByteOrderMark
  match skipped.dropStaleKeys with
  | .error fault => .error fault
  | .ok fresh => (fresh.unwind fresh.place.column).readToken

/-- The tokens up to the end of the text, or up to where it stops being readable. -/
def run : Nat → Lexer → Array Token
  | 0, lexer => lexer.tokens
  | fuel + 1, lexer =>
    if lexer.tokens.back? == some .streamEnd then lexer.tokens
    else
      match lexer.step with
      | .error fault => lexer.tokens.push (.broken fault)
      | .ok next => run fuel next

end Lexer

/-- The tokens of a text. -/
def tokensOf (text : List Char) : List Token :=
  if text.all isAllowed then
    (Lexer.run (text.length + 2) (Lexer.start text)).toList
  else [.broken .malformed]

end BrowserScenario.Yaml
