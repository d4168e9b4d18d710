import BrowserScenario.Pattern.Fault
import BrowserScenario.Text.Alphanumeric
import BrowserScenario.Text.CharacterName

/-!
# Reading patterns

A pattern is read from left to right, one character or one backslash with the character after it
at a time. The reader keeps the names and widths of the groups that were closed, because a
reference is only possible to such a group. After the end it checks what can only be known then:
the switches for alphabets, the numbers of groups that conditions refer to, and the widths of
looks behind.
-/

namespace BrowserScenario.Pattern

open BrowserScenario.Number BrowserScenario.Text

/-- How far the reading of a pattern has come: the characters that are left, the number of those
before, the switches for the whole pattern, the names of groups, the widths of groups in order of
their numbers, the number of groups before the outermost look behind that is open, and the numbers
that conditions refer to with their places, the latest first. The names of characters stay the same
all along. -/
structure Reader where
  rest : List Char
  position : Nat
  switches : Switches
  names : List (String × Nat)
  widths : List (Option Width)
  behindGroups : Option Nat
  conditions : List (Nat × Nat)
  characterNames : CharacterNames

/-- A step of reading. -/
abbrev Read := StateT Reader (Except Error)

namespace Read

/-- The unit of reading at the start of some characters: none at the end. -/
def unitOf : List Char → List Char
  | '\\' :: c :: _ => ['\\', c]
  | c :: _ => [c]
  | [] => []

/-- The next unit, empty at the end. -/
def peek : Read (List Char) := do
  return unitOf (← get).rest

/-- The number of characters before the next unit. -/
def position : Read Nat := do
  return (← get).position

/-- A fault at a number of characters before the next unit. -/
def fail {α : Type} (fault : Fault) (back : Nat) : Read α := do
  throw (.at fault ((← position) - back))

/-- A fault at a position. -/
def failAt {α : Type} (fault : Fault) (position : Nat) : Read α :=
  throw (.at fault position)

/-- A fault if nothing is left but a backslash, which would escape nothing. -/
def checkEscape (rest : List Char) (position : Nat) : Read Unit :=
  if rest = ['\\'] then throw (.at .escapeAtEnd position) else pure ()

/-- The next unit, which is then behind. -/
def take : Read (List Char) := do
  let reader ← get
  let unit := unitOf reader.rest
  let rest := reader.rest.drop unit.length
  let position := reader.position + unit.length
  checkEscape rest position
  set { reader with rest := rest, position := position }
  return unit

/-- Whether the next unit is a character, which is then behind. -/
def accept (c : Char) : Read Bool := do
  if (← peek) = [c] then
    let _ ← take
    return true
  else return false

/-- Characters of a class, at most a number of them. -/
def takeWhile (member : Char → Bool) : Nat → Read (List Char)
  | 0 => return []
  | count + 1 => do
    match ← peek with
    | [c] =>
      if member c then
        let _ ← take
        return c :: (← takeWhile member count)
      else return []
    | _ => return []

/-- The text up to a character, after what was read already. -/
def takeUntil (stop : Char) (what : String) : Nat → List Char → Read (List Char)
  | 0, _ => fail (.missingName what) 0
  | fuel + 1, read => do
    let unit ← take
    if unit.isEmpty then
      if read.isEmpty then fail (.missingName what) 0
      else fail (.unterminatedName stop) read.length
    else if unit = [stop] then
      if read.isEmpty then fail (.missingName what) 1 else return read
    else takeUntil stop what fuel (read ++ unit)

/-- The number of steps that cannot be exceeded by reading what is left. -/
def fuel : Read Nat := do
  return (← get).rest.length + 1

/-- A hexadecimal digit. -/
def isHex (c : Char) : Bool :=
  (baseDigit? 16 c).isSome && c.val < 128

/-- An octal digit. -/
def isOctal (c : Char) : Bool :=
  '0' ≤ c && c ≤ '7'

/-- The value of digits in a base. -/
def valueIn (base : Nat) (digits : List Char) : Nat :=
  digits.foldl (fun value c => value * base + (baseDigit? base c).getD 0) 0

/-- A fault about an escape, at its start. -/
def failEscape {α : Type} (fault : String → Fault) (escape : List Char) : Read α :=
  fail (fault (String.ofList escape)) escape.length

/-- The code of an escape by a number of hexadecimal digits. -/
def hexEscape (escape : List Char) (count : Nat) : Read Nat := do
  let digits ← takeWhile isHex count
  let escape := escape ++ digits
  if digits.length < count then failEscape .incompleteEscape escape
  else
    let code := valueIn 16 digits
    if 0x80000000 ≤ code then throw .largeCode
    else if 0x110000 ≤ code then failEscape .badEscape escape
    else return code

/-- The code of an escape by the name of a character. -/
def nameEscape : Read Nat := do
  if ← accept '\x7b' then
    let name ← takeUntil '\x7d' "character name" (← fuel) []
    match (← get).characterNames.code? name with
    | some code => return code
    | none => fail (.undefinedCharacter (String.ofList name)) (name.length + 4)
  else fail .missingBrace 0

/-- The code of an escape that stands for one character wherever it is written. -/
def plainEscape? : Char → Option Nat
  | 'a' => some 7
  | 'f' => some 12
  | 'n' => some 10
  | 'r' => some 13
  | 't' => some 9
  | 'v' => some 11
  | '\\' => some 92
  | _ => none

/-- The class that an escape stands for, and whether it is the complement. -/
def categoryEscape? : Char → Option (Category × Bool)
  | 'd' => some (.digit, false)
  | 'D' => some (.digit, true)
  | 's' => some (.space, false)
  | 'S' => some (.space, true)
  | 'w' => some (.word, false)
  | 'W' => some (.word, true)
  | _ => none

/-- The condition that an escape stands for. -/
def anchorEscape? : Char → Option Anchor
  | 'A' => some .textStart
  | 'Z' => some .textEnd
  | 'b' => some .boundary
  | 'B' => some .noBoundary
  | _ => none

/-- The code of an escape by code or name, if its letter is that of one. -/
def codeEscape? (c : Char) : Option (Read Nat) :=
  match c with
  | 'x' => some (hexEscape ['\\', c] 2)
  | 'u' => some (hexEscape ['\\', c] 4)
  | 'U' => some (hexEscape ['\\', c] 8)
  | 'N' => some nameEscape
  | _ => none

/-- The code of an escape of up to three octal digits, of which the first is read. -/
def octalEscape (c : Char) : Read Nat := do
  let escape := ['\\', c] ++ (← takeWhile isOctal 2)
  let code := valueIn 8 (escape.drop 1)
  if 0o377 < code then failEscape .octalRange escape else return code

/-- A character that a backslash leaves as it is. -/
def literalEscape (c : Char) : Read Nat :=
  if c.isAlpha then failEscape .badEscape ['\\', c] else return c.toNat

/-- The item of a class that an escape stands for. -/
def classEscape (c : Char) : Read ClassItem := do
  match plainEscape? c, categoryEscape? c, codeEscape? c with
  | some code, _, _ => return .code code
  | _, some (category, complement), _ => return .category category complement
  | _, _, some read => return .code (← read)
  | none, none, none =>
    if c = 'b' then return .code 8
    else if isOctal c then return .code (← octalEscape c)
    else if c.isDigit then failEscape .badEscape ['\\', c]
    else return .code (← literalEscape c)

/-- The width of a group that is closed. -/
def closedWidth? (number : Nat) : Read (Option Width) := do
  if number = 0 then return none
  else return ((← get).widths[number - 1]?).join

/-- A fault if a group inside an open look behind is referred to in it. -/
def checkLookBehind (number : Nat) : Read Unit := do
  match (← get).behindGroups with
  | none => pure ()
  | some before =>
    if (← closedWidth? number).isNone then fail .openGroup 0
    else if before ≤ number then fail .lookBehindGroup 0
    else pure ()

/-- A reference to a group by its number, or an octal escape of three digits, of which the first is
read. -/
def numberEscape (c : Char) : Read Node := do
  let second ← takeWhile Char.isDigit 1
  let third ←
    if second.any isOctal && isOctal c then takeWhile isOctal 1 else pure []
  let escape := '\\' :: c :: second ++ third
  if third.length = 1 then
    let code := valueIn 8 (escape.drop 1)
    if 0o377 < code then failEscape .octalRange escape else return .char code
  else
    let number := valueIn 10 (escape.drop 1)
    if number ≤ (← get).widths.length then
      if (← closedWidth? number).isNone then fail .openGroup escape.length
      else
        checkLookBehind number
        return .backref number
    else fail (.invalidGroup number) (escape.length - 1)

/-- The pattern that an escape stands for. -/
def escape (c : Char) : Read Node := do
  match categoryEscape? c, anchorEscape? c, plainEscape? c, codeEscape? c with
  | some (category, complement), _, _, _ => return .cls false [.category category complement]
  | _, some anchor, _, _ => return .anchor anchor
  | _, _, some code, _ => return .char code
  | _, _, _, some read => return .char (← read)
  | none, none, none, none =>
    if c = '0' then
      return .char (valueIn 8 (← takeWhile isOctal 2))
    else if c.isDigit then numberEscape c
    else return .char (← literalEscape c)

/-- The item of a class that a unit stands for. -/
def classUnit : List Char → Read ClassItem
  | ['\\', c] => classEscape c
  | [c] => return .code c.toNat
  | _ => return .code 0

/-- The range between two items, given how they are written. -/
def classRange (first second : ClassItem) (this that : List Char) : Read ClassItem :=
  let wrong : Read ClassItem :=
    fail (.badRange (String.ofList this) (String.ofList that)) (this.length + 1 + that.length)
  match first, second with
  | .code low, .code high => if high < low then wrong else return .range low high
  | _, _ => wrong

/-- The items of a class up to its closing bracket, after those read already, which are kept in
reverse; the class was opened at a position. -/
def classItems (opened : Nat) : Nat → List ClassItem → Read (List ClassItem)
  | 0, _ => failAt .unterminatedSet opened
  | fuel + 1, read => do
    let this ← take
    if this.isEmpty then failAt .unterminatedSet opened
    else if this = [']'] && !read.isEmpty then return read.reverse
    else
      let first ← classUnit this
      if ← accept '-' then
        let that ← take
        if that.isEmpty then failAt .unterminatedSet opened
        else if that = [']'] then return (.code 45 :: first :: read).reverse
        else
          let second ← classUnit that
          classItems opened fuel ((← classRange first second this that) :: read)
      else classItems opened fuel (first :: read)

/-- A class whose opening bracket is read. -/
def charClass : Read Node := do
  let opened := (← position) - 1
  let complement ← accept '^'
  return .cls complement (← classItems opened (← fuel) [])

/-- The bounds of a repetition, or none where a brace stands for itself. -/
inductive Bounds
  | literal
  | between (least : Nat) (most : Option Nat)

/-- A number of repetitions. -/
def repeatCount (digits : List Char) : Read Nat :=
  if digitLimit < digits.length then throw (.tooManyDigits ⟨digits.length⟩)
  else
    let count := valueIn 10 digits
    if repeatLimit ≤ count then throw .largeRepeat else return count

/-- The bounds in braces after the opening brace. -/
def bracedBounds : Read Bounds := do
  let opened ← get
  if (← peek) = ['\x7d'] then return .literal
  let low ← takeWhile Char.isDigit (← fuel)
  let comma ← accept ','
  let high ← if comma then takeWhile Char.isDigit (← fuel) else pure low
  if ← accept '\x7d' then
    let least ← if low.isEmpty then pure 0 else repeatCount low
    if high.isEmpty then return .between least none
    else
      let most ← repeatCount high
      if most < least then failAt .crossedBounds opened.position
      else return .between least (some most)
  else
    set opened
    return .literal

/-- The bounds that the mark of a repetition stands for. -/
def bounds : Char → Read Bounds
  | '?' => return .between 0 (some 1)
  | '*' => return .between 0 none
  | '+' => return .between 1 none
  | _ => bracedBounds

/-- The repetition of a pattern, whose mark is at a position. -/
def repetition (marked : Nat) (least : Nat) (most : Option Nat) (body : Node) : Read Node := do
  match body with
  | .anchor _ => failAt .nothingToRepeat marked
  | .rep .. => failAt .multipleRepeat marked
  | _ =>
    if ← accept '?' then return .rep .lazy least most body
    else if ← accept '+' then return .rep .possessive least most body
    else return .rep .greedy least most body

/-- A character that may start a name. -/
def startsName (c : Char) : Bool :=
  c == '_' || (isAlphanumeric c && !isDecimal c)

/-- A text that may name a group. -/
def isName : List Char → Bool
  | [] => false
  | c :: rest => startsName c && rest.all isWordChar

/-- A fault if a text may not name a group. -/
def checkName (name : List Char) : Read Unit :=
  if isName name then pure () else fail (.badGroupName (String.ofList name)) (name.length + 1)

/-- A comment up to its closing parenthesis. -/
def comment (opened : Nat) : Nat → Read Unit
  | 0 => failAt .unterminatedComment opened
  | fuel + 1 => do
    if (← peek).isEmpty then failAt .unterminatedComment opened
    else if (← take) = [')'] then pure ()
    else comment opened fuel

/-- The rest of a line. -/
def lineComment : Nat → Read Unit
  | 0 => pure ()
  | fuel + 1 => do
    let unit ← take
    if unit.isEmpty || unit = ['\n'] then pure () else lineComment fuel

/-- The switch that a letter stands for. -/
def switch? : List Char → Option Switches
  | ['i'] => some { Switches.none with ignoreCase := true }
  | ['m'] => some { Switches.none with multiline := true }
  | ['s'] => some { Switches.none with dotAll := true }
  | ['x'] => some { Switches.none with verbose := true }
  | ['a'] => some { Switches.none with ascii := true }
  | ['u'] => some { Switches.none with unicode := true }
  | ['t'] => some { Switches.none with template := true }
  | _ => none

/-- Whether a unit is a letter. -/
def isLetterUnit : List Char → Bool
  | [c] => isAlphanumeric c && !isDecimal c
  | _ => false

/-- The switches that are turned on from a unit on, and the unit after them. -/
def switchesOn : Nat → Switches → List Char → Read (Switches × List Char)
  | 0, _, _ => fail .missingSwitchEnd 0
  | fuel + 1, on, unit => do
    if unit = ['L'] then fail .localeSwitch 0
    else
      match switch? unit with
      | none =>
        if unit.isEmpty then fail .missingSwitchEnd 0
        else fail (if isLetterUnit unit then .unknownSwitch else .missingSwitchEnd) unit.length
      | some added =>
        let on := on.union added
        if added.hasAlphabet && on.ascii && on.unicode then fail .alphabetClash 0
        else
          let next ← take
          if next = [')'] || next = ['-'] || next = [':'] then return (on, next)
          else switchesOn fuel on next

/-- The switches that are turned off from a unit on. -/
def switchesOff : Nat → Switches → Fault → List Char → Read Switches
  | 0, _, missing, _ => fail missing 0
  | fuel + 1, off, missing, unit => do
    if unit.isEmpty then fail missing 0
    else if unit = ['L'] then fail .alphabetOff 0
    else
      match switch? unit with
      | none => fail (if isLetterUnit unit then .unknownSwitch else missing) unit.length
      | some added =>
        if added.hasAlphabet then fail .alphabetOff 0
        else
          let off := off.union added
          let next ← take
          if next = [':'] then return off
          else switchesOff fuel off .missingColon next

/-- The switches of a group, on and off; none for switches of the whole pattern, which are then
on. -/
def switches (unit : List Char) : Read (Option (Switches × Switches)) := do
  let (on, next) ←
    if unit = ['-'] then pure (Switches.none, unit)
    else switchesOn (← fuel) Switches.none unit
  if next = [')'] then
    modify fun reader => { reader with switches := reader.switches.union on }
    return none
  else if on.template then fail .globalOn 1
  else
    let off ←
      if next = ['-'] then switchesOff (← fuel) Switches.none .missingSwitch (← take)
      else pure Switches.none
    if off.template then fail .globalOff 1
    else if (on.without off) != on then fail .onAndOff 1
    else return some (on, off)

/-- What the start of a group says about it. -/
inductive GroupStart
  | remembering (name : Option (List Char))
  | plain (on off : Switches)
  | atomic
  | ahead (negative : Bool)
  | behind (negative : Bool)
  | reference (number : Nat)
  | condition (number : Nat)
  | comment
  | switches

/-- A group that is referred to by its name. -/
def namedReference : Read GroupStart := do
  let name ← takeUntil ')' "group name" (← fuel) []
  checkName name
  match (← get).names.lookup (String.ofList name) with
  | none => fail (.unknownGroup (String.ofList name)) (name.length + 1)
  | some number =>
    if (← closedWidth? number).isNone then fail .openGroup (name.length + 1)
    else
      checkLookBehind number
      return .reference number

/-- The least number that no group can have. -/
def groupLimit : Nat := 1073741823

/-- The number that a text stands for in a condition. -/
def conditionNumber? (name : List Char) : Except IntegerFault Int :=
  let text := trimBy isWhiteSpace name
  let (sign, digits) :=
    match text with
    | '+' :: rest => (['+'], rest)
    | '-' :: rest => (['-'], rest)
    | rest => ([], rest)
  let digits := (withoutUnderscores? digits).getD digits
  wholeNumber 10 (sign ++ digits)

/-- The group that a condition asks about. -/
def conditionStart : Read GroupStart := do
  let name ← takeUntil ')' "group name" (← fuel) []
  let text := String.ofList name
  let number ←
    if isName name then
      match (← get).names.lookup text with
      | some number => pure number
      | none => fail (.unknownGroup text) (name.length + 1)
    else
      match conditionNumber? name with
      | .error (.tooManyDigits _) => fail (.badGroupName text) (name.length + 1)
      | .error .malformed => fail (.badGroupName text) (name.length + 1)
      | .ok number =>
        if number < 0 then fail (.badGroupName text) (name.length + 1)
        else if number = 0 then fail .badGroupNumber (name.length + 1)
        else if groupLimit ≤ number.toNat then
          fail (.invalidGroup number.toNat) (name.length + 1)
        else
          let place := (← position) - name.length - 1
          let reader ← get
          if (reader.conditions.lookup number.toNat).isNone then
            set { reader with conditions := (number.toNat, place) :: reader.conditions }
          pure number.toNat
  checkLookBehind number
  return .condition number

/-- The start of a group after its parenthesis, which is at a position. -/
def groupStart (opened : Nat) : Read GroupStart := do
  if !(← accept '?') then return .remembering none
  let unit ← take
  match unit with
  | [] => fail .unexpectedEnd 0
  | ['P'] =>
    if ← accept '<' then
      let name ← takeUntil '>' "group name" (← fuel) []
      checkName name
      return .remembering (some name)
    else if ← accept '=' then namedReference
    else
      let next ← take
      if next.isEmpty then fail .unexpectedEnd 0
      else fail (.unknownExtension (String.ofList ('?' :: 'P' :: next))) (next.length + 2)
  | [':'] => return .plain .none .none
  | ['#'] =>
    comment opened (← fuel)
    return .comment
  | ['='] => return .ahead false
  | ['!'] => return .ahead true
  | ['<'] =>
    match ← take with
    | [] => fail .unexpectedEnd 0
    | ['='] => return .behind false
    | ['!'] => return .behind true
    | next => fail (.unknownExtension (String.ofList ('?' :: '<' :: next))) (next.length + 2)
  | ['('] => conditionStart
  | ['>'] => return .atomic
  | _ =>
    if (switch? unit).isSome || unit = ['-'] || unit = ['L'] then
      match ← switches unit with
      | none => return .switches
      | some (on, off) => return .plain on off
    else fail (.unknownExtension (String.ofList ('?' :: unit))) (unit.length + 1)

/-- A new group that remembers, with its number. -/
def openGroup (name : Option (List Char)) : Read Nat := do
  let reader ← get
  let number := reader.widths.length + 1
  match name with
  | none => pure ()
  | some chars =>
    match reader.names.lookup (String.ofList chars) with
    | some earlier =>
      fail (.redefinedGroup (String.ofList chars) number earlier) (chars.length + 1)
    | none => pure ()
  let names :=
    match name with
    | none => reader.names
    | some chars => (String.ofList chars, number) :: reader.names
  set { reader with widths := reader.widths ++ [none], names := names }
  return number

/-- The width of the group with a number, zero for a group that is not closed. -/
def groupWidth (widths : List (Option Width)) (number : Nat) : Width :=
  ((widths[number - 1]?).join).getD .zero

/-- A group that remembers, now closed. -/
def closeGroup (number : Nat) (body : Node) : Read Unit :=
  modify fun reader =>
    { reader with
      widths := reader.widths.set (number - 1) (some (body.width (groupWidth reader.widths))) }

/-- The closing parenthesis of a group that was opened at a position. -/
def closing (opened : Nat) : Read Unit := do
  if ← accept ')' then pure () else failAt .unterminatedGroup opened

/-- A blank that is skipped where blanks are not significant. -/
def isSkipped (c : Char) : Bool :=
  c == ' ' || c == '\t' || c == '\n' || c == '\r' || c == '\x0b' || c == '\x0c'

/-- A group read: nothing, switches of the whole pattern, or a pattern. -/
inductive GroupItem
  | nothing
  | switched
  | node (node : Node)

mutual

/-- Alternatives, at the top of the pattern or inside a group. -/
def alternatives (top verbose : Bool) : Nat → Bool → Read (List Node)
  | 0, _ => fail .unterminatedGroup 0
  | fuel + 1, first => do
    let nodes ← items verbose (top && first) fuel []
    let node := Node.ofList nodes.reverse
    if ← accept '|' then
      let reader ← get
      let verbose := if top then reader.switches.verbose else verbose
      return node :: (← alternatives top verbose fuel false)
    else return [node]

/-- Nodes one after another up to the end of an alternative, after those read already, which are
kept in reverse. -/
def items (verbose first : Bool) : Nat → List Node → Read (List Node)
  | 0, read => return read
  | fuel + 1, read => do
    let unit ← peek
    match unit with
    | [] => return read
    | ['|'] => return read
    | [')'] => return read
    | ['\\', c] =>
      let _ ← take
      items verbose first fuel ((← escape c) :: read)
    | c :: _ =>
      let _ ← take
      if verbose && isSkipped c then items verbose first fuel read
      else if verbose && c == '#' then
        lineComment fuel
        items verbose first fuel read
      else
        match c with
        | '[' => items verbose first fuel ((← charClass) :: read)
        | '.' => items verbose first fuel (.any :: read)
        | '^' => items verbose first fuel (.anchor .start :: read)
        | '$' => items verbose first fuel (.anchor .finish :: read)
        | '(' =>
          match ← group verbose (first && read.isEmpty) fuel with
          | .nothing => items verbose first fuel read
          | .switched =>
            let reader ← get
            items reader.switches.verbose first fuel read
          | .node node => items verbose first fuel (node :: read)
        | _ =>
          if c == '*' || c == '+' || c == '?' || c == '\x7b' then
            let marked := (← position) - 1
            match ← bounds c with
            | .literal => items verbose first fuel (.char c.toNat :: read)
            | .between least most =>
              match read with
              | [] => failAt .nothingToRepeat marked
              | body :: before =>
                items verbose first fuel ((← repetition marked least most body) :: before)
          else items verbose first fuel (.char c.toNat :: read)

/-- A group after its parenthesis. -/
def group (verbose atStart : Bool) : Nat → Read GroupItem
  | 0 => fail .unterminatedGroup 0
  | fuel + 1 => do
    let opened := (← position) - 1
    match ← groupStart opened with
    | .comment => return .nothing
    | .switches => if atStart then return .switched else failAt .lateSwitches opened
    | .reference number => return .node (.backref number)
    | .remembering name =>
      let number ← openGroup name
      let body ← Node.ofAlternatives <$> alternatives false verbose fuel true
      closing opened
      closeGroup number body
      return .node (.group (some number) .none .none body)
    | .plain on off =>
      let body ←
        Node.ofAlternatives <$>
          alternatives false ((verbose || on.verbose) && !off.verbose) fuel true
      closing opened
      return .node (.group none on off body)
    | .atomic =>
      let body ← Node.ofAlternatives <$> alternatives false verbose fuel true
      closing opened
      return .node (.atomic body)
    | .ahead negative =>
      let body ← Node.ofAlternatives <$> alternatives false verbose fuel true
      closing opened
      return .node (.ahead negative body)
    | .behind negative =>
      let outer := (← get).behindGroups
      let groups := (← get).widths.length + 1
      modify fun reader => { reader with behindGroups := some (outer.getD groups) }
      let body ← Node.ofAlternatives <$> alternatives false verbose fuel true
      modify fun reader => { reader with behindGroups := outer }
      closing opened
      return .node (.behind negative body)
    | .condition number =>
      let yes ← items verbose false fuel []
      let no ←
        if ← accept '|' then
          let other ← items verbose false fuel []
          if (← peek) = ['|'] then fail .manyBranches 0
          else pure (some (Node.ofList other.reverse))
        else pure none
      closing opened
      return .node (.cond number (Node.ofList yes.reverse) no)

end

/-- The faults that are found only with the whole pattern at hand: repetitions that a switch
forbids, and looks behind without a fixed width. -/
def check (template : Bool) (groups : Nat → Width) : Node → Except Error Unit
  | .seq first second => do
    check template groups first
    check template groups second
  | .alt first second => do
    check template groups first
    check template groups second
  | .group _ _ _ body => check template groups body
  | .atomic body => check template groups body
  | .rep greed _ _ body => do
    if template then throw (.templateRepeat greed)
    check template groups body
  | .ahead _ body => check template groups body
  | .behind _ body => do
    let width := body.width groups
    if repeatLimit < width.least then throw .farLookBehind
    if width.least ≠ width.most then throw .variableLookBehind
    check template groups body
  | .cond _ yes no => do
    check template groups yes
    match no with
    | some other => check template groups other
    | none => pure ()
  | _ => pure ()

/-- The pattern of the whole text. -/
def whole (fuel : Nat) : Read Node := do
  let start ← get
  checkEscape start.rest 0
  let node ← Node.ofAlternatives <$> alternatives true false fuel true
  let reader ← get
  if reader.switches.ascii && reader.switches.unicode then throw .bothAlphabets
  if !(← peek).isEmpty then fail .unbalanced 0
  else
    match reader.conditions.reverse.find? fun entry => reader.widths.length < entry.1 with
    | some (number, place) => failAt (.invalidGroup number) place
    | none => return node

end Read

/-- A pattern that was read, with the switches that hold for all of it. -/
structure Compiled where
  node : Node
  switches : Switches
  groups : Nat → Width

/-- The pattern that a text is, with case ignored. -/
def compile [names : CharacterNames] (text : String) : Except Error Compiled :=
  let chars := text.toList
  let start : Reader :=
    ⟨chars, 0, { Switches.none with ignoreCase := true }, [], [], none, [], names⟩
  match (Read.whole (4 * chars.length + 8)).run start with
  | .error error => .error error
  | .ok (node, reader) =>
    let groups := Read.groupWidth reader.widths
    match Read.check reader.switches.template groups node with
    | .error error => .error error
    | .ok () =>
      let alphabet := !reader.switches.ascii
      .ok ⟨node, { reader.switches with unicode := alphabet }, groups⟩

end BrowserScenario.Pattern
