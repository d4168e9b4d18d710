import BrowserScenario.Pattern.Character
import BrowserScenario.Pattern.Reader

/-!
# Matching

A pattern is matched at a place of a text by trying its possibilities in order; what follows it is
tried after each, and the first possibility after which everything else matches is taken. A
repetition does not go on where the turn before it matched nothing. A text is searched by trying
its places from the start.
-/

namespace BrowserScenario.Pattern

open BrowserScenario.Text

/-- A place in a text: the characters before it, the nearest first, and those after it. -/
structure Cursor where
  before : List Char
  after : List Char
  position : Nat
deriving Repr

/-- The texts that groups matched, the latest first. -/
abbrev Captures := List (Nat × List Char)

/-- Where a match ended and what its groups matched. -/
abbrev Outcome := Option (Cursor × Captures)

/-- What is tried after a match. -/
abbrev Continuation := Cursor → Captures → Outcome

/-- A pattern at work: what is tried after it, and where it starts. -/
abbrev Matching := Continuation → Cursor → Captures → Outcome

namespace Cursor

/-- The start of a text. -/
def start (text : List Char) : Cursor := ⟨[], text, 0⟩

/-- The place after the next character. -/
def next? (cursor : Cursor) : Option (Char × Cursor) :=
  match cursor.after with
  | [] => none
  | c :: rest => some (c, ⟨c :: cursor.before, rest, cursor.position + 1⟩)

/-- The place some characters earlier. -/
def back? (cursor : Cursor) (count : Nat) : Option Cursor :=
  if cursor.before.length < count then none
  else
    some ⟨cursor.before.drop count, (cursor.before.take count).reverse ++ cursor.after,
      cursor.position - count⟩

/-- Whether the place is between a word and what is not a word. -/
def atBoundary (switches : Switches) (cursor : Cursor) : Bool :=
  (cursor.before.head?.any (isWord switches)) != (cursor.after.head?.any (isWord switches))

/-- Whether the place meets a condition. -/
def meets (switches : Switches) (cursor : Cursor) : Anchor → Bool
  | .textStart => cursor.before.isEmpty
  | .textEnd => cursor.after.isEmpty
  | .start => cursor.before.isEmpty || (switches.multiline && cursor.before.head? == some '\n')
  | .finish =>
    cursor.after.isEmpty || cursor.after == ['\n']
      || (switches.multiline && cursor.after.head? == some '\n')
  | .boundary => cursor.atBoundary switches
  | .noBoundary =>
    !(cursor.before.isEmpty && cursor.after.isEmpty) && !cursor.atBoundary switches

/-- The place after a text that is found again there. -/
def findAgain? (switches : Switches) : List Char → Cursor → Option Cursor
  | [], cursor => some cursor
  | expected :: more, cursor =>
    match cursor.next? with
    | some (c, next) => if sameChar switches expected c then findAgain? switches more next else none
    | none => none

end Cursor

/-- What is tried after a pattern that stands alone: nothing. -/
def stop : Continuation := fun cursor captures => some (cursor, captures)

/-- One character of a class. -/
def single (member : Char → Bool) : Matching := fun continuation cursor captures =>
  match cursor.next? with
  | some (c, next) => if member c then continuation next captures else none
  | none => none

/-- Whether another turn of a repetition is allowed. -/
def mayRepeat (most : Option Nat) (count : Nat) (last : Option Nat) (position : Nat) : Bool :=
  most.all (count < ·) && last != some position

/-- A repetition that matches as often as possible; `last` is where the latest optional turn
started. -/
def greedyTurns (body : Matching) (least : Nat) (most : Option Nat) (continuation : Continuation) :
    Nat → Nat → Option Nat → Continuation
  | 0, _, _, _, _ => none
  | fuel + 1, count, last, cursor, captures =>
    if count < least then
      body (greedyTurns body least most continuation fuel (count + 1) last) cursor captures
    else
      let again :=
        if mayRepeat most count last cursor.position then
          body (greedyTurns body least most continuation fuel (count + 1) (some cursor.position))
            cursor captures
        else none
      match again with
      | some found => some found
      | none => continuation cursor captures

/-- A repetition that matches as seldom as possible. -/
def lazyTurns (body : Matching) (least : Nat) (most : Option Nat) (continuation : Continuation) :
    Nat → Nat → Option Nat → Continuation
  | 0, _, _, _, _ => none
  | fuel + 1, count, last, cursor, captures =>
    if count < least then
      body (lazyTurns body least most continuation fuel (count + 1) last) cursor captures
    else
      match continuation cursor captures with
      | some found => some found
      | none =>
        if mayRepeat most count last cursor.position then
          body (lazyTurns body least most continuation fuel (count + 1) (some cursor.position))
            cursor captures
        else none

/-- The end of a repetition that matches as often as possible and gives nothing back. -/
def possessiveTurns (body : Matching) (least : Nat) (most : Option Nat) :
    Nat → Nat → Option Nat → Continuation
  | 0, _, _, _, _ => none
  | fuel + 1, count, last, cursor, captures =>
    if count < least then
      match body stop cursor captures with
      | some (next, found) => possessiveTurns body least most fuel (count + 1) last next found
      | none => none
    else if mayRepeat most count last cursor.position then
      match body stop cursor captures with
      | some (next, found) =>
        possessiveTurns body least most fuel (count + 1) (some cursor.position) next found
      | none => some (cursor, captures)
    else some (cursor, captures)

/-- A repetition. Each turn beyond the least number starts at a new place, but for the last. -/
def turns (greed : Greed) (least : Nat) (most : Option Nat) (body : Matching) : Matching :=
  fun continuation cursor captures =>
    let fuel := least + cursor.after.length + 3
    match greed with
    | .greedy => greedyTurns body least most continuation fuel 0 none cursor captures
    | .lazy => lazyTurns body least most continuation fuel 0 none cursor captures
    | .possessive =>
      match possessiveTurns body least most fuel 0 none cursor captures with
      | some (next, found) => continuation next found
      | none => none

/-- A pattern at work. The widths of groups are needed to look behind. -/
def Node.matching (groups : Nat → Width) : Node → Switches → Matching
  | .empty, _, continuation, cursor, captures => continuation cursor captures
  | .char code, switches, continuation, cursor, captures =>
    single (sameCode switches code) continuation cursor captures
  | .any, switches, continuation, cursor, captures =>
    single (fun c => switches.dotAll || c != '\n') continuation cursor captures
  | .cls complement items, switches, continuation, cursor, captures =>
    single (inClass switches complement items) continuation cursor captures
  | .anchor condition, switches, continuation, cursor, captures =>
    if cursor.meets switches condition then continuation cursor captures else none
  | .seq first second, switches, continuation, cursor, captures =>
    first.matching groups switches (second.matching groups switches continuation) cursor captures
  | .alt first second, switches, continuation, cursor, captures =>
    match first.matching groups switches continuation cursor captures with
    | some found => some found
    | none => second.matching groups switches continuation cursor captures
  | .group number on off body, switches, continuation, cursor, captures =>
    let after : Continuation := fun next found =>
      match number with
      | none => continuation next found
      | some n =>
        let text := cursor.after.take (next.position - cursor.position)
        continuation next ((n, text) :: found)
    body.matching groups (switches.within on off) after cursor captures
  | .atomic body, switches, continuation, cursor, captures =>
    match body.matching groups switches stop cursor captures with
    | some (next, found) => continuation next found
    | none => none
  | .rep greed least most body, switches, continuation, cursor, captures =>
    turns greed least most (body.matching groups switches) continuation cursor captures
  | .ahead negative body, switches, continuation, cursor, captures =>
    match body.matching groups switches stop cursor captures with
    | some (_, found) => if negative then none else continuation cursor found
    | none => if negative then continuation cursor captures else none
  | .behind negative body, switches, continuation, cursor, captures =>
    let found :=
      match cursor.back? (body.width groups).least with
      | some earlier => body.matching groups switches stop earlier captures
      | none => none
    match found with
    | some (_, found) => if negative then none else continuation cursor found
    | none => if negative then continuation cursor captures else none
  | .backref number, switches, continuation, cursor, captures =>
    match captures.lookup number with
    | some text =>
      match cursor.findAgain? switches text with
      | some next => continuation next captures
      | none => none
    | none => none
  | .cond number yes no, switches, continuation, cursor, captures =>
    if (captures.lookup number).isSome then
      yes.matching groups switches continuation cursor captures
    else
      match no with
      | some other => other.matching groups switches continuation cursor captures
      | none => continuation cursor captures

/-- Whether a pattern matches at a place or later, where the characters after the place are
given. -/
def searchFrom (attempt : Cursor → Bool) (before : List Char) (position : Nat) :
    List Char → Bool
  | [] => attempt ⟨before, [], position⟩
  | c :: rest =>
    attempt ⟨before, c :: rest, position⟩
      || searchFrom attempt (c :: before) (position + 1) rest

/-- Whether a pattern matches somewhere in a text. -/
def Compiled.search (compiled : Compiled) (text : String) : Bool :=
  searchFrom
    (fun cursor =>
      (compiled.node.matching compiled.groups compiled.switches stop cursor []).isSome)
    [] 0 text.toList

end BrowserScenario.Pattern
