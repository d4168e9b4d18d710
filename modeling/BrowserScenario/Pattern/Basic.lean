/-!
# Patterns

A pattern describes texts: characters and classes of characters, sequences, alternatives,
repetitions, groups that remember what they matched, assertions about what is around a place, and
references to what a group matched. Switches change how characters are compared.
-/

namespace BrowserScenario.Pattern

/-- The switches of a pattern. -/
structure Switches where
  ignoreCase : Bool
  multiline : Bool
  dotAll : Bool
  verbose : Bool
  ascii : Bool
  unicode : Bool
  template : Bool
deriving DecidableEq, Repr

namespace Switches

/-- No switch is on. -/
def none : Switches := ⟨false, false, false, false, false, false, false⟩

/-- The switches that are on in either of two. -/
def union (a b : Switches) : Switches :=
  ⟨a.ignoreCase || b.ignoreCase, a.multiline || b.multiline, a.dotAll || b.dotAll,
    a.verbose || b.verbose, a.ascii || b.ascii, a.unicode || b.unicode, a.template || b.template⟩

/-- The switches that are on in the first and not in the second. -/
def without (a b : Switches) : Switches :=
  ⟨a.ignoreCase && !b.ignoreCase, a.multiline && !b.multiline, a.dotAll && !b.dotAll,
    a.verbose && !b.verbose, a.ascii && !b.ascii, a.unicode && !b.unicode,
    a.template && !b.template⟩

/-- Whether a switch is on that says which characters there are. -/
def hasAlphabet (a : Switches) : Bool :=
  a.ascii || a.unicode

/-- The switches inside a group that turns some on and some off. A switch for an alphabet replaces
the one that was on. -/
def within (outer on off : Switches) : Switches :=
  let base := if on.hasAlphabet then { outer with ascii := false, unicode := false } else outer
  (base.union on).without off

end Switches

/-- A class of characters with a name of its own. -/
inductive Category
  | digit
  | space
  | word
deriving DecidableEq, Repr

/-- A member of a class of characters: a character, a range, or a category or its complement. -/
inductive ClassItem
  | code (code : Nat)
  | range (first last : Nat)
  | category (category : Category) (complement : Bool)
deriving DecidableEq, Repr

/-- A condition on a place in a text. -/
inductive Anchor
  | start
  | textStart
  | finish
  | textEnd
  | boundary
  | noBoundary
deriving DecidableEq, Repr

/-- How often a repetition tries to match: as often as possible, as seldom as possible, or as often as
possible without giving back. -/
inductive Greed
  | greedy
  | lazy
  | possessive
deriving DecidableEq, Repr

/-- A pattern. Groups that remember have numbers from one on; a look behind knows how far it looks. -/
inductive Node
  | empty
  | char (code : Nat)
  | any
  | cls (complement : Bool) (items : List ClassItem)
  | anchor (anchor : Anchor)
  | seq (first second : Node)
  | alt (first second : Node)
  | group (number : Option Nat) (on off : Switches) (body : Node)
  | atomic (body : Node)
  | rep (greed : Greed) (least : Nat) (most : Option Nat) (body : Node)
  | ahead (negative : Bool) (body : Node)
  | behind (negative : Bool) (body : Node)
  | backref (number : Nat)
  | cond (number : Nat) (yes : Node) (no : Option Node)
deriving Repr

/-- The pattern of nodes one after another. -/
def Node.ofList : List Node → Node
  | [] => .empty
  | [only] => only
  | first :: more => .seq first (Node.ofList more)

/-- The pattern of alternatives. -/
def Node.ofAlternatives : List Node → Node
  | [] => .empty
  | [only] => only
  | first :: more => .alt first (Node.ofAlternatives more)

/-- The least and the greatest number of characters that a pattern matches. -/
structure Width where
  least : Nat
  most : Nat
deriving DecidableEq, Repr

/-- The greatest width that is told apart from greater ones. -/
def widthLimit : Nat := Nat.pow 2 64

/-- The least number of repetitions that is too large to ask for. -/
def repeatLimit : Nat := 4294967295

namespace Width

/-- The width of nothing. -/
def zero : Width := ⟨0, 0⟩

/-- The width of two patterns one after another. -/
def add (a b : Width) : Width :=
  ⟨min (a.least + b.least) widthLimit, min (a.most + b.most) widthLimit⟩

/-- The width of either of two patterns. -/
def join (a b : Width) : Width :=
  ⟨min a.least b.least, max a.most b.most⟩

/-- The width of a repeated pattern. -/
def times (least : Nat) (most : Option Nat) (width : Width) : Width :=
  let high :=
    match most with
    | some count => width.most * count
    | none => if width.most = 0 then 0 else widthLimit
  ⟨min (width.least * least) widthLimit, min high widthLimit⟩

end Width

/-- The width of a pattern, given those of the groups that it may refer to. -/
def Node.width (groups : Nat → Width) : Node → Width
  | .empty => .zero
  | .char _ => ⟨1, 1⟩
  | .any => ⟨1, 1⟩
  | .cls _ _ => ⟨1, 1⟩
  | .anchor _ => .zero
  | .seq first second => (first.width groups).add (second.width groups)
  | .alt first second => (first.width groups).join (second.width groups)
  | .group _ _ _ body => body.width groups
  | .atomic body => body.width groups
  | .rep _ least most body => (body.width groups).times least most
  | .ahead _ _ => .zero
  | .behind _ _ => .zero
  | .backref number => groups number
  | .cond _ yes no =>
    match no with
    | some other => (yes.width groups).join (other.width groups)
    | none => ⟨0, (yes.width groups).most⟩

end BrowserScenario.Pattern
