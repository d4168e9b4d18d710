import BrowserScenario.Yaml.Lexer
import BrowserScenario.Yaml.Scalar

/-!
# The graph of a document

A document is a graph of nodes: scalars, sequences of nodes and mappings from nodes to nodes. An
anchor names a node, and an alias stands for the node that was named, which may be one that is
not finished yet. The grammar is followed token by token; whatever does not fit it is a fault.
-/

namespace BrowserScenario.Yaml

/-- What a node holds. Nodes are named by their numbers. -/
inductive Content
  | scalar (text : List Char)
  | sequence (items : List Nat)
  | mapping (entries : List (Nat × Nat))
deriving DecidableEq, Repr

/-- A node. -/
structure Node where
  tag : Tag
  content : Content
deriving DecidableEq, Repr

/-- The nodes of a document by their numbers. -/
structure Graph where
  nodes : Array Node
deriving Repr

/-- How far the composition of a graph has come: the tokens that are left, what the handles of tags
stand for, the nodes that have names, and the nodes. -/
structure Composer where
  tokens : List Token
  handles : List (List Char × List Char)
  anchors : List (List Char × Nat)
  nodes : Array Node

/-- A step of composition. -/
abbrev Compose := StateT Composer (Except Fault)

namespace Compose

/-- The next token. -/
def peek : Compose Token := do
  match (← get).tokens with
  | [] => return .broken .malformed
  | token :: _ => return token

/-- The tokens without the next one. -/
def advance : Compose Unit :=
  modify fun composer => { composer with tokens := composer.tokens.tail }

/-- A token that does not fit. -/
def unexpected {α : Type} : Token → Compose α
  | .broken fault => throw fault
  | _ => throw .malformed

/-- A new node. -/
def addNode (node : Node) : Compose Nat := do
  let composer ← get
  set { composer with nodes := composer.nodes.push node }
  return composer.nodes.size

/-- A node with a number replaced. -/
def setContent (number : Nat) (content : Content) : Compose Unit :=
  modify fun composer =>
    { composer with
      nodes := composer.nodes.modify number fun node => { node with content := content } }

/-- A name for a node. -/
def nameNode (name : Option (List Char)) (number : Nat) : Compose Unit :=
  match name with
  | none => pure ()
  | some name =>
    modify fun composer => { composer with anchors := (name, number) :: composer.anchors }

/-- What stands in front of a node: a name for it, and the text of its tag. -/
structure Properties where
  anchor : Option (List Char)
  tag : Option (List Char)

/-- The text of a tag: its handle replaced by what it stands for. -/
def tagText (handle : Option (List Char)) (suffix : List Char) : Compose (List Char) := do
  match handle with
  | none => return suffix
  | some name =>
    match (← get).handles.lookup name with
    | some start => return start ++ suffix
    | none => throw .malformed

/-- The tag at the next token, if there is one. -/
def readTag : Compose (Option (Option (List Char) × List Char)) := do
  match ← peek with
  | .tag handle suffix => advance; return some (handle, suffix)
  | _ => return none

/-- The anchor at the next token, if there is one. -/
def readAnchor : Compose (Option (List Char)) := do
  match ← peek with
  | .anchor name => advance; return some name
  | _ => return none

/-- The anchor and the tag in front of a node, in either order. -/
def readProperties : Compose Properties := do
  let early ← readAnchor
  let tag ← readTag
  let anchor ← if early.isNone && tag.isSome then readAnchor else pure early
  match tag with
  | none => return ⟨anchor, none⟩
  | some (handle, suffix) => return ⟨anchor, some (← tagText handle suffix)⟩

/-- A fault if a name was given before. -/
def checkFresh (name : Option (List Char)) : Compose Unit := do
  match name with
  | none => pure ()
  | some name => if ((← get).anchors.lookup name).isSome then throw .malformed

/-- The kind of a collection with a tag. -/
def collectionTag (standard : Tag) : Option (List Char) → Tag
  | none => standard
  | some ['!'] => standard
  | some text => Tag.ofText text

/-- The kind of a scalar with a tag. Only a plain scalar without a tag, or one with the tag that
says nothing, is taken for a value by its text. -/
def scalarTag (tag : Option (List Char)) (plain : Bool) (text : List Char) : Tag :=
  match tag with
  | none => if plain then Tag.implicit text else .text
  | some ['!'] => Tag.implicit text
  | some text => Tag.ofText text

/-- A scalar node. -/
def addScalar (properties : Properties) (text : List Char) (plain : Bool) : Compose Nat := do
  let number ← addNode ⟨scalarTag properties.tag plain text, .scalar text⟩
  nameNode properties.anchor number
  return number

/-- The node that stands where nothing is written. -/
def addEmpty : Compose Nat :=
  addScalar ⟨none, none⟩ [] true

/-- A collection whose content follows its name, so that it may stand inside itself. -/
def addCollection (properties : Properties) (standard : Tag) (empty : Content)
    (content : Compose Content) : Compose Nat := do
  let number ← addNode ⟨collectionTag standard properties.tag, empty⟩
  nameNode properties.anchor number
  setContent number (← content)
  return number

/-- The node that an alias stands for. -/
def aliasedNode (name : List Char) : Compose Nat := do
  match (← get).anchors.lookup name with
  | some number => return number
  | none => throw .malformed

/-- Whether the next token is one of some. -/
def nextIs (tokens : List Token) : Compose Bool := do
  return tokens.contains (← peek)

mutual

/-- A node; inside blocks also a block collection, and for the members of a mapping also a sequence
that is not indented. -/
def node (block flush : Bool) : Nat → Compose Nat
  | 0 => throw .malformed
  | fuel + 1 => do
    match ← peek with
    | .alias name => advance; aliasedNode name
    | _ =>
      let properties ← readProperties
      checkFresh properties.anchor
      let token ← peek
      match token, block, flush with
      | .blockEntry, _, true =>
        addCollection properties .sequence (.sequence []) (.sequence <$> flushItems fuel)
      | .scalar text plain, _, _ => advance; addScalar properties text plain
      | .flowSequenceStart, _, _ =>
        advance
        addCollection properties .sequence (.sequence []) (.sequence <$> flowItems true fuel)
      | .flowMappingStart, _, _ =>
        advance
        addCollection properties .mapping (.mapping []) (.mapping <$> flowEntries true fuel)
      | .blockSequenceStart, true, _ =>
        advance
        addCollection properties .sequence (.sequence []) (.sequence <$> blockItems fuel)
      | .blockMappingStart, true, _ =>
        advance
        addCollection properties .mapping (.mapping []) (.mapping <$> blockEntries fuel)
      | _, _, _ =>
        if properties.anchor.isSome || properties.tag.isSome then addScalar properties [] true
        else unexpected token

/-- A node, or the empty node where one of some tokens follows. -/
def nodeUnless (closing : List Token) (block flush : Bool) : Nat → Compose Nat
  | 0 => throw .malformed
  | fuel + 1 => do
    if ← nextIs closing then addEmpty else node block flush fuel

/-- The members of a block sequence. -/
def blockItems : Nat → Compose (List Nat)
  | 0 => throw .malformed
  | fuel + 1 => do
    match ← peek with
    | .blockEntry =>
      advance
      let item ← nodeUnless [.blockEntry, .blockEnd] true false fuel
      return item :: (← blockItems fuel)
    | .blockEnd => advance; return []
    | token => unexpected token

/-- The members of a block sequence that is not indented. -/
def flushItems : Nat → Compose (List Nat)
  | 0 => throw .malformed
  | fuel + 1 => do
    match ← peek with
    | .blockEntry =>
      advance
      let item ← nodeUnless [.blockEntry, .key, .value, .blockEnd] true false fuel
      return item :: (← flushItems fuel)
    | _ => return []

/-- The value after a key of a block mapping. -/
def blockValue : Nat → Compose Nat
  | 0 => throw .malformed
  | fuel + 1 => do
    match ← peek with
    | .value => advance; nodeUnless [.key, .value, .blockEnd] true true fuel
    | _ => addEmpty

/-- The members of a block mapping. -/
def blockEntries : Nat → Compose (List (Nat × Nat))
  | 0 => throw .malformed
  | fuel + 1 => do
    match ← peek with
    | .key =>
      advance
      let key ← nodeUnless [.key, .value, .blockEnd] true true fuel
      let value ← blockValue fuel
      return (key, value) :: (← blockEntries fuel)
    | .blockEnd => advance; return []
    | token => unexpected token

/-- A mapping of one member inside a flow sequence, at the key. -/
def flowPair : Nat → Compose Nat
  | 0 => throw .malformed
  | fuel + 1 =>
    addCollection ⟨none, none⟩ .mapping (.mapping []) do
      advance
      let key ← nodeUnless [.value, .flowEntry, .flowSequenceEnd] false false fuel
      match ← peek with
      | .value =>
        advance
        let value ← nodeUnless [.flowEntry, .flowSequenceEnd] false false fuel
        return .mapping [(key, value)]
      | _ =>
        let value ← addEmpty
        return .mapping [(key, value)]

/-- The members of a flow sequence, from the first or from the comma before another. -/
def flowItems (first : Bool) : Nat → Compose (List Nat)
  | 0 => throw .malformed
  | fuel + 1 => do
    match ← peek with
    | .flowSequenceEnd => advance; return []
    | token =>
      if !first then
        if token == .flowEntry then advance else unexpected token
      match ← peek with
      | .key =>
        let item ← flowPair fuel
        return item :: (← flowItems false fuel)
      | .flowSequenceEnd => advance; return []
      | _ =>
        let item ← node false false fuel
        return item :: (← flowItems false fuel)

/-- The value after a key of a flow mapping. -/
def flowValue : Nat → Compose Nat
  | 0 => throw .malformed
  | fuel + 1 => do
    match ← peek with
    | .value => advance; nodeUnless [.flowEntry, .flowMappingEnd] false false fuel
    | _ => addEmpty

/-- The members of a flow mapping, from the first or from the comma before another. -/
def flowEntries (first : Bool) : Nat → Compose (List (Nat × Nat))
  | 0 => throw .malformed
  | fuel + 1 => do
    match ← peek with
    | .flowMappingEnd => advance; return []
    | token =>
      if !first then
        if token == .flowEntry then advance else unexpected token
      match ← peek with
      | .key =>
        advance
        let key ← nodeUnless [.value, .flowEntry, .flowMappingEnd] false false fuel
        let value ← flowValue fuel
        return (key, value) :: (← flowEntries false fuel)
      | .flowMappingEnd => advance; return []
      | _ =>
        let key ← node false false fuel
        let value ← addEmpty
        return (key, value) :: (← flowEntries false fuel)

end

/-- What handles stand for unless a directive says otherwise. -/
def standardHandles : List (List Char × List Char) := [
  (['!'], ['!']), (['!', '!'], commonTagStart.toList)]

/-- The directives in front of a document: a version at most once, and each handle at most once. -/
def readDirectives : Nat → Bool → List (List Char × List Char) →
    Compose (List (List Char × List Char))
  | 0, _, _ => throw .malformed
  | fuel + 1, versioned, handles => do
    match ← peek with
    | .directive (.version major) =>
      advance
      if versioned || major != 1 then throw .malformed
      readDirectives fuel true handles
    | .directive (.handle name start) =>
      advance
      if (handles.lookup name).isSome then throw .malformed
      readDirectives fuel versioned ((name, start) :: handles)
    | .directive .reserved => advance; readDirectives fuel versioned handles
    | _ => return handles

/-- The tokens without the lines that end a document. -/
def skipDocumentEnds : Nat → Compose Unit
  | 0 => pure ()
  | fuel + 1 => do
    match ← peek with
    | .documentEnd => advance; skipDocumentEnds fuel
    | _ => pure ()

/-- A document that starts with directives or with a line of its own. -/
def explicitDocument (fuel : Nat) : Compose Nat := do
  let handles ← readDirectives fuel false []
  match ← peek with
  | .documentStart =>
    advance
    modify fun composer => { composer with handles := handles ++ standardHandles }
    match ← peek with
    | .directive _ => addEmpty
    | .documentStart => addEmpty
    | .documentEnd => addEmpty
    | .streamEnd => addEmpty
    | _ => node true false fuel
  | token => unexpected token

/-- The only document of a text, if there is one. -/
def document (fuel : Nat) : Compose (Option Nat) := do
  let root ←
    match ← peek with
    | .streamEnd => pure none
    | .directive _ => some <$> explicitDocument fuel
    | .documentStart => some <$> explicitDocument fuel
    | _ => some <$> node true false fuel
  skipDocumentEnds fuel
  match ← peek with
  | .streamEnd => return root
  | token => unexpected token

end Compose

/-- The graph of a text and the number of its root, if the text holds a document. -/
def Graph.ofText (text : List Char) : Except Fault (Graph × Option Nat) :=
  let tokens := tokensOf text
  let start : Composer := ⟨tokens, Compose.standardHandles, [], #[]⟩
  match (Compose.document (4 * tokens.length + 8)).run start with
  | .ok (root, composer) => .ok (⟨composer.nodes⟩, root)
  | .error fault => .error fault

end BrowserScenario.Yaml
