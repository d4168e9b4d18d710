import BrowserScenario.Yaml.Graph

/-!
# The value of a document

The nodes of a graph are given their values level by level from the root, so that of several
faults the one nearest to the root is found first. A mapping first takes over the members of the
mappings it is merged with. A collection that stands inside itself is written out as deep as a
scenario document goes, and elided below that.
-/

namespace BrowserScenario.Yaml

/-- The value of a node in terms of the numbers of other nodes. -/
inductive Built
  | scalar (data : Data)
  | list (items : List Nat)
  | pairs (entries : List (Nat × Nat))
  | set (keys : List Data)
  | map (entries : List (Data × Nat))
deriving Repr

/-- How far the values of a graph are known: the graph, the nodes with a value, and the collections
whose members are still to be given theirs, the latest first. -/
structure Builder where
  nodes : Array Node
  built : List (Nat × Built)
  begun : List Nat
  waiting : List Nat

/-- A step of giving values. -/
abbrev Build := StateT Builder (Except Fault)

namespace Build

/-- The node with a number. -/
def nodeAt (number : Nat) : Build Node := do
  match (← get).nodes[number]? with
  | some node => return node
  | none => throw .malformed

/-- The members of a mapping node. -/
def entriesOf (number : Nat) : Build (List (Nat × Nat)) := do
  match (← nodeAt number).content with
  | .mapping entries => return entries
  | _ => throw .malformed

/-- The members of a sequence node. -/
def itemsOf (number : Nat) : Build (List Nat) := do
  match (← nodeAt number).content with
  | .sequence items => return items
  | _ => throw .malformed

/-- A node replaced. -/
def setNode (number : Nat) (node : Node) : Build Unit :=
  modify fun builder => { builder with nodes := builder.nodes.modify number fun _ => node }

/-- The members of a mapping node replaced. -/
def setEntries (number : Nat) (entries : List (Nat × Nat)) : Build Unit := do
  setNode number { (← nodeAt number) with content := .mapping entries }

/-- The first value in a mapping whose key is the key for the value of the mapping itself. -/
def ownValue? : List (Nat × Nat) → Build (Option Nat)
  | [] => return none
  | (key, value) :: rest => do
    if (← nodeAt key).tag == .value then return some value else ownValue? rest

/-- The text of a scalar node, or of the scalar that is the value of a mapping itself. -/
def scalarText : Nat → Nat → Build (List Char)
  | 0, _ => throw .malformed
  | fuel + 1, number => do
    match (← nodeAt number).content with
    | .scalar text => return text
    | .sequence _ => throw .malformed
    | .mapping entries =>
      match ← ownValue? entries with
      | some value => scalarText fuel value
      | none => throw .malformed

mutual

/-- The members of a mapping from a position on, with those taken over from mappings it is merged
with, and without the keys that ask for this. -/
def mergeFrom : Nat → Nat → Nat → List (Nat × Nat) → Build Unit
  | 0, _, _, _ => throw .malformed
  | fuel + 1, number, position, merged => do
    let entries ← entriesOf number
    match entries[position]? with
    | none => if !merged.isEmpty then setEntries number (merged ++ entries)
    | some (key, value) =>
      let keyNode ← nodeAt key
      match keyNode.tag with
      | .merge =>
        setEntries number (entries.eraseIdx position)
        match (← nodeAt value).content with
        | .mapping _ =>
          mergeFrom fuel value 0 []
          mergeFrom fuel number position (merged ++ (← entriesOf value))
        | .sequence items =>
          let found ← mergedItems fuel items
          mergeFrom fuel number position (merged ++ found.reverse.flatten)
        | .scalar _ => throw .malformed
      | .value =>
        setNode key { keyNode with tag := .text }
        mergeFrom fuel number (position + 1) merged
      | _ => mergeFrom fuel number (position + 1) merged

/-- The members of the mappings of a sequence that a mapping is merged with. -/
def mergedItems : Nat → List Nat → Build (List (List (Nat × Nat)))
  | 0, _ => throw .malformed
  | _ + 1, [] => return []
  | fuel + 1, item :: rest => do
    let _ ← entriesOf item
    mergeFrom fuel item 0 []
    let entries ← entriesOf item
    return entries :: (← mergedItems fuel rest)

end

/-- A bound for the number of steps on a graph. -/
def stepBound (nodes : Array Node) : Nat :=
  let entries := nodes.foldl (fun total node =>
    match node.content with
    | .scalar _ => total
    | .sequence items => total + items.length
    | .mapping entries => total + entries.length) 0
  (entries + 2) * (nodes.size + 2)

/-- The value of a node recorded. -/
def record (number : Nat) (built : Built) : Build Unit :=
  modify fun builder => { builder with built := (number, built) :: builder.built }

/-- The value of a node that is tagged as a scalar. -/
def scalarOf (number : Nat) (node : Node) : Build Data := do
  let text ← scalarText (stepBound (← get).nodes) number
  match node.tag, node.content with
  | .timestamp, .mapping _ => throw .timestampCollection
  | _, _ =>
    match scalarValue node.tag text with
    | .ok data => return data
    | .error fault => throw fault

/-- A node given its value if it is a scalar, or put among the waiting ones if it is a
collection. -/
def start (number : Nat) : Build Unit := do
  if (← get).begun.contains number then return
  modify fun builder => { builder with begun := number :: builder.begun }
  let node ← nodeAt number
  match node.tag with
  | .merge => throw .malformed
  | .value => throw .malformed
  | .unknown => throw .malformed
  | .sequence => wait
  | .mapping => wait
  | .orderedPairs => wait
  | .pairs => wait
  | .set => wait
  | _ => record number (.scalar (← scalarOf number node))
where
  /-- The node is to wait. -/
  wait : Build Unit :=
    modify fun builder => { builder with waiting := number :: builder.waiting }

/-- The value of a key, which has to be a scalar. -/
def keyData (number : Nat) : Build Data := do
  start number
  match (← get).built.lookup number with
  | some (.scalar data) => return data
  | _ => throw .malformed

/-- The members of a mapping with their keys given values. -/
def beginEntries : List (Nat × Nat) → Build (List (Data × Nat))
  | [] => return []
  | (key, value) :: rest => do
    let data ← keyData key
    start value
    return (data, value) :: (← beginEntries rest)

/-- The items of a sequence given values. -/
def beginItems : List Nat → Build Unit
  | [] => return ()
  | item :: rest => do
    start item
    beginItems rest

/-- The pairs of a sequence of mappings with one member each. -/
def beginPairs : List Nat → Build (List (Nat × Nat))
  | [] => return []
  | item :: rest => do
    match ← entriesOf item with
    | [(key, value)] =>
      start key
      start value
      return (key, value) :: (← beginPairs rest)
    | _ => throw .malformed

/-- The members of a mapping node, after merging. -/
def mappingEntries (number : Nat) : Build (List (Data × Nat)) := do
  let _ ← entriesOf number
  mergeFrom (stepBound (← get).nodes) number 0 []
  let entries ← beginEntries (← entriesOf number)
  return Data.mergeEntries entries

/-- The value of a collection that was waiting. -/
def finish (number : Nat) : Build Unit := do
  match (← nodeAt number).tag with
  | .sequence =>
    let items ← itemsOf number
    beginItems items
    record number (.list items)
  | .mapping => record number (.map (← mappingEntries number))
  | .set => record number (.set ((← mappingEntries number).map (·.1)))
  | _ => record number (.pairs (← beginPairs (← itemsOf number)))

/-- The values of the collections of one level, in order. -/
def finishAll : List Nat → Build Unit
  | [] => return ()
  | number :: rest => do
    finish number
    finishAll rest

/-- The values of all levels from the waiting nodes on. -/
def finishLevels : Nat → Build Unit
  | 0 => return ()
  | fuel + 1 => do
    let builder ← get
    if builder.waiting.isEmpty then return ()
    else
      set { builder with waiting := [] }
      finishAll builder.waiting.reverse
      finishLevels fuel

end Build

/-- The number of levels of a scenario document above the fields of its steps. -/
def documentLevels : Nat := 5

/-- Whether a value has keys. -/
def isKeyed (built : List (Nat × Built)) (number : Nat) : Bool :=
  match built.lookup number with
  | some (.map _) => true
  | _ => false

/-- The data of a node. Above the given number of levels a collection may be written out inside
itself; below, a node that is open already is elided. -/
def dataOf (built : List (Nat × Built)) : Nat → Nat → List Nat → Nat → Data
  | 0, _, _, number => .elided (isKeyed built number)
  | fuel + 1, levels, opened, number =>
    let inner (depth child : Nat) : Data :=
      dataOf built fuel (levels - depth) (if levels = 0 then number :: opened else []) child
    if opened.contains number then .elided (isKeyed built number)
    else
      match built.lookup number with
      | none => .null
      | some (.scalar data) => data
      | some (.list items) => .list (items.map (inner 1))
      | some (.pairs entries) =>
        .list (entries.map fun entry => .pair (inner 2 entry.1) (inner 2 entry.2))
      | some (.set keys) => .set keys
      | some (.map entries) => .map (entries.map fun entry => (entry.1, inner 1 entry.2))

/-- The value of the root of a graph. -/
def Graph.value (graph : Graph) (root : Nat) : Except Fault Data :=
  let start : Builder := ⟨graph.nodes, [], [], []⟩
  let steps := graph.nodes.size + 1
  let build : Build Unit := do
    Build.start root
    Build.finishLevels steps
  match build.run start with
  | .ok (_, builder) => .ok (dataOf builder.built (steps + documentLevels + 1) documentLevels [] root)
  | .error fault => .error fault

/-- The value of a text; a text without a document is null. -/
def read (text : List Char) : Except Fault Data :=
  match Graph.ofText text with
  | .error fault => .error fault
  | .ok (_, none) => .ok .null
  | .ok (graph, some root) => graph.value root

end BrowserScenario.Yaml
