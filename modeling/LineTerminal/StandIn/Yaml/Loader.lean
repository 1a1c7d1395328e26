import LineTerminal.Document.Number
import LineTerminal.Settings.Section
import LineTerminal.StandIn.Yaml.Graph
import LineTerminal.StandIn.Yaml.Value

/-!
# A stand-in for the loader of documents

How the graph of a document becomes its value, and the loader as a whole.
-/

namespace LineTerminal
namespace Yaml

/-! ### Putting values together

The value of a document is put together node by node.  A node is looked at when it is first found.
The value of a scalar is read at once, and a collection waits until the collections before it are
done; this decides which of several mistakes is reported.
-/

/-- What the value of a node consists of.  Other nodes are named by their number. -/
inductive Part where
  /-- A value that is no collection. -/
  | leaf (value : Tree)
  /-- The items of a list. -/
  | list (items : List Nat)
  /-- The items of a list of pairs. -/
  | pairs (items : List (Nat × Nat))
  /-- The entries of a mapping.  No two keys are equal. -/
  | map (entries : List (Nat × Nat))
  /-- The members of a set.  No two of them are equal. -/
  | set (items : List Nat)

/-- The values that were put together so far. -/
structure Assembly where
  /-- The nodes.  Merging changes their entries. -/
  nodes : Array Node
  /-- The parts of the nodes that were found. -/
  parts : Array (Option Part)
  /-- The collections that were found, in order. -/
  collections : Array Nat

/-- A part of putting values together. -/
abbrev Assembling (α : Type) := StateT Assembly Result α

namespace Assembly

/-- The greatest number of steps from node to node, each of which waits for the next. -/
def maxDepth : Nat := 985

/-- The state in which no node of a graph was found. -/
def ofGraph (g : Graph) : Assembly :=
  { nodes := g.nodes
    parts := Array.replicate g.nodes.size none
    collections := #[] }

/-- The node with a number. -/
def node (a : Assembly) (i : Nat) : Node := a.nodes[i]?.getD .empty

/-- The part of a node that was found. -/
def part? (a : Assembly) (i : Nat) : Option Part := (a.parts[i]?).join

/-- The entries of a node. -/
def entries (a : Assembly) (i : Nat) : List (Nat × Nat) :=
  match (a.node i).content with
  | .mapping entries => entries
  | _ => []

/-- The assembly where a node has other entries. -/
def setEntries (i : Nat) (entries : List (Nat × Nat)) (a : Assembly) : Assembly :=
  { a with nodes := a.nodes.modify i fun n => { n with content := .mapping entries } }

/-- The assembly where a node has a part. -/
def setPart (i : Nat) (p : Part) (a : Assembly) : Assembly :=
  { a with parts := a.parts.setIfInBounds i (some p) }

/-- Something is wrong with the document. -/
def fail {α : Type} (e : Error) : Assembling α := throw (.malformed e)

/--
The text of a node.  A mapping may have a text under its default key, and another mapping may do so
in place of the text; there are at most so many of them.
-/
def textWithin (a : Assembly) : Nat → Nat → Result (List Text.Point)
  | 0, _ => .error .tooDeep
  | depth + 1, i =>
    match (a.node i).content with
    | .scalar text => return text
    | .sequence _ => malformed .wrongKind
    | .mapping entries =>
      match entries.find? fun entry => (a.node entry.1).tag = .default with
      | some (_, value) => textWithin a depth value
      | none => malformed .wrongKind

/-- The text of a node. -/
def text (a : Assembly) (i : Nat) : Result (List Text.Point) := a.textWithin maxDepth i

/-- The text of a node with characters only. -/
def shown (a : Assembly) (i : Nat) : Result String := Text.shown <$> a.text i

/-- The value of a node as a point of time. -/
def time (a : Assembly) (i : Nat) : Result Tree := do
  let text ← a.shown i
  match (a.node i).content with
  | .mapping _ => .error .timeInMapping
  | _ => Scalar.time text

/-- The value of a node that is no collection. -/
def leaf (a : Assembly) (i : Nat) : Tag → Result Tree
  | .null => do
    let _ ← a.text i
    return .null
  | .bool => do return .bool (← Scalar.bool (← a.shown i))
  | .int => do return .int (← Scalar.int (← a.shown i))
  | .float => do return .float (← Scalar.float (← a.shown i))
  | .text => .text <$> a.text i
  | .binary => do return .bytes (← Scalar.binary (← a.shown i))
  | .timestamp => a.time i
  | .merge => malformed (.unknownType "merge")
  | .default => malformed (.unknownType "value")
  | .other name => malformed (.unknownType name)
  | .sequence | .orderedMapping | .pairs | .mapping | .set => malformed .wrongKind

/-- What the value of a collection consists of before its node is looked into. -/
def emptyPart? : Tag → Option Part
  | .sequence => some (.list [])
  | .orderedMapping | .pairs => some (.pairs [])
  | .mapping => some (.map [])
  | .set => some (.set [])
  | _ => none

/-- Finds a node. -/
def visit (i : Nat) : Assembling Unit := do
  let a ← get
  if (a.part? i).isNone then
    let tag := (a.node i).tag
    match emptyPart? tag with
    | some p => set { a.setPart i p with collections := a.collections.push i }
    | none =>
      let value ← a.leaf i tag
      set (a.setPart i (.leaf value))

/-- The value of a node if it is no collection. -/
def leaf? (a : Assembly) (i : Nat) : Option Tree :=
  match a.part? i with
  | some (.leaf value) => some value
  | _ => none

/-- Whether a node is written with the notation of what is not a number. -/
def isNotNumber (a : Assembly) (i : Nat) : Bool :=
  match (a.node i).tag, a.shown i with
  | .float, .ok text => (Scalar.floatParts text).2 = Scalar.notNumber
  | _, _ => false

/--
Whether two nodes are equal as keys.  What is not a number is equal to itself only if it has the
same notation.
-/
def sameKey (a : Assembly) (i j : Nat) : Bool :=
  i = j || (a.isNotNumber i && a.isNotNumber j)
    || match a.leaf? i, a.leaf? j with
      | some s, some t => s.sameKey t
      | _, _ => false

end Assembly

/-! ### Merging mappings

A mapping may have merge entries, whose values are mappings or lists of mappings.  Merging takes the
merge entries out and puts the entries of those mappings in front of the others.  The mappings that
are merged have to be merged themselves before, and a mapping may even merge itself; every merge
entry is taken out once.
-/

namespace Assembly

/-- Takes the first merge entry out of a mapping.  The answer is the node that is to be merged. -/
def takeMerge? (i : Nat) : Assembling (Option Nat) := do
  let a ← get
  match (a.entries i).span fun entry => (a.node entry.1).tag ≠ .merge with
  | (before, (_, source) :: after) =>
    set (a.setEntries i (before ++ after))
    return some source
  | (_, []) => return none

/-- Makes texts of the default keys of a mapping. -/
def renameDefaults (i : Nat) : Assembling Unit := modify fun a =>
  let keys := ((a.entries i).map (·.1)).filter fun key => (a.node key).tag = .default
  let renamed (n : Node) : Node := { n with tag := .text }
  { a with nodes := keys.foldl (fun nodes key => nodes.modify key renamed) a.nodes }

/-- Entries of mappings. -/
abbrev Entries := List (Nat × Nat)

/-- The entries that a merge entry stands for.  Of several mappings the last one comes first. -/
def mergedFrom (merged : Nat → Assembling Entries) (source : Nat) : Assembling Entries := do
  let single (j : Nat) : Assembling Entries := do
    match ((← get).node j).content with
    | .mapping _ => merged j
    | _ => fail .badMerge
  match ((← get).node source).content with
  | .mapping _ => merged source
  | .sequence items => return (← items.mapM single).reverse.flatten
  | .scalar _ => fail .badMerge

/--
Takes the merge entries out of a mapping, of which there are at most so many.  The answer is the
entries that they stand for.
-/
def takeMerges (merged : Nat → Assembling Entries) (i : Nat) : Nat → Assembling Entries
  | 0 => return []
  | left + 1 => do
    match ← takeMerge? i with
    | none => return []
    | some source =>
      let first ← mergedFrom merged source
      return first ++ (← takeMerges merged i left)

/-- The entries of a mapping after merging it, with others merged at most so deep within it. -/
def mergedWithin : Nat → Nat → Assembling Entries
  | 0, _ => throw .tooDeep
  | depth + 1, i => do
    renameDefaults i
    let others ← takeMerges (mergedWithin depth) i ((← get).entries i).length
    modify fun a => a.setEntries i (others ++ a.entries i)
    return (← get).entries i

/-- The entries of a mapping after merging it. -/
def mergedEntries (i : Nat) : Assembling Entries := mergedWithin maxDepth i

end Assembly

/-! ### The values of documents

A document has a value if each of its nodes has one.  The value of a node is a tree; where a
collection occurs within itself, the tree ends.
-/

namespace Assembly

/-- Adds an entry of a mapping.  An equal key keeps its place and gets the new value. -/
def insert (a : Assembly) (key value : Nat) : List (Nat × Nat) → List (Nat × Nat)
  | [] => [(key, value)]
  | (k, v) :: rest =>
    if a.sameKey k key then (k, value) :: rest else (k, v) :: insert a key value rest

/-- The entries of a mapping.  Each key is found before its value and must not be a collection. -/
def distinctEntries (own : List (Nat × Nat)) : Assembling (List (Nat × Nat)) :=
  own.foldlM (fun done (key, value) => do
    visit key
    if ((← get).leaf? key).isNone then
      fail .collectionAsKey
    visit value
    return (← get).insert key value done) []

/-- The entry of a mapping that must have one only. -/
def singleEntry (i : Nat) : Assembling (Nat × Nat) := do
  match ((← get).node i).content with
  | .mapping [(key, value)] =>
    visit key
    visit value
    return (key, value)
  | _ => fail .wrongKind

/-- Looks into a collection. -/
def fill (i : Nat) : Assembling Unit := do
  let n := (← get).node i
  let p ← match n.tag, n.content with
    | .mapping, .mapping _ => .map <$> do distinctEntries (← mergedEntries i)
    | .set, .mapping _ =>
      let entries ← distinctEntries (← mergedEntries i)
      pure (.set (entries.map (·.1)))
    | .sequence, .sequence items =>
      items.forM visit
      pure (.list items)
    | .orderedMapping, .sequence items | .pairs, .sequence items =>
      .pairs <$> items.mapM singleEntry
    | _, _ => fail .wrongKind
  modify fun a => a.setPart i p

/-- Looks into the collections from the given one on.  There are at most so many. -/
def fillFrom : Nat → Nat → Assembling Unit
  | 0, _ => return
  | bound + 1, next => do
    if let some i := (← get).collections[next]? then
      fill i
      fillFrom bound (next + 1)

/-- A collection that is being written out. -/
inductive Place where
  /-- The value of a node. -/
  | node (i : Nat)
  /-- A pair in the value of a node. -/
  | pair (i index : Nat)
deriving DecidableEq

/-- The value of a node within the collections of a path, of which there are at most so many. -/
def treeWithin (a : Assembly) : Nat → List Place → Nat → Tree
  | 0, _, _ => .null
  | bound + 1, path, i =>
    let inner (j : Nat) : Tree := treeWithin a bound (.node i :: path) j
    match a.part? i with
    | none => .null
    | some (.leaf value) => value
    | some (.map entries) =>
      if path.contains (.node i) then .again .map
      else .map (entries.map fun (key, value) => (inner key, inner value))
    | some (.list items) =>
      if path.contains (.node i) then .again .list else .list (items.map inner)
    | some (.pairs items) =>
      if path.contains (.node i) then .again .list
      else .list (items.zipIdx.map fun ((first, second), index) =>
        if path.contains (.pair i index) then .again .pair else .pair (inner first) (inner second))
    | some (.set items) => .set (NumberSet.arranged (items.map inner))

/-- The value of a node within the collections of a path, of which there is at most one. -/
def treeIn (a : Assembly) (path : List Place) (i : Nat) : Tree :=
  a.treeWithin (a.nodes.size + 1) path i

/-- The value of a node. -/
def tree (a : Assembly) (i : Nat) : Tree := a.treeIn [] i

/-- The keys of a mapping with the nodes of their values, if the value of a node is a mapping. -/
def mapping? (a : Assembly) (i : Nat) : Option (List (Tree × Nat)) :=
  match a.part? i with
  | some (.map entries) => some (entries.map fun (key, value) => (a.tree key, value))
  | _ => none

/-- The values in a list, if the value of a node is a list. -/
def list? (a : Assembly) (i : Nat) : Option (List Tree) :=
  match a.part? i with
  | some (.list items) => some (items.map a.tree)
  | some (.pairs items) => some <| items.zipIdx.map fun ((first, second), index) =>
    .pair (a.treeIn [.pair i index] first) (a.treeIn [.pair i index] second)
  | _ => none

end Assembly

/-- The values of all nodes of a graph. -/
def Graph.assemble (g : Graph) : Result Assembly := do
  let assembling : Assembling Unit := do
    Assembly.visit g.root
    Assembly.fillFrom (g.nodes.size + 1) 0
  return (← assembling.run (.ofGraph g)).2

/-- The value of the one document in a text. -/
def load (text : String) : Result LoadedDocument := do
  let g ← Graph.ofText text
  let a ← g.assemble
  return { root := g.root, mapping? := a.mapping?, list? := a.list?, tree := a.tree }

end Yaml
end LineTerminal
