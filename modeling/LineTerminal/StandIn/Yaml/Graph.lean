import LineTerminal.StandIn.Yaml.Token
import LineTerminal.StandIn.Yaml.Value
import LineTerminal.Text

/-!
# A stand-in for the loader of documents: the graph

How the tokens of a document are put together to a graph of nodes.
-/

namespace LineTerminal
namespace Yaml

/-! ### Documents as graphs

The values of a document are the nodes of a graph.  A node that is anchored can occur at several
places, and even within itself.
-/

/-- What a node consists of.  Other nodes are named by their number. -/
inductive Content where
  /-- A text. -/
  | scalar (text : List Text.Point)
  /-- A list of nodes. -/
  | sequence (items : List Nat)
  /-- A list of keys with their values. -/
  | mapping (entries : List (Nat × Nat))
deriving DecidableEq

/-- A node of a document. -/
structure Node where
  /-- The type of its value. -/
  tag : Tag
  /-- What it consists of. -/
  content : Content
deriving DecidableEq

/-- The node of an empty place. -/
def Node.empty : Node := ⟨.null, .scalar []⟩

/-- The nodes of a document. -/
structure Graph where
  /-- The nodes by their number. -/
  nodes : Array Node
  /-- The number of the node that all others are within. -/
  root : Nat

/-- The node with a number. -/
def Graph.node (g : Graph) (i : Nat) : Node := g.nodes[i]?.getD .empty

/-! ### The graph of a list of tokens

A node is read by looking at no more than its first token.  Every function has a bound on the depth
of calls within it, and takes a token before it calls itself again.
-/

/-- The state of reading a graph. -/
structure Reader where
  /-- The tokens that are left. -/
  tokens : List Token
  /-- What is wrong after the tokens. -/
  failure : Option Failure
  /-- The number of collections that are being read. -/
  depth : Nat := 0
  /-- The nodes so far. -/
  nodes : Array Node := #[]
  /-- The nodes that aliases can stand for. -/
  anchors : List (String × Nat) := []
  /-- The handles and what they stand for. -/
  handles : List (String × String) := []

/-- A part of reading a graph. -/
abbrev Reading (α : Type) := StateT Reader Result α

namespace Reader

/-- The handles that need no declaration. -/
def commonHandles : List (String × String) := [("!", "!"), ("!!", Tag.commonStart)]

/-- Something is wrong with the tokens. -/
def fail {α : Type} (e : Error) : Reading α := fun _ => malformed e

/-- The next token.  It is looked for only when it is needed, and then something may be wrong. -/
def peek? : Reading (Option Token) := do
  let r ← get
  match r.tokens.head?, r.failure with
  | none, some f => throw f
  | next, _ => return next

/-- Skips the next token. -/
def skip : Reading Unit := modify fun r => { r with tokens := r.tokens.tail }

/-- Skips the next token if it is the given one.  The answer is whether it is. -/
def skipIf (t : Token) : Reading Bool := do
  if (← peek?) = some t then
    skip
    return true
  else return false

/-- Skips the next token, which has to be the given one. -/
def expect (t : Token) : Reading Unit := do
  unless ← skipIf t do
    fail .unexpected

/-- Whether the next token is one of the given ones. -/
def nextIsIn (ts : List Token) : Reading Bool := do
  return (← peek?).any ts.contains

/-- Adds a node, which aliases can stand for if it is anchored. -/
def add (anchor : Option String) (n : Node) : Reading Nat := do
  let r ← get
  let i := r.nodes.size
  set { r with
    nodes := r.nodes.push n
    anchors := match anchor with
      | some name => (name, i) :: r.anchors
      | none => r.anchors }
  return i

/-- The greatest number of collections within each other. -/
def maxDepth : Nat := 490

/-- Adds a collection.  It can occur within itself, so it is there before its parts are read. -/
def addCollection (anchor : Option String) (tag : Tag) (read : Reading Content) : Reading Nat := do
  let depth := (← get).depth
  if maxDepth ≤ depth then
    throw .tooDeep
  let i ← add anchor ⟨tag, .sequence []⟩
  modify fun r => { r with depth := depth + 1 }
  let content ← read
  modify fun r => { r with nodes := r.nodes.setIfInBounds i ⟨tag, content⟩, depth := depth }
  return i

/-- The name of a tag. -/
def tagName (t : TagText) : Reading String := do
  match t.handle with
  | none => return t.suffix
  | some handle =>
    match (← get).handles.lookup handle with
    | some start => return start ++ t.suffix
    | none => fail (.unknownHandle handle)

/-- The tag that is next, if there is one. -/
def tag? : Reading (Option TagText) := do
  match ← peek? with
  | some (.tag t) =>
    skip
    return some t
  | _ => return none

/-- The anchor that is next, if there is one. -/
def anchor? : Reading (Option String) := do
  match ← peek? with
  | some (.anchor name) =>
    skip
    return some name
  | _ => return none

/-- The anchor and the tag before a node, in either order. -/
def marks : Reading (Option String × Option TagText) := do
  match ← anchor? with
  | some name => return (some name, ← tag?)
  | none =>
    match ← tag? with
    | some t => return (← anchor?, some t)
    | none => return (none, none)

/-- The anchor and the name of the tag before a node, which must be a new anchor. -/
def properties : Reading (Option String × Option String) := do
  let (anchor, tag) ← marks
  let name ← tag.mapM tagName
  let _ ← peek?
  if let some a := anchor then
    if ((← get).anchors.lookup a).isSome then
      fail (.repeatedAnchor a)
  return (anchor, name)

/-- The type of a scalar. -/
def scalarTag (tag : Option String) (text : String) (plain : Bool) : Tag :=
  match tag with
  | none => if plain then Tag.ofPlain text else .text
  | some name => if name = "!" then Tag.ofPlain text else Tag.ofName name

/-- The type of a collection, which is a common one unless it has a tag. -/
def collectionTag (tag : Option String) (common : Tag) : Tag :=
  match tag with
  | none => common
  | some name => if name = "!" then common else Tag.ofName name

mutual

/-- Reads a node.  A block sequence may begin without further indentation if `isLoose`. -/
def node (inBlock isLoose : Bool) : Nat → Reading Nat
  | 0 => fail .unexpected
  | bound + 1 => do
    if let some (.alias name) ← peek? then
      skip
      match (← get).anchors.lookup name with
      | some i => return i
      | none => fail (.unknownAnchor name)
    else
      let (anchor, tag) ← properties
      match ← peek? with
      | some (.scalar text plain) =>
        skip
        add anchor ⟨scalarTag tag (Text.shown text) plain, .scalar text⟩
      | some .flowSequence =>
        skip
        addCollection anchor (collectionTag tag .sequence) (.sequence <$> flowItems true bound)
      | some .flowMapping =>
        skip
        addCollection anchor (collectionTag tag .mapping) (.mapping <$> flowEntries true bound)
      | next =>
        if isLoose && next = some .entry then
          addCollection anchor (collectionTag tag .sequence) (.sequence <$> looseItems bound)
        else if inBlock && next = some .blockSequence then
          skip
          addCollection anchor (collectionTag tag .sequence) (.sequence <$> blockItems bound)
        else if inBlock && next = some .blockMapping then
          skip
          addCollection anchor (collectionTag tag .mapping) (.mapping <$> blockEntries bound)
        else if anchor.isSome || tag.isSome then
          add anchor ⟨scalarTag tag "" true, .scalar []⟩
        else fail .unexpected

/-- Reads a node, which is empty if one of the given tokens is next. -/
def nodeBefore (ends : List Token) (inBlock isLoose : Bool) : Nat → Reading Nat
  | 0 => fail .unexpected
  | bound + 1 => do
    if ← nextIsIn ends then add none .empty else node inBlock isLoose bound

/-- Reads the value of an entry, which is empty if it is not there. -/
def valueBefore (ends : List Token) (inBlock : Bool) : Nat → Reading Nat
  | 0 => fail .unexpected
  | bound + 1 => do
    if ← skipIf .value then nodeBefore ends inBlock inBlock bound else add none .empty

/-- Reads the rest of a block sequence. -/
def blockItems : Nat → Reading (List Nat)
  | 0 => fail .unexpected
  | bound + 1 => do
    if ← skipIf .entry then
      let first ← nodeBefore [.entry, .blockEnd] true false bound
      let others ← blockItems bound
      return first :: others
    else
      expect .blockEnd
      return []

/-- Reads the rest of a block sequence without further indentation. -/
def looseItems : Nat → Reading (List Nat)
  | 0 => fail .unexpected
  | bound + 1 => do
    if ← skipIf .entry then
      let first ← nodeBefore [.entry, .key, .value, .blockEnd] true false bound
      let others ← looseItems bound
      return first :: others
    else return []

/-- Reads the rest of a block mapping. -/
def blockEntries : Nat → Reading (List (Nat × Nat))
  | 0 => fail .unexpected
  | bound + 1 => do
    if ← skipIf .key then
      let ends : List Token := [.key, .value, .blockEnd]
      let key ← nodeBefore ends true true bound
      let value ← valueBefore ends true bound
      let others ← blockEntries bound
      return (key, value) :: others
    else
      expect .blockEnd
      return []

/-- Reads the rest of a flow sequence.  An entry of a mapping in it is a mapping of its own. -/
def flowItems (isFirst : Bool) : Nat → Reading (List Nat)
  | 0 => fail .unexpected
  | bound + 1 => do
    if ← skipIf .flowSequenceEnd then return []
    unless isFirst do
      expect .separator
    if ← skipIf .flowSequenceEnd then return []
    let first ←
      if ← skipIf .key then
        addCollection none .mapping do
          let key ← nodeBefore [.value, .separator, .flowSequenceEnd] false false bound
          let value ← valueBefore [.separator, .flowSequenceEnd] false bound
          return .mapping [(key, value)]
      else node false false bound
    let others ← flowItems false bound
    return first :: others

/-- Reads the rest of a flow mapping. -/
def flowEntries (isFirst : Bool) : Nat → Reading (List (Nat × Nat))
  | 0 => fail .unexpected
  | bound + 1 => do
    if ← skipIf .flowMappingEnd then return []
    unless isFirst do
      expect .separator
    if ← skipIf .flowMappingEnd then return []
    let entry ←
      if ← skipIf .key then
        let key ← nodeBefore [.value, .separator, .flowMappingEnd] false false bound
        let value ← valueBefore [.separator, .flowMappingEnd] false bound
        pure (key, value)
      else
        let key ← node false false bound
        pure (key, ← add none .empty)
    let others ← flowEntries false bound
    return entry :: others

end

/-- Reads the directives before a document, after the given ones. -/
def directives (versionSeen : Bool) (declared : List (String × String)) :
    Nat → Reading (List (String × String))
  | 0 => fail .unexpected
  | bound + 1 => do
    match ← peek? with
    | some (.directive d) =>
      skip
      match d with
      | .version major _ =>
        if versionSeen then fail .repeatedDirective
        else if major ≠ 1 then fail .otherVersion
        else directives true declared bound
      | .handle name start =>
        if (declared.lookup name).isSome then fail .repeatedDirective
        else directives versionSeen ((name, start) :: declared) bound
      | .other => directives versionSeen declared bound
    | _ => return declared

/-- Whether the next token is at a boundary of documents. -/
def atBoundary : Reading Bool := do
  match ← peek? with
  | none | some .documentStart | some .documentEnd | some (.directive _) => return true
  | _ => return false

/-- Reads the root of a document; the functions below get a bound on their depth. -/
def root (bound : Nat) : Reading Nat := do
  if (← peek?) = some .documentEnd then
    fail .unexpected
  if ← atBoundary then
    let declared ← directives false [] bound
    modify fun r => { r with handles := declared ++ commonHandles }
    expect .documentStart
    if ← atBoundary then add none .empty else node true false bound
  else
    modify fun r => { r with handles := commonHandles }
    node true false bound

/-- Reads a document, after which nothing else may follow. -/
def document (bound : Nat) : Reading Nat := do
  let i ← root bound
  modify fun r => { r with tokens := r.tokens.dropWhile (· = .documentEnd) }
  if (← peek?).isSome then
    let _ ← directives false [] bound
    fail .manyDocuments
  return i

end Reader

/-- The graph of a list of tokens.  Without tokens it is an empty node. -/
def Graph.ofTokens (stream : TokenStream) : Result Graph := do
  let { tokens, failure } := stream
  if tokens.isEmpty && failure.isNone then return ⟨#[.empty], 0⟩
  let (root, r) ← (Reader.document (3 * tokens.length + 3)).run { tokens, failure }
  return ⟨r.nodes, root⟩

/-- The graph of a text. -/
def Graph.ofText (text : String) : Result Graph :=
  Graph.ofTokens (TokenStream.ofText text)

end Yaml
end LineTerminal
