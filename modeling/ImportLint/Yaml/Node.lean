import ImportLint.Yaml.Scalar
import ImportLint.Yaml.Stream

/-!
# From tokens to nodes

A document is a graph of nodes: scalars, sequences and mappings, each of a kind. A node has a place
in the document, and an alias stands for the place of its anchor. Since a collection has its place
before its content is read, an alias may stand inside its own collection.
-/

namespace ImportLint.Yaml

/-- The place of a node in its document. -/
abbrev Ref : Type := Nat

/-- A node of a document. -/
inductive Node
  | scalar (kind : Kind) (text : CodeText)
  | sequence (kind : Kind) (items : List Ref)
  | mapping (kind : Kind) (entries : List (Ref × Ref))
  deriving DecidableEq, Repr

namespace Node

/-- The node where nothing is written. -/
def empty : Node := .scalar .null []

/-- The kind of a node. -/
def kind : Node → Kind
  | .scalar k _ | .sequence k _ | .mapping k _ => k

/-- The node with another kind. -/
def withKind (k : Kind) : Node → Node
  | .scalar _ text => .scalar k text
  | .sequence _ items => .sequence k items
  | .mapping _ entries => .mapping k entries

/-- The entries of a mapping. -/
def entries : Node → List (Ref × Ref)
  | .mapping _ es => es
  | _ => []

end Node

/-- What is left of the tokens and the fault behind them, the nodes so far, the places of the
anchors, and the handles of tags. -/
structure Composition where
  tokens : List Token
  fault : Option Fault
  nodes : Array Node
  anchors : List (String × Ref)
  handles : List (String × String)

/-- Composing nodes. -/
abbrev Compose := StateT Composition (Except Fault)

namespace Compose

/-- The next token; none at the end of the stream. -/
def peek : Compose (Option Token) := do
  let c ← get
  match c.tokens, c.fault with
  | t :: _, _ => return some t
  | [], some f => throw f
  | [], none => return none

/-- Passes over a token. -/
def pass : Compose Unit := modify fun c => { c with tokens := c.tokens.tail }

/-- Whether the next token is one of some. -/
def nextIsIn (ts : List Token) : Compose Bool := do
  match ← peek with
  | some t => return ts.contains t
  | none => return false

/-- Passes over a token that has to come. -/
def expect (t : Token) : Compose Unit := do
  if (← peek) = some t then pass else throw .malformed

/-- The name of an anchor in front of a node. -/
def takeAnchor : Compose (Option String) := do
  match ← peek with
  | some (.anchor name) =>
    pass
    return some name
  | _ => return none

/-- The parts of a tag in front of a node. -/
def takeTag : Compose (Option (Option String × String)) := do
  match ← peek with
  | some (.tag handle suffix) =>
    pass
    return some (handle, suffix)
  | _ => return none

/-- The tag that its parts make. -/
def resolveTag : Option (Option String × String) → Compose (Option String)
  | none => return none
  | some (none, suffix) => return some suffix
  | some (some handle, suffix) => do
    match (← get).handles.lookup handle with
    | some start => return some (start ++ suffix)
    | none => throw .malformed

/-- The anchor and the tag in front of a node, in either order. -/
def takeProperties : Compose (Option String × Option String) := do
  match ← takeAnchor with
  | some name => return (some name, ← resolveTag (← takeTag))
  | none =>
    match ← takeTag with
    | some tag =>
      let anchor ← takeAnchor
      return (anchor, ← resolveTag (some tag))
    | none => return (none, none)

/-- Gives a new node its place. -/
def add (n : Node) : Compose Ref := do
  let c ← get
  set { c with nodes := c.nodes.push n }
  return c.nodes.size

/-- Gives a place to an anchor. -/
def anchorNode (anchor : Option String) (r : Ref) : Compose Unit :=
  match anchor with
  | none => pure ()
  | some name => modify fun c => { c with anchors := (name, r) :: c.anchors }

/-- Refuses an anchor that is there already. -/
def freshAnchor (anchor : Option String) : Compose Unit := do
  match anchor with
  | none => pure ()
  | some name => if ((← get).anchors.lookup name).isSome then throw .malformed

/-- Whether a tag leaves the kind to the node. -/
def isOpen (tag : Option String) : Bool := tag = none || tag = some "!"

/-- The kind of a collection. -/
def collectionKind (tag : Option String) (usual : Kind) : Kind :=
  match tag with
  | none => usual
  | some t => if isOpen tag then usual else .ofTag t

/-- The kind of a scalar. -/
def scalarKind (tag : Option String) (text : CodeText) (plain : Bool) : Kind :=
  match tag with
  | none => if plain then .ofPlain text else .text
  | some t => if isOpen tag then .ofPlain text else .ofTag t

/-- Composes a scalar. -/
def scalar (anchor tag : Option String) (text : CodeText) (plain : Bool) : Compose Ref := do
  let r ← add (.scalar (scalarKind tag text plain) text)
  anchorNode anchor r
  return r

/-- Composes a collection, whose anchor may be used inside it. -/
def collect {α : Type} (anchor : Option String) (make : List α → Node)
    (content : Compose (List α)) : Compose Ref := do
  let r ← add (make [])
  anchorNode anchor r
  let n := make (← content)
  modify fun c => { c with nodes := c.nodes.setIfInBounds r n }
  return r

mutual

/-- A node. `block` tells whether block collections may start here, and `indentless` whether a block
sequence may start without further indentation. Every call passes over a token or leaves to a
smaller `fuel` a call that does. -/
def node (fuel : Nat) (block indentless : Bool) : Compose Ref :=
  match fuel with
  | 0 => throw .malformed
  | fuel + 1 => do
    match ← peek with
    | some (.reference name) =>
      pass
      match (← get).anchors.lookup name with
      | some r => return r
      | none => throw .malformed
    | _ =>
      let (anchor, tag) ← takeProperties
      let next ← peek
      freshAnchor anchor
      let sequence := Node.sequence (collectionKind tag .sequence)
      let mapping := Node.mapping (collectionKind tag .mapping)
      match next with
      | some (.scalar text plain) =>
        pass
        scalar anchor tag text plain
      | some .flowSequence =>
        pass
        collect anchor sequence (flowItems fuel true)
      | some .flowMapping =>
        pass
        collect anchor mapping (flowEntries fuel true)
      | _ =>
        if indentless ∧ next = some .blockEntry then
          collect anchor sequence (indentlessItems fuel)
        else if block ∧ next = some .blockSequence then
          pass
          collect anchor sequence (blockItems fuel)
        else if block ∧ next = some .blockMapping then
          pass
          collect anchor mapping (blockEntries fuel)
        else if anchor.isSome ∨ tag.isSome then scalar anchor tag "" true
        else throw .malformed

/-- A node, or the empty node before one of some tokens. -/
def nodeUnless (fuel : Nat) (stops : List Token) (block indentless : Bool) : Compose Ref :=
  match fuel with
  | 0 => throw .malformed
  | fuel + 1 => do
    if ← nextIsIn stops then add .empty else node fuel block indentless

/-- The items of a block sequence. -/
def blockItems (fuel : Nat) : Compose (List Ref) :=
  match fuel with
  | 0 => throw .malformed
  | fuel + 1 => do
    if ← nextIsIn [.blockEntry] then
      pass
      let n ← nodeUnless fuel [.blockEntry, .blockEnd] true false
      return n :: (← blockItems fuel)
    else
      expect .blockEnd
      return []

/-- The items of a block sequence without further indentation. -/
def indentlessItems (fuel : Nat) : Compose (List Ref) :=
  match fuel with
  | 0 => throw .malformed
  | fuel + 1 => do
    if ← nextIsIn [.blockEntry] then
      pass
      let n ← nodeUnless fuel [.blockEntry, .key, .value, .blockEnd] true false
      return n :: (← indentlessItems fuel)
    else return []

/-- The entries of a block mapping. -/
def blockEntries (fuel : Nat) : Compose (List (Ref × Ref)) :=
  match fuel with
  | 0 => throw .malformed
  | fuel + 1 => do
    let stops := [.key, .value, .blockEnd]
    if ← nextIsIn [.key] then
      pass
      let k ← nodeUnless fuel stops true true
      let v ← if ← nextIsIn [.value] then do
          pass
          nodeUnless fuel stops true true
        else add .empty
      return (k, v) :: (← blockEntries fuel)
    else
      expect .blockEnd
      return []

/-- The items of a flow sequence. An item with a key is a mapping of one entry. -/
def flowItems (fuel : Nat) (first : Bool) : Compose (List Ref) :=
  match fuel with
  | 0 => throw .malformed
  | fuel + 1 => do
    if ← nextIsIn [.flowSequenceEnd] then
      pass
      return []
    if !first then expect .flowEntry
    if ← nextIsIn [.key] then
      pass
      let k ← nodeUnless fuel [.value, .flowEntry, .flowSequenceEnd] false false
      let v ← if ← nextIsIn [.value] then do
          pass
          nodeUnless fuel [.flowEntry, .flowSequenceEnd] false false
        else add .empty
      let pair ← add (.mapping .mapping [(k, v)])
      return pair :: (← flowItems fuel false)
    if ← nextIsIn [.flowSequenceEnd] then
      pass
      return []
    let n ← node fuel false false
    return n :: (← flowItems fuel false)

/-- The entries of a flow mapping. -/
def flowEntries (fuel : Nat) (first : Bool) : Compose (List (Ref × Ref)) :=
  match fuel with
  | 0 => throw .malformed
  | fuel + 1 => do
    if ← nextIsIn [.flowMappingEnd] then
      pass
      return []
    if !first then expect .flowEntry
    if ← nextIsIn [.key] then
      pass
      let k ← nodeUnless fuel [.value, .flowEntry, .flowMappingEnd] false false
      let v ← if ← nextIsIn [.value] then do
          pass
          nodeUnless fuel [.flowEntry, .flowMappingEnd] false false
        else add .empty
      return (k, v) :: (← flowEntries fuel false)
    if ← nextIsIn [.flowMappingEnd] then
      pass
      return []
    let k ← node fuel false false
    let v ← add .empty
    return (k, v) :: (← flowEntries fuel false)

end

/-! ### Documents -/

/-- The handles that every document has. -/
def standardHandles : List (String × String) := [("!", "!"), ("!!", standardTag)]

/-- Reads directives: `versioned` tells whether a version was given, `handles` are those so far. -/
def directives (fuel : Nat) (versioned : Bool) (handles : List (String × String)) :
    Compose (List (String × String)) :=
  match fuel with
  | 0 => throw .malformed
  | fuel + 1 => do
    match ← peek with
    | some (.directive d) =>
      pass
      match d with
      | .version major =>
        if versioned ∨ major ≠ 1 then throw .malformed
        directives fuel true handles
      | .handle h start =>
        if (handles.lookup h).isSome then throw .malformed
        directives fuel versioned ((h, start) :: handles)
      | .other => directives fuel versioned handles
    | _ => return handles

/-- The content of a document that starts with a sign of its own. -/
def content (fuel : Nat) : Compose Ref := do
  match ← peek with
  | none | some (.directive _) | some .documentStart | some .documentEnd => add .empty
  | _ => node fuel true false

/-- The directives of a document and the sign of its start. -/
def documentHead (fuel : Nat) : Compose Unit := do
  let handles ← directives fuel false []
  expect .documentStart
  modify fun c => { c with handles := handles ++ standardHandles }

/-- The root of the first document. A stream without tokens has an empty one. -/
def root (fuel : Nat) : Compose Ref := do
  match ← peek with
  | none => add .empty
  | some (.directive _) | some .documentStart =>
    documentHead fuel
    content fuel
  | _ => node fuel true false

/-- Passes over the signs that end a document. -/
def passEnds (fuel : Nat) : Compose Unit :=
  match fuel with
  | 0 => throw .malformed
  | fuel + 1 => do
    if ← nextIsIn [.documentEnd] then
      pass
      passEnds fuel

/-- The root of the only document. -/
def document (fuel : Nat) : Compose Ref := do
  let r ← root fuel
  passEnds fuel
  match ← peek with
  | none => return r
  | _ =>
    documentHead fuel
    throw .malformed

end Compose

/-- The nodes of the only document of a stream, and the place of its root. -/
structure Graph where
  nodes : Array Node
  root : Ref

/-- Composes the nodes of tokens. -/
def Graph.ofTokens (ts : Tokens) : Except Fault Graph := do
  let start : Composition := ⟨ts.list, ts.fault, #[], [], Compose.standardHandles⟩
  let (root, c) ← (Compose.document (3 * ts.list.length + 3)).run start
  return ⟨c.nodes, root⟩

end ImportLint.Yaml
