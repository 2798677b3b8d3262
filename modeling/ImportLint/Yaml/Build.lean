import ImportLint.Value.Placement
import ImportLint.Yaml.Node

/-!
# From nodes to things

What the nodes of a document stand for. A scalar is built when it is met; a collection gets its
place first and is filled later, round by round, so that it may hold itself. This order decides
which of several faults is found. Before a mapping is filled, the entries that merge keys bring in
are put before its own entries, which win; of several merged mappings the earlier win.
-/

namespace ImportLint.Yaml

/-- A part of a list: what a node stands for, or a pair. -/
inductive Part
  | node (r : Ref)
  | pair (key value : Ref)
  deriving DecidableEq, Repr

/-- What a node stands for. -/
inductive Thing
  | atom (v : Value)
  /-- A not-a-number that is equal to no other. -/
  | lone
  | list (items : List Part)
  | mapping (entries : List (Value × Ref))
  | set (elements : List Value)

/-- The nodes, what they stand for so far, and the collections that are to be filled in the next
round, last first. -/
structure Building where
  nodes : Array Node
  things : Array (Option Thing)
  later : List Ref

/-- Building what nodes stand for. -/
abbrev Build := StateT Building (Except Fault)

namespace Build

/-- The node at a place. -/
def nodeAt (r : Ref) : Build Node := do return ((← get).nodes[r]?).getD .empty

/-- Puts a node at a place. -/
def putNode (r : Ref) (n : Node) : Build Unit :=
  modify fun b => { b with nodes := b.nodes.setIfInBounds r n }

/-- What the node at a place stands for, if it was met. -/
def thingAt (r : Ref) : Build (Option Thing) := do return ((← get).things[r]?).getD none

/-- Tells what the node at a place stands for. -/
def putThing (r : Ref) (t : Thing) : Build Unit :=
  modify fun b => { b with things := b.things.setIfInBounds r (some t) }

/-- Gives a collection its place and leaves its content for later. -/
def defer (r : Ref) (t : Thing) : Build Unit := do
  putThing r t
  modify fun b => { b with later := r :: b.later }

/-! ### Scalars -/

/-- The text of a node where a scalar is wanted. A mapping may give it under the default key. -/
def textOf (nodes : Array Node) : Nat → Ref → Except Fault CodeText
  | 0, _ => .error .endless
  | fuel + 1, r =>
    match nodes[r]? with
    | some (.scalar _ text) => .ok text
    | some (.mapping _ entries) =>
      let isDefault (e : Ref × Ref) : Bool := (nodes[e.1]?).map Node.kind = some .default
      match entries.find? isDefault with
      | some (_, v) => textOf nodes fuel v
      | none => .error .malformed
    | _ => .error .malformed

/-- What a node of the kind of a scalar stands for. -/
def scalarThing (r : Ref) (kind : Kind) : Build Thing := do
  let nodes := (← get).nodes
  let text ← textOf nodes (nodes.size + 1) r
  if kind = .moment ∧ !(← nodeAt r).entries.isEmpty then throw .momentOfEntries
  let v ← scalarValue kind text
  match v with
  | .real .nan => return if isSharedNan text then .atom v else .lone
  | _ => return .atom v

/-- Meets a node. -/
def visit (r : Ref) : Build Unit := do
  if (← thingAt r).isSome then return
  match (← nodeAt r).kind with
  | .sequence | .pairs => defer r (.list [])
  | .mapping => defer r (.mapping [])
  | .set => defer r (.set [])
  | .merge | .default | .unknown => throw .malformed
  | kind => putThing r (← scalarThing r kind)

/-! ### Merging -/

/-- The entries of the mapping at a place, which `flat` frees from merge keys. -/
def flatEntries (flat : Ref → Build Unit) (r : Ref) : Build (List (Ref × Ref)) := do
  match ← nodeAt r with
  | .mapping _ _ =>
    flat r
    return (← nodeAt r).entries
  | _ => throw .malformed

/-- The entries of mappings that are merged together, those of the earlier mappings last. -/
def mergedItems (flat : Ref → Build Unit) : List Ref → Build (List (Ref × Ref))
  | [] => return []
  | r :: rest => do
    let es ← flatEntries flat r
    return (← mergedItems flat rest) ++ es

/-- The entries that the node at a place brings in under a merge key. -/
def mergedEntries (flat : Ref → Build Unit) (r : Ref) : Build (List (Ref × Ref)) := do
  match ← nodeAt r with
  | .sequence _ items => mergedItems flat items
  | _ => flatEntries flat r

/-- Frees the rest of the entries of a mapping from merge keys; `kept` are those in front that stay,
last first, and `merged` those that were brought in. A mapping may merge itself, and is then freed
on the way. The default key becomes a text. -/
def flattenEntries (flat : Ref → Build Unit) (r : Ref) (kind : Kind) (kept : List (Ref × Ref))
    (merged : List (Ref × Ref)) : List (Ref × Ref) → Build Unit
  | [] => putNode r (.mapping kind (merged ++ kept.reverse))
  | (k, v) :: rest => do
    let key ← nodeAt k
    if key.kind = .merge then
      let others := kept.reverse ++ rest
      putNode r (.mapping kind others)
      let merged := merged ++ (← mergedEntries flat v)
      let now := (← nodeAt r).entries
      if now = others then flattenEntries flat r kind kept merged rest
      else putNode r (.mapping kind (merged ++ now))
    else
      if key.kind = .default then putNode k (key.withKind .text)
      flattenEntries flat r kind ((k, v) :: kept) merged rest

/-- Frees the mapping at a place from merge keys. Each merge key is gone before another mapping is
looked at, so `fuel` need not be more than the number of entries. -/
def flatten : Nat → Ref → Build Unit
  | 0, _ => pure ()
  | fuel + 1, r => do
    match ← nodeAt r with
    | .mapping kind entries => flattenEntries (flatten fuel) r kind [] [] entries
    | _ => pure ()

/-! ### Collections -/

/-- A key: its node, its value, and whether it is equal to no other. -/
structure Key where
  ref : Ref
  value : Value
  isLone : Bool

/-- Whether two keys are the same. -/
def Key.isSame (a b : Key) : Bool :=
  if a.isLone || b.isLone then a.ref == b.ref else a.value.sameKey b.value

/-- Adds an entry. The entry of the same key keeps its place and takes the new value. -/
def insertEntry (key : Key) (value : Ref) : List (Key × Ref) → List (Key × Ref)
  | [] => [(key, value)]
  | (k, v) :: rest =>
    if k.isSame key then (k, value) :: rest else (k, v) :: insertEntry key value rest

/-- The key at a place, which no collection can be. -/
def keyAt (r : Ref) : Build Key := do
  visit r
  match ← thingAt r with
  | some (.atom v) => return ⟨r, v, false⟩
  | some .lone => return ⟨r, .real .nan, true⟩
  | _ => throw .malformed

/-- Adds entries to those so far. -/
def addEntries (done : List (Key × Ref)) : List (Ref × Ref) → Build (List (Key × Ref))
  | [] => return done
  | (k, v) :: rest => do
    let key ← keyAt k
    visit v
    addEntries (insertEntry key v done) rest

/-- The entries of the mapping at a place. -/
def entriesOf (r : Ref) : Build (List (Value × Ref)) := do
  match ← nodeAt r with
  | .mapping _ _ =>
    flatten ((← get).nodes.foldl (fun n node => n + node.entries.length) 1) r
    let entries ← addEntries [] (← nodeAt r).entries
    return entries.map fun (k, v) => (k.value, v)
  | _ => throw .malformed

/-- The items of the sequence at a place. -/
def itemsOf (r : Ref) : Build (List Ref) := do
  match ← nodeAt r with
  | .sequence _ items => return items
  | _ => throw .malformed

/-- The pair that a mapping of one entry gives. -/
def pairOf (r : Ref) : Build Part := do
  match ← nodeAt r with
  | .mapping _ [(k, v)] =>
    visit k
    visit v
    return .pair k v
  | _ => throw .malformed

/-- Fills the collection at a place. -/
def fill (r : Ref) : Build Unit := do
  match (← nodeAt r).kind with
  | .sequence =>
    let items ← itemsOf r
    items.forM visit
    putThing r (.list (items.map .node))
  | .pairs => putThing r (.list (← (← itemsOf r).mapM pairOf))
  | .set => putThing r (.set (Value.inSetOrder ((← entriesOf r).map (·.1))))
  | _ => putThing r (.mapping (← entriesOf r))

/-- Fills the collections of rounds, as long as there are any. Every collection is filled once, so
`fuel` need not be more than the number of nodes. -/
def fillRounds : Nat → Build Unit
  | 0 => pure ()
  | fuel + 1 => do
    let round := (← get).later.reverse
    if round.isEmpty then return
    modify fun b => { b with later := [] }
    round.forM fill
    fillRounds fuel

end Build

/-- A document: what its nodes stand for, and the place of its root. -/
structure Document where
  things : Array Thing
  root : Ref

/-- The document of a graph of nodes. What was never met counts for nothing. -/
def Document.ofGraph (g : Graph) : Except Fault Document := do
  let start : Building := ⟨g.nodes, Array.replicate g.nodes.size none, []⟩
  let (_, b) ← (do Build.visit g.root; Build.fillRounds (g.nodes.size + 1)).run start
  return ⟨b.things.map (·.getD (.atom .null)), g.root⟩

end ImportLint.Yaml
