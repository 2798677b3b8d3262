import ImportLint.Value.Layer
import ImportLint.Yaml.Build

/-!
# Documents

Reading a stream as a document, and looking at what is in it: by layers and as text. A collection
that stands inside itself is written as its brackets around three dots there.
-/

namespace ImportLint.Yaml

namespace Document

/-- What the node at a place stands for. -/
def thing (d : Document) (r : Ref) : Thing := (d.things[r]?).getD (.atom .null)

/-- The outermost layer of a part. -/
def layer (d : Document) : Part → Layer Part
  | .pair _ _ => .other true
  | .node r =>
    match d.thing r with
    | .atom v => .atom v
    | .lone => .atom (.real .nan)
    | .list items => .list items
    | .mapping entries => .mapping (entries.map fun (k, v) => (k, .node v))
    | .set elements => .other !elements.isEmpty

/-- The text of an atom inside a collection. -/
def atomText (v : Value) : Except TextFault String :=
  if v.hasLongInteger then .error .longInteger else .ok v.toInnerText

/-- Texts between brackets. -/
def bracketed (left right : String) (texts : List String) : String :=
  left ++ ", ".intercalate texts ++ right

/-- A part as it stands inside a collection, if no more than `depth` parts stand inside each other;
`around` are the collections around it. -/
def innerText (d : Document) : Nat → List Ref → Part → Except TextFault String
  | 0, _, _ => .error .tooDeep
  | depth + 1, around, .pair k v => do
    let key ← innerText d depth around (.node k)
    let value ← innerText d depth around (.node v)
    return bracketed "(" ")" [key, value]
  | depth + 1, around, .node r =>
    match d.thing r with
    | .atom v => atomText v
    | .lone => atomText (.real .nan)
    | .list items =>
      if around.contains r then .ok "[...]"
      else (items.mapM (innerText d depth (r :: around))).map (bracketed "[" "]")
    | .mapping entries =>
      if around.contains r then .ok "\x7b...\x7d"
      else
        (entries.mapM fun (k, v) => do
          let key ← atomText k
          return key ++ ": " ++ (← innerText d depth (r :: around) (.node v))).map
            (bracketed "\x7b" "\x7d")
    | .set elements =>
      if elements.isEmpty then .ok "set()"
      else (elements.mapM atomText).map (bracketed "\x7b" "\x7d")

/-- A part as text, if no more than `depth` parts stand inside each other. -/
def text (d : Document) (depth : Nat) (p : Part) : Except TextFault CodeText :=
  match d.layer p with
  | .atom v => Value.access.text v
  | _ => (d.innerText depth [] p).map .ofString

/-- The parts of a document by layers. -/
def access (d : Document) (depth : Nat) : Access Part := ⟨d.layer, d.text depth⟩

end Document

/-- The document of a stream. -/
def read (s : Supply) : Except Fault Document := do
  Document.ofGraph (← Graph.ofTokens (.ofSupply s))

end ImportLint.Yaml
