import ImportLint.Yaml.Plain
import ImportLint.Yaml.Tag

/-!
# From characters to tokens

A reader goes through the stream and gives its tokens. The start and the end of a block collection
have no sign of their own: they follow from the indentation. Whether a token starts a key is known
only when its colon is met, on the same line and not too far away; the reader remembers where the
key would start and puts the missing tokens in there.
-/

namespace ImportLint.Yaml

/-- A place in the stream: what follows, the number of characters passed, the line and the column.
-/
structure Cursor where
  rest : List Char
  index : Nat
  line : Nat
  column : Nat

namespace Cursor

/-- The place behind a character. The byte order mark takes no column. -/
def pass (c : Cursor) (x : Char) : Cursor :=
  if isBreak x then { c with index := c.index + 1, line := c.line + 1, column := 0 }
  else if x = '\ufeff' then { c with index := c.index + 1 }
  else { c with index := c.index + 1, column := c.column + 1 }

/-- The place where `rest` is what follows. -/
def moveTo (c : Cursor) (rest : List Char) : Cursor :=
  let passed := c.rest.take (c.rest.length - rest.length)
  { passed.foldl pass c with rest := rest }

end Cursor

/-- The tokens of a stream, as far as they go before a fault, and the fault. -/
structure Tokens where
  list : List Token
  fault : Option Fault

/-- A token that may turn out to start a key: its place among the tokens and in the stream. It is
required to be one if the block collection leaves no other choice. -/
structure PendingKey where
  place : Nat
  required : Bool
  index : Nat
  line : Nat
  column : Nat

/-- What the reader knows: its place, the tokens so far, last first, the columns of the open block
collections, innermost first, whether a key may start here, and the pending keys inside the current
brackets and around them. -/
structure Reader where
  cursor : Cursor
  tokens : List Token
  indents : List Nat
  mayStartKey : Bool
  pending : Option PendingKey
  outer : List (Option PendingKey)

namespace Reader

/-- Whether the reader is inside brackets. -/
def inFlow (r : Reader) : Bool := !r.outer.isEmpty

/-- The column of the innermost block collection; minus one if there is none. -/
def indent (r : Reader) : Int :=
  match r.indents with
  | [] => -1
  | i :: _ => i

/-- Adds a token and moves on. -/
def take (t : Token) (rest : List Char) (r : Reader) : Reader :=
  { r with tokens := t :: r.tokens, cursor := r.cursor.moveTo rest }

/-- Puts a token in at an earlier place. -/
def putAt (place : Nat) (t : Token) (r : Reader) : Reader :=
  { r with tokens := r.tokens.insertIdx (r.tokens.length - place) t }

/-- Ends the block collections that start to the right of a column. -/
def closeTo (column : Int) (r : Reader) : Reader :=
  if r.inFlow then r
  else
    let isRight (i : Nat) : Bool := decide (column < i)
    let closed := r.indents.takeWhile isRight
    { r with
      indents := r.indents.dropWhile isRight
      tokens := closed.foldl (fun ts _ => .blockEnd :: ts) r.tokens }

/-- Whether a block collection at a column would be a new one. -/
def opensAt (column : Nat) (r : Reader) : Bool := decide (r.indent < column)

/-- Forgets the pending key, which must not be required. -/
def dropPending (r : Reader) : Except Fault Reader :=
  match r.pending with
  | none => .ok r
  | some k => if k.required then .error .malformed else .ok { r with pending := none }

/-- Remembers that the next token may start a key. -/
def savePending (r : Reader) : Except Fault Reader :=
  if r.mayStartKey then do
    let r ← r.dropPending
    return { r with
      pending := some {
        place := r.tokens.length
        required := !r.inFlow && r.indent == r.cursor.column
        index := r.cursor.index
        line := r.cursor.line
        column := r.cursor.column } }
  else .ok r

/-- The most characters between the start of a key and its colon. -/
def maxKeyLength : Nat := 1024

/-- A pending key, unless it is on another line or too far away. -/
def PendingKey.refresh (c : Cursor) : Option PendingKey → Except Fault (Option PendingKey)
  | none => .ok none
  | some k =>
    if k.line ≠ c.line ∨ maxKeyLength < c.index - k.index then
      (if k.required then .error .malformed else .ok none)
    else .ok (some k)

/-- Forgets the pending keys that can no longer be keys. -/
def dropStale (r : Reader) : Except Fault Reader := do
  let pending ← PendingKey.refresh r.cursor r.pending
  let outer ← r.outer.mapM (PendingKey.refresh r.cursor)
  return { r with pending, outer }

/-- Skips spaces, comments and line ends: what follows, and whether a key may start there. -/
def skip (flow comment mayStartKey : Bool) : List Char → List Char × Bool
  | [] => ([], mayStartKey)
  | c :: rest =>
    if isBreak c then skip flow false (mayStartKey || !flow) rest
    else if comment then skip flow true mayStartKey rest
    else if c = ' ' then skip flow false mayStartKey rest
    else if c = '#' then skip flow true mayStartKey rest
    else (c :: rest, mayStartKey)

/-- Whether a plain scalar may start with `c` before `rest`. -/
def startsPlain (flow : Bool) (c : Char) (rest : List Char) : Bool :=
  !("-?:,[]\x7b\x7d#&*!|>'\"%@`".toList.contains c || isSpace c || isBreak c) ||
    (!endsWord rest && (c = '-' || (!flow && (c = '?' || c = ':'))))

/-! ### The tokens -/

/-- A token outside all block collections. -/
def readOutside (r : Reader) (token : Except Fault (Token × List Char)) : Except Fault Reader := do
  let r ← (r.closeTo (-1)).dropPending
  let (t, rest) ← token
  return { r with mayStartKey := false }.take t rest

/-- The start of a flow collection. -/
def openFlow (t : Token) (rest : List Char) (r : Reader) : Except Fault Reader := do
  let r ← r.savePending
  return { r with mayStartKey := true, pending := none, outer := r.pending :: r.outer }.take t rest

/-- The end of a flow collection. -/
def closeFlow (t : Token) (rest : List Char) (r : Reader) : Except Fault Reader := do
  let r ← r.dropPending
  match r.outer with
  | [] => throw .malformed
  | k :: outer =>
    return { r with mayStartKey := false, pending := k, outer }.take t rest

/-- The sign between the entries of a flow collection. -/
def readFlowEntry (rest : List Char) (r : Reader) : Except Fault Reader := do
  let r ← r.dropPending
  return { r with mayStartKey := true }.take .flowEntry rest

/-- Starts a block collection at the current column, unless one is there already. -/
def openBlock (start : Token) (r : Reader) : Except Fault Reader :=
  if r.inFlow then .ok r
  else if !r.mayStartKey then .error .malformed
  else if r.opensAt r.cursor.column then
    .ok { r with indents := r.cursor.column :: r.indents, tokens := start :: r.tokens }
  else .ok r

/-- The sign of an entry of a block sequence. -/
def readBlockEntry (rest : List Char) (r : Reader) : Except Fault Reader := do
  let r ← (← r.openBlock .blockSequence).dropPending
  return { r with mayStartKey := true }.take .blockEntry rest

/-- The sign of a key. -/
def readKey (rest : List Char) (r : Reader) : Except Fault Reader := do
  let r ← (← r.openBlock .blockMapping).dropPending
  return { r with mayStartKey := !r.inFlow }.take .key rest

/-- The sign of a value. A pending key turns out to be one. -/
def readValue (rest : List Char) (r : Reader) : Except Fault Reader :=
  match r.pending with
  | some k =>
    let r := { r.putAt k.place .key with pending := none, mayStartKey := false }
    let r :=
      if !r.inFlow && r.opensAt k.column then
        { r.putAt k.place .blockMapping with indents := k.column :: r.indents }
      else r
    .ok (r.take .value rest)
  | none => do
    let r ← r.openBlock .blockMapping
    return { r with mayStartKey := !r.inFlow }.take .value rest

/-- A token that may start a key. -/
def readNode (r : Reader) (token : Except Fault (Token × List Char)) : Except Fault Reader := do
  let r ← r.savePending
  let (t, rest) ← token
  return { r with mayStartKey := false }.take t rest

/-- A block scalar. -/
def readBlock (folded : Bool) (rest : List Char) (r : Reader) : Except Fault Reader := do
  let r ← r.dropPending
  let (text, rest) ← block folded (max 1 (r.indent + 1).toNat) rest
  return { r with mayStartKey := true }.take (.scalar text false) rest

/-- A plain scalar. -/
def readPlain (s : List Char) (r : Reader) : Except Fault Reader := do
  let r ← r.savePending
  let p := plain r.inFlow (r.indent + 1) s
  return { r with mayStartKey := p.atLine }.take (.scalar (.ofChars p.text) true) p.rest

/-- Reads the token that starts with `c`. -/
def read (c : Char) (rest : List Char) (r : Reader) : Except Fault Reader :=
  let atStart := r.cursor.column = 0
  let signEnds := r.inFlow || endsWord rest
  if atStart ∧ c = '%' then r.readOutside (directiveToken rest)
  else if atStart ∧ startsTriple '-' (c :: rest) then
    r.readOutside (.ok (.documentStart, rest.drop 2))
  else if atStart ∧ startsTriple '.' (c :: rest) then
    r.readOutside (.ok (.documentEnd, rest.drop 2))
  else if c = '[' then r.openFlow .flowSequence rest
  else if c = '\x7b' then r.openFlow .flowMapping rest
  else if c = ']' then r.closeFlow .flowSequenceEnd rest
  else if c = '\x7d' then r.closeFlow .flowMappingEnd rest
  else if c = ',' then r.readFlowEntry rest
  else if c = '-' ∧ endsWord rest then r.readBlockEntry rest
  else if c = '?' ∧ signEnds then r.readKey rest
  else if c = ':' ∧ signEnds then r.readValue rest
  else if c = '*' then
    r.readNode ((anchorName rest).map fun (name, rest) => (.reference name, rest))
  else if c = '&' then
    r.readNode ((anchorName rest).map fun (name, rest) => (.anchor name, rest))
  else if c = '!' then r.readNode (tagToken rest)
  else if c = '|' ∧ !r.inFlow then r.readBlock false rest
  else if c = '>' ∧ !r.inFlow then r.readBlock true rest
  else if c = '\'' then
    r.readNode ((singleQuoted rest).map fun (text, rest) => (.scalar text false, rest))
  else if c = '"' then
    r.readNode ((doubleQuoted rest).map fun (text, rest) => (.scalar text false, rest))
  else if startsPlain r.inFlow c rest then r.readPlain (c :: rest)
  else .error .malformed

/-- Moves to the next token. -/
def toNext (r : Reader) : Reader :=
  let (rest, mayStartKey) := skip r.inFlow false r.mayStartKey r.cursor.rest
  { r with cursor := r.cursor.moveTo rest, mayStartKey }

/-- The tokens to which nothing can be put in any more: those in front of all pending keys. -/
def settled (r : Reader) : List Token :=
  let isFresh (k : PendingKey) : Bool :=
    k.line = r.cursor.line && r.cursor.index - k.index ≤ maxKeyLength
  let places := ((r.pending :: r.outer).filterMap id).filter isFresh |>.map (·.place)
  r.tokens.reverse.take (places.foldl min r.tokens.length)

/-- Whether the token that starts a text cannot be told without looking behind the text. A line may
start a document, which takes four characters to see. -/
def startsShort (column : Nat) (s : List Char) : Bool :=
  s.length < 2 || column = 0 && isShortMark s
where
  /-- Whether a text may be the start of a mark of documents and is too short to be one. -/
  isShortMark (s : List Char) : Bool :=
    match s with
    | c :: d :: rest =>
      (c = '-' || c = '.') && (rest.isEmpty || rest = [c] && d = c)
    | _ => true

/-- Whether a scalar in front of `after` looks behind the text: for what follows a colon, or whether
its last line marks a document. -/
def endsShort (scalar after : List Char) : Bool :=
  let line := (scalar.reverse.takeWhile (!isBreak ·)).reverse ++ after
  let isTriple := line = ['-', '-', '-'] || line = ['.', '.', '.']
  after.isEmpty || after = [':'] || scalar.any isBreak && (line.length < 3 || isTriple)

/-- Whether the last token, which is all of `s` but `after`, looks behind the text. A block goes on
or ends with the first character of a line that is no space. -/
def looksBehind (t : Option Token) (s after : List Char) : Bool :=
  match t with
  | some (.scalar _ _) =>
    if s.head? = some '|' ∨ s.head? = some '>' then after.all (· = ' ')
    else endsShort (s.take (s.length - after.length)) after
  | _ => after.isEmpty

/-- Reads on: all tokens if the stream is at its end, otherwise the reader behind the next token. A
stream that breaks off has an `ending`, which is the fault of whatever looks at what would follow.
-/
def step (ending : Option Fault) (r : Reader) : Except Fault (List Token ⊕ Reader) := do
  let ahead := (← r.dropStale).toNext
  match ahead.cursor.rest, ending with
  | [], some f => throw f
  | [], none => return .inl (← ((← ahead.dropStale).closeTo (-1)).dropPending).tokens.reverse
  | c :: rest, _ =>
    let ahead ← ahead.dropStale
    if let some f := ending then
      if startsShort ahead.cursor.column (c :: rest) then throw f
    match (ahead.closeTo ahead.cursor.column).read c rest with
    | .error f => throw (f.settle ending)
    | .ok next =>
      if let some f := ending then
        if looksBehind next.tokens.head? (c :: rest) next.cursor.rest then throw f
      return .inr next

/-- All tokens of the stream. Each takes some of the characters, which ends the loop. -/
def run (ending : Option Fault) (r : Reader) : Tokens :=
  match r.step ending with
  | .error f => ⟨r.settled, some f⟩
  | .ok (.inl tokens) => ⟨tokens, none⟩
  | .ok (.inr next) =>
    if _h : next.cursor.rest.length < r.cursor.rest.length then run ending next
    else ⟨r.settled, some .malformed⟩
termination_by r.cursor.rest.length

end Reader

/-- The characters of a stream that can be looked at, and the fault of looking further. -/
structure Supply where
  text : List Char
  ending : Option Fault

namespace Supply

/-- How many characters are looked at before the character at a place. The first two portions are
looked at together, and later every portion by itself. -/
def loadedBefore (place : Nat) : Nat :=
  let size := Text.Intake.portionSize
  if place < 2 * size then 0 else place / size * size

/-- The supply of a text that a fault may end. A character that must not occur is a fault of all the
characters that are looked at together with it. -/
def ofText (text : List Char) (ending : Option Fault) : Supply :=
  let text := if ending.isSome then text.take (loadedBefore text.length) else text
  let allowed := (text.takeWhile isAllowed).length
  if allowed < text.length then ⟨text.take (loadedBefore allowed), some .malformed⟩
  else ⟨text, ending⟩

/-- The supply of a file that was read in portions. -/
def ofPortions (portions : List Char × Option Text.Torn) : Supply :=
  ofText portions.1 (portions.2.map .undecodable)

end Supply

/-- The tokens of a stream. A byte order mark in front does not count. -/
def Tokens.ofSupply (s : Supply) : Tokens :=
  let start : Cursor := ⟨s.text, 0, 0, 0⟩
  let cursor :=
    match s.text with
    | c :: rest => if c = '\ufeff' then start.moveTo rest else start
    | [] => start
  Reader.run s.ending ⟨cursor, [], [], true, none, []⟩

end ImportLint.Yaml
