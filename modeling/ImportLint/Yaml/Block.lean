import ImportLint.Yaml.Token

/-!
# Block scalars

Scalars whose text is an indented block of lines, kept as it is or folded. The header tells what
happens to the line ends behind the text, and may tell the indentation, which is otherwise that of
the first line with text.
-/

namespace ImportLint.Yaml

/-- What happens to the line ends behind the text: all are dropped, one is kept, all are kept. -/
inductive Chomping
  | strip
  | clip
  | keep
  deriving DecidableEq, Repr

/-- The header of a block scalar. -/
structure BlockHeader where
  chomping : Chomping
  indentation : Option Nat

/-- The chomping that a sign asks for. -/
def Chomping.ofSign? (c : Char) : Option Chomping :=
  if c = '+' then some .keep else if c = '-' then some .strip else none

/-- The indentation that a digit asks for. -/
def indentation? (c : Char) : Option Nat :=
  if '0' ≤ c ∧ c ≤ '9' then some (c.toNat - '0'.toNat) else none

/-- The signs behind the start of a block scalar, and the rest: a chomping sign and a digit in
either order, or one of them, or none. -/
def blockSigns (s : List Char) : BlockHeader × List Char :=
  match s with
  | [] => (⟨.clip, none⟩, [])
  | c :: rest =>
    match Chomping.ofSign? c, indentation? c with
    | some chomping, _ =>
      match rest with
      | [] => (⟨chomping, none⟩, [])
      | d :: rest' =>
        match indentation? d with
        | some n => (⟨chomping, some n⟩, rest')
        | none => (⟨chomping, none⟩, rest)
    | none, some n =>
      match rest with
      | [] => (⟨.clip, some n⟩, [])
      | d :: rest' =>
        match Chomping.ofSign? d with
        | some chomping => (⟨chomping, some n⟩, rest')
        | none => (⟨.clip, some n⟩, rest)
    | none, none => (⟨.clip, none⟩, s)

/-- What follows the line whose rest holds spaces and a comment at most. -/
def afterComment (s : List Char) : Except Fault (List Char) :=
  let s := s.dropWhile (· = ' ')
  let s := if s.head? = some '#' then s.dropWhile (!isBreak ·) else s
  match s with
  | [] => .ok []
  | c :: rest => if isBreak c then .ok rest else .error .malformed

/-- The header of a block scalar, and the lines below it. -/
def blockHeader (s : List Char) : Except Fault (BlockHeader × List Char) :=
  let (header, rest) := blockSigns s
  if header.indentation = some 0 ∨ !endsTag rest then .error .malformed
  else (afterComment rest).map fun rest => (header, rest)

/-- A line: its text, its end, which only the last line may lack, and what follows. -/
structure Line where
  text : List Char
  ending : List Char
  after : List Char

/-- The lines of a text; `start` holds the start of the first line, last character first. -/
def linesFrom (start : List Char) : List Char → List Line
  | [] => [⟨start.reverse, [], []⟩]
  | c :: rest =>
    if isBreak c then ⟨start.reverse, [breakChar c], rest⟩ :: linesFrom [] rest
    else linesFrom (c :: start) rest

namespace Line

/-- The number of spaces at the start of a line. -/
def indent (l : Line) : Nat := (l.text.takeWhile (· = ' ')).length

/-- Whether a line holds spaces only. -/
def isBlank (l : Line) : Bool := l.text.all (· = ' ')

/-- The text of a line of a block with an indentation; nothing if the line has no text there. -/
def content? (indent : Nat) (l : Line) : Option (List Char) :=
  if indent ≤ l.indent ∧ indent < l.text.length then some (l.text.drop indent) else none

end Line

/-- The greatest number of spaces at the start of the blank lines and of the first other line. -/
def detectIndent (least : Nat) : List Line → Nat
  | [] => least
  | l :: rest => if l.isBlank then detectIndent (max least l.indent) rest else max least l.indent

/-- The last line with text so far: its end, and whether it starts with no space. -/
structure LastLine where
  ending : List Char
  solid : Bool

/-- Whether a line starts with neither a space nor a tab. -/
def startsSolid (text : List Char) : Bool :=
  match text with
  | [] => true
  | c :: _ => !isSpace c

/-- What stands between two lines with text. In a folded block one end of a line between lines that
start with no space becomes a space. -/
def between (folded : Bool) (last : Option LastLine) (breaks text : List Char) : List Char :=
  match last with
  | none => breaks
  | some l =>
    if folded && l.ending = ['\n'] && l.solid && startsSolid text then
      (if breaks.isEmpty then [' '] else breaks)
    else l.ending ++ breaks

/-- What stands behind the last line with text. -/
def chomped (chomping : Chomping) (last : Option LastLine) (breaks : List Char) : List Char :=
  let ending := (last.map (·.ending)).getD []
  match chomping with
  | .strip => []
  | .clip => ending
  | .keep => ending ++ breaks

/-- The text of a block, and what follows it: `here` is the text from the start of the first of the
lines, `breaks` the line ends since the last line with text. -/
def blockText (folded : Bool) (chomping : Chomping) (indent : Nat) (last : Option LastLine)
    (breaks : List Char) (here : List Char) : List Line → List Char × List Char
  | [] => (chomped chomping last breaks, here)
  | l :: rest =>
    match l.content? indent with
    | some text =>
      let (more, after) :=
        blockText folded chomping indent (some ⟨l.ending, startsSolid text⟩) [] l.after rest
      (between folded last breaks text ++ text ++ more, after)
    | none =>
      if l.isBlank && !l.ending.isEmpty then
        blockText folded chomping indent last (breaks ++ l.ending) l.after rest
      else (chomped chomping last breaks, here)

/-- The text of a block scalar, from behind its first sign, and what follows. The lines have to be
indented by `least` at least. -/
def block (folded : Bool) (least : Nat) (s : List Char) : Except Fault (CodeText × List Char) := do
  let (header, rest) ← blockHeader s
  let lines := linesFrom [] rest
  let indent :=
    match header.indentation with
    | some n => least + n - 1
    | none => detectIndent least lines
  let (text, after) := blockText folded header.chomping indent none [] rest lines
  return (.ofChars text, after)

end ImportLint.Yaml
