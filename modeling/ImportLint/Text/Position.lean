import ImportLint.Text.Utf8

/-!
# Positions in a text

A position is a line and a column, both counted from one. The column counts the bytes of the UTF-8
encoding, so it can be found again in the raw file. It is told by going over what stands before it,
over its characters or its bytes, or by a table of the offsets at which lines start.
-/

namespace ImportLint

/-- A place in a text: its line, and its column in bytes. -/
structure Position where
  line : Nat
  column : Nat
  deriving DecidableEq, Repr

namespace Position

/-- The place of the first character. -/
def start : Position := ⟨1, 1⟩

/-- The place after one more character. -/
def advance (p : Position) (c : Char) : Position :=
  if c = '\n' then ⟨p.line + 1, 1⟩ else ⟨p.line, p.column + c.utf8Size⟩

/-- The place after a piece of text. -/
def advanceBy (p : Position) (s : List Char) : Position := s.foldl advance p

/-- The place after one more byte. -/
def advanceByte (p : Position) (b : UInt8) : Position :=
  if b = 0x0A then ⟨p.line + 1, 1⟩ else ⟨p.line, p.column + 1⟩

/-- The place after the bytes that stand before it. -/
def ofBytes (bytes : List UInt8) : Position := bytes.foldl advanceByte start

/-- The offsets, in characters, at which the lines of a text start: the first one, and those right
behind a line end. -/
def lineStarts (s : List Char) : List Nat :=
  0 :: (s.zipIdx.filter fun p => p.1 = '\n').map (·.2 + 1)

/-- The place of an offset by the table of line starts: its line is the last one that starts at or
before it, and its column counts the bytes from there. -/
def ofOffset (s : List Char) (o : Nat) : Position :=
  let starts := (lineStarts s).filter (· ≤ o)
  ⟨starts.length, (Text.Utf8.encode ((s.take o).drop (starts.getLastD 0))).length + 1⟩

@[simp] theorem advanceBy_nil (p : Position) : p.advanceBy [] = p := rfl

@[simp] theorem advanceBy_cons (p : Position) (c : Char) (s : List Char) :
    p.advanceBy (c :: s) = (p.advance c).advanceBy s := rfl

theorem advanceBy_append (p : Position) (s t : List Char) :
    p.advanceBy (s ++ t) = (p.advanceBy s).advanceBy t := by
  simp [advanceBy, List.foldl_append]

end Position

end ImportLint
