import ImportLint.Text.JsonString
import ImportLint.Yaml.Token

/-!
# Quoted scalars

Scalars between single or double quotes. They may run over several lines: spaces around the end of a
line do not count, one end of a line becomes a space, and each further one stays. The characters are
first read as pieces, in which escapes are resolved, and the pieces are then folded.
-/

namespace ImportLint.Yaml

/-- A piece of a quoted scalar. -/
inductive Piece
  /-- A code point that is kept. -/
  | solid (p : CodePoint)
  /-- A space or a tab, which may stand at the end or the start of a line. -/
  | space (c : Char)
  /-- The end of a line. -/
  | lineEnd (c : Char)
  /-- The end of a line behind a backslash, which leaves no trace. -/
  | joint
  deriving DecidableEq, Repr

/-- What was passed over since the last code point that is kept. -/
inductive Gap
  | empty
  | spaces (s : List Char)
  /-- Line ends: the first, unless it was escaped, and the further ones. -/
  | lines (first : Option Char) (more : List Char)
  deriving DecidableEq, Repr

/-- What a gap between line ends leaves in the text. -/
def foldBreaks (first : Char) (more : List Char) : List Char :=
  if first ≠ '\n' then first :: more else if more.isEmpty then [' '] else more

/-- What a gap leaves in the text. -/
def Gap.text : Gap → CodeText
  | .empty => []
  | .spaces s => .ofChars s
  | .lines (some first) more => .ofChars (foldBreaks first more)
  | .lines none more => .ofChars more

/-- The text of pieces that come after a gap. -/
def foldPieces : Gap → List Piece → CodeText
  | gap, [] => gap.text
  | gap, .solid p :: rest => gap.text ++ p :: foldPieces .empty rest
  | .empty, .space c :: rest => foldPieces (.spaces [c]) rest
  | .spaces s, .space c :: rest => foldPieces (.spaces (s ++ [c])) rest
  | .lines first more, .space _ :: rest => foldPieces (.lines first more) rest
  | .lines first more, .lineEnd c :: rest => foldPieces (.lines first (more ++ [c])) rest
  | _, .lineEnd c :: rest => foldPieces (.lines (some c) []) rest
  | gap, .joint :: rest => gap.text ++ foldPieces (.lines none []) rest

/-- The piece of a character that is neither a quote nor a backslash. -/
def Piece.ofChar (c : Char) : Piece :=
  if isSpace c then .space c else if isBreak c then .lineEnd (breakChar c) else .solid (.char c)

/-- Puts a piece in front of pieces. -/
def consPiece (p : Piece) (r : Except Fault (List Piece × List Char)) :
    Except Fault (List Piece × List Char) :=
  r.map fun (ps, rest) => (p :: ps, rest)

/-- The fault of a mark of documents inside quotes, which `s` starts with. A mark that ends the text
may still turn out to be none. -/
def markFault (s : List Char) : Fault := if s.length = 3 then .cut .malformed else .malformed

/-- The pieces up to the closing single quote, and what follows it. A quote is written twice. -/
def singlePieces : List Char → Except Fault (List Piece × List Char)
  | [] => .error (.cut .malformed)
  | c :: rest =>
    if c = '\'' then
      match rest with
      | d :: rest' =>
        if d = '\'' then consPiece (.solid (.char '\'')) (singlePieces rest') else .ok ([], rest)
      | [] => .ok ([], [])
    else if isBreak c && marksDocument rest then .error (markFault rest)
    else consPiece (.ofChar c) (singlePieces rest)

/-- The characters that a letter behind a backslash stands for. -/
def escapes : List (Char × Char) := [
  ('0', '\x00'), ('a', '\x07'), ('b', '\x08'), ('t', '\t'), ('\t', '\t'), ('n', '\n'),
  ('v', '\x0b'), ('f', '\x0c'), ('r', '\r'), ('e', '\x1b'), (' ', ' '), ('"', '"'), ('\\', '\\'),
  ('/', '/'), ('N', '\x85'), ('_', '\xa0'), ('L', '\u2028'), ('P', '\u2029')]

/-- The number that hexadecimal digits spell. -/
def hexNumber (ds : List Char) : Option Nat :=
  ds.foldlM (fun n c => (Text.JsonString.hexValue? c).map (n * 16 + ·)) 0

/-- The code point of a number, which may be half of a surrogate pair. -/
def pointAt (n : Nat) : Except Fault CodePoint :=
  if n < 0x110000 then .ok (.ofNat n) else .error (.codePoint n)

/-- The code point that an escape with hexadecimal digits stands for. Two halves of a pair stay two
code points. -/
def hexEscape (ds : List Char) : Except Fault CodePoint :=
  match hexNumber ds with
  | none => .error .malformed
  | some n => pointAt n

/-- Why an escape is refused when the stream ends inside its digits. -/
def shortEscape (ds : List Char) : Fault :=
  if (hexNumber ds).isNone then .malformed else .cut .malformed

/-- Puts an escaped code point in front of pieces, if there is one. -/
def consEscaped (p : Except Fault CodePoint) (r : Except Fault (List Piece × List Char)) :
    Except Fault (List Piece × List Char) :=
  p.bind fun p => consPiece (.solid p) r

/-- The pieces up to the closing double quote, and what follows it. -/
def doublePieces : List Char → Except Fault (List Piece × List Char)
  | [] => .error (.cut .malformed)
  | c :: rest =>
    if c = '"' then .ok ([], rest)
    else if c = '\\' then
      match rest with
      | [] => .error (.cut .malformed)
      | e :: rest =>
        match escapes.lookup e with
        | some d => consPiece (.solid (.char d)) (doublePieces rest)
        | none =>
          if e = 'x' then
            match rest with
            | a :: b :: rest => consEscaped (hexEscape [a, b]) (doublePieces rest)
            | ds => .error (shortEscape ds)
          else if e = 'u' then
            match rest with
            | a :: b :: c :: d :: rest => consEscaped (hexEscape [a, b, c, d]) (doublePieces rest)
            | ds => .error (shortEscape ds)
          else if e = 'U' then
            match rest with
            | a :: b :: c :: d :: a' :: b' :: c' :: d' :: rest =>
              consEscaped (hexEscape [a, b, c, d, a', b', c', d']) (doublePieces rest)
            | ds => .error (shortEscape ds)
          else if !isBreak e then .error .malformed
          else if marksDocument rest then .error (markFault rest)
          else consPiece .joint (doublePieces rest)
    else if isBreak c && marksDocument rest then .error (markFault rest)
    else consPiece (.ofChar c) (doublePieces rest)

/-- The text of a scalar between single quotes, from behind the first quote, and what follows. -/
def singleQuoted (s : List Char) : Except Fault (CodeText × List Char) :=
  (singlePieces s).map fun (ps, rest) => (foldPieces .empty ps, rest)

/-- The text of a scalar between double quotes, from behind the first quote, and what follows. -/
def doubleQuoted (s : List Char) : Except Fault (CodeText × List Char) :=
  (doublePieces s).map fun (ps, rest) => (foldPieces .empty ps, rest)

end ImportLint.Yaml
