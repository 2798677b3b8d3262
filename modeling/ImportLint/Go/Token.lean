import ImportLint.Go.Lexeme
import ImportLint.Text.Position

/-!
# Tokens of Go source text

A token is a lexeme that the grammar sees, with its place. Line ends are no tokens of their own, but
one ends a statement after a token that can end one: then a semicolon is inserted there. The tokens
of a text are given as a stream that ends at the end of the text or at the first place where no
lexeme can be read, so that a reader meets the faults of a file in the order of the text.
-/

namespace ImportLint.Go

/-- What the grammar sees of a token. -/
inductive Symbol
  | ident (name : String)
  | keyword (word : String)
  /-- A string literal, between backquotes when `raw`. -/
  | string (raw : Bool) (body : String)
  /-- A number or a rune literal. -/
  | literal (text : String)
  | punct (c : Char)
  | operator (c : Char)
  | semicolon
  /-- A semicolon that is not written: the line ends a statement. -/
  | lineEnd
  deriving DecidableEq, Repr

/-- A symbol and its place. -/
structure Token where
  symbol : Symbol
  pos : Position
  deriving DecidableEq, Repr

/-- The tokens of a text, in order, up to its end or its first fault. -/
inductive Stream
  | token (t : Token) (rest : Stream)
  | finish (pos : Position)
  | fault (cause : LexFault) (pos : Position)
  deriving DecidableEq, Repr

/-- The reserved words. -/
def keywords : List String :=
  ["break", "case", "chan", "const", "continue", "default", "defer", "else", "fallthrough", "for",
   "func", "go", "goto", "if", "import", "interface", "map", "package", "range", "return",
   "select", "struct", "switch", "type", "var"]

/-- The reserved words after which a line end ends the statement. -/
def endingKeywords : List String := ["break", "continue", "fallthrough", "return"]

/-- Whether a line end after the symbol ends the statement. -/
def Symbol.endsStatement : Symbol → Bool
  | .ident _ | .string _ _ | .literal _ => true
  | .keyword w => endingKeywords.contains w
  | .punct c => c = ')'
  | .operator c => c = ']' || c = '}'
  | .semicolon | .lineEnd => false

/-- The symbol that a word is. -/
def Symbol.ofWord (w : String) : Symbol := if keywords.contains w then .keyword w else .ident w

/-- The symbol that the grammar sees of a lexeme; none for blanks, line ends and comments. -/
def Lexeme.symbol? : Lexeme → Option Symbol
  | .blank _ | .newline | .lineComment _ | .blockComment _ => none
  | .string body => some (.string false (String.ofList body))
  | .rawString body => some (.string true (String.ofList body))
  | .rune body => some (.literal (String.ofList (Lexeme.rune body).text))
  | .word text => some (Symbol.ofWord (String.ofList text))
  | .number text => some (.literal (String.ofList text))
  | .semicolon => some .semicolon
  | .punct c => some (.punct c)
  | .operator c => some (.operator c)

/-- Whether a lexeme that is no symbol holds a line end. -/
def Lexeme.breaksLine : Lexeme → Bool
  | .newline => true
  | .blockComment body => body.contains '\n'
  | _ => false

/-- The tokens of a text that starts at `pos`, after a token that can end a statement (`ending`) or
after one that cannot. -/
def Stream.ofCharsFrom (ending : Bool) (pos : Position) (s : List Char) : Stream :=
  match s with
  | [] => if ending then .token ⟨.lineEnd, pos⟩ (.finish pos) else .finish pos
  | c :: rest =>
    match _h : Lexeme.read c rest with
    | .error cause => .fault cause pos
    | .ok (l, r) =>
      match l.symbol? with
      | some sym => .token ⟨sym, pos⟩ (ofCharsFrom sym.endsStatement (pos.advanceBy l.text) r)
      | none =>
        if ending && l.breaksLine then
          .token ⟨.lineEnd, pos⟩ (ofCharsFrom false (pos.advanceBy l.text) r)
        else ofCharsFrom ending (pos.advanceBy l.text) r
termination_by s.length
decreasing_by all_goals exact Lexeme.length_of_read _h

/-- The byte order mark, which may stand at the start of a text. -/
def byteOrderMark : Char := '﻿'

/-- The tokens of a text. A byte order mark at its start is passed over. -/
def Stream.ofChars (s : List Char) : Stream :=
  match s with
  | [] => ofCharsFrom false .start []
  | c :: rest =>
    if c = byteOrderMark then ofCharsFrom false (Position.start.advance c) rest
    else ofCharsFrom false .start s

/-- The number of tokens of a stream. -/
def Stream.length : Stream → Nat
  | .token _ rest => rest.length + 1
  | .finish _ => 0
  | .fault _ _ => 0

/-- The tokens of a stream. -/
def Stream.toList : Stream → List Token
  | .token t rest => t :: rest.toList
  | .finish _ => []
  | .fault _ _ => []

/-- How a stream ends: at the end of the text, or at a fault. -/
def Stream.ending : Stream → Except LexFault Unit × Position
  | .token _ rest => rest.ending
  | .finish pos => (.ok (), pos)
  | .fault cause pos => (.error cause, pos)

/-! ### Wording -/

/-- The text of a symbol as it is written. -/
def Symbol.text : Symbol → String
  | .ident name => name
  | .keyword word => word
  | .string raw body =>
    let q := if raw then "`" else "\""
    q ++ body ++ q
  | .literal text => text
  | .punct c => c.toString
  | .operator c => c.toString
  | .semicolon => ";"
  | .lineEnd => "\n"

/-- How a message names a symbol. -/
def Symbol.describe : Symbol → String
  | .lineEnd => "newline"
  | .ident name => name
  | .string raw body => Symbol.text (.string raw body)
  | .literal text => text
  | sym => "'" ++ sym.text ++ "'"

/-- The wording of a lexical fault. A character is named by its code, of at least four digits. -/
def LexFault.message : LexFault → String
  | .openComment => "comment not terminated"
  | .openString => "string literal not terminated"
  | .openRawString => "raw string literal not terminated"
  | .emptyRune => "empty rune literal or unescaped ' in rune literal"
  | .openRune => "rune literal not terminated"
  | .illegal c =>
    let ds := (Nat.toDigits 16 c.toNat).map Char.toUpper
    let code := String.ofList (List.replicate (4 - ds.length) '0' ++ ds)
    "illegal character U+" ++ code ++ " '" ++ c.toString ++ "'"

end ImportLint.Go
