import ImportLint.Text.CodePoint
import ImportLint.Text.Printable

/-!
# Quoted text

How a text is shown inside a message: between single quotes, or between double quotes when it holds
a single quote and no double one. The quote, the backslash and the line controls are escaped by a
backslash, other characters that cannot be shown by their code.
-/

namespace ImportLint.Text

/-- The digit of value `n` in bases up to sixteen. -/
def hexDigit (n : Nat) : Char :=
  if n < 10 then Char.ofNat (48 + n) else Char.ofNat (87 + n)

/-- The last `width` hexadecimal digits of `n`. -/
def hexDigits : Nat → Nat → List Char
  | 0, _ => []
  | width + 1, n => hexDigits width (n / 16) ++ [hexDigit (n % 16)]

namespace Quoted

/-- The quote that a text is put between. -/
def quoteFor (s : CodeText) : Char :=
  if s.contains (.char '\'') && !s.contains (.char '"') then '"' else '\''

/-- A character as it stands between the quotes `q`. -/
def escape (q c : Char) : List Char :=
  if c = q ∨ c = '\\' then ['\\', c]
  else if c = '\n' then ['\\', 'n']
  else if c = '\r' then ['\\', 'r']
  else if c = '\t' then ['\\', 't']
  else if isPrintable c then [c]
  else if c.toNat < 0x100 then '\\' :: 'x' :: hexDigits 2 c.toNat
  else if c.toNat < 0x10000 then '\\' :: 'u' :: hexDigits 4 c.toNat
  else '\\' :: 'U' :: hexDigits 8 c.toNat

/-- A code point as it stands between the quotes `q`. Half of a pair is shown by its code. -/
def escapePoint (q : Char) : CodePoint → List Char
  | .char c => escape q c
  | .half i => '\\' :: 'u' :: hexDigits 4 (CodePoint.half i).toNat

/-- A text between its quotes. -/
def encode (s : CodeText) : List Char :=
  let q := quoteFor s
  q :: s.flatMap (escapePoint q) ++ [q]

/-- A byte as it stands between the quotes `q`: as an ASCII character, or by its code. -/
def escapeByte (q : Char) (b : UInt8) : List Char :=
  if b < 0x7F then escape q (Char.ofNat b.toNat) else '\\' :: 'x' :: hexDigits 2 b.toNat

/-- Bytes between their quotes, with the mark of bytes in front. -/
def encodeBytes (bytes : List UInt8) : List Char :=
  let q := quoteFor (bytes.map fun b => .char (Char.ofNat b.toNat))
  'b' :: q :: bytes.flatMap (escapeByte q) ++ [q]

end Quoted

/-- A text between its quotes, as it is shown. -/
def quoted (s : CodeText) : String := String.ofList (Quoted.encode s)

/-- Bytes between their quotes. -/
def quotedBytes (bytes : List UInt8) : String := String.ofList (Quoted.encodeBytes bytes)

end ImportLint.Text
