import ImportLint.Text.Quoted

/-!
# JSON strings

Writing a text as a JSON string with ASCII characters only, and reading a JSON string back. The
reader is strict: control characters stand for nothing. Two escapes that are the halves of a
surrogate pair stand for one character; a half that is alone stays a half.
-/

namespace ImportLint.Text.JsonString

/-- A code unit as a four-digit escape. -/
def unit (n : Nat) : List Char := '\\' :: 'u' :: hexDigits 4 n

/-- A character as it stands inside a JSON string. -/
def escape (c : Char) : List Char :=
  if c = '"' then ['\\', '"']
  else if c = '\\' then ['\\', '\\']
  else if c = '\n' then ['\\', 'n']
  else if c = '\r' then ['\\', 'r']
  else if c = '\t' then ['\\', 't']
  else if c = '\x08' then ['\\', 'b']
  else if c = '\x0C' then ['\\', 'f']
  else if ' ' ≤ c ∧ c ≤ '~' then [c]
  else if c.toNat < 0x10000 then unit c.toNat
  else unit (0xD800 + (c.toNat - 0x10000) / 1024) ++ unit (0xDC00 + (c.toNat - 0x10000) % 1024)

/-- A code point as it stands inside a JSON string. Half of a pair is written as its code unit. -/
def escapePoint : CodePoint → List Char
  | .char c => escape c
  | .half i => unit (CodePoint.half i).toNat

/-- A text as a JSON string, with its quotes. -/
def encode (s : CodeText) : List Char := '"' :: s.flatMap escapePoint ++ ['"']

/-- The value of a hexadecimal digit. -/
def hexValue? (c : Char) : Option Nat :=
  if '0' ≤ c ∧ c ≤ '9' then some (c.toNat - 48)
  else if 'a' ≤ c ∧ c ≤ 'f' then some (c.toNat - 87)
  else if 'A' ≤ c ∧ c ≤ 'F' then some (c.toNat - 55)
  else none

/-- The value of four hexadecimal digits. -/
def hex4? (a b c d : Char) : Option Nat := do
  return (((← hexValue? a) * 16 + (← hexValue? b)) * 16 + (← hexValue? c)) * 16 + (← hexValue? d)

/-- The character that a short escape stands for. -/
def shortEscape? : Char → Option Char
  | '"' => some '"'
  | '\\' => some '\\'
  | '/' => some '/'
  | 'b' => some '\x08'
  | 'f' => some '\x0C'
  | 'n' => some '\n'
  | 'r' => some '\r'
  | 't' => some '\t'
  | _ => none

/-- A code unit in front of a text. The two halves of a pair that meet are one character. -/
def consUnit (n : Nat) : CodeText → CodeText
  | [] => [.ofNat n]
  | p :: rest =>
    if (CodePoint.ofNat n).isFirstHalf && p.isSecondHalf then (CodePoint.ofNat n).join p :: rest
    else .ofNat n :: p :: rest

/-- Reads what follows the opening quote, up to the closing quote, which must end the text. -/
def decodeBody : List Char → Option CodeText
  | ['"'] => some []
  | '\\' :: 'u' :: a :: b :: c :: d :: rest =>
    match hex4? a b c d with
    | none => none
    | some n => (decodeBody rest).map (consUnit n)
  | '\\' :: e :: rest =>
    match shortEscape? e with
    | some c => (decodeBody rest).map (.char c :: ·)
    | none => none
  | c :: rest =>
    if c = '"' ∨ c = '\\' ∨ c < ' ' then none else (decodeBody rest).map (.char c :: ·)
  | [] => none

/-- Reads a JSON string, quotes included. -/
def decode : List Char → Option CodeText
  | '"' :: body => decodeBody body
  | _ => none

end ImportLint.Text.JsonString
