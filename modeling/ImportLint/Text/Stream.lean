import ImportLint.Text.Quoted

/-!
# Streams for texts

A stream takes texts one after the other and writes them in its encoding. A text with a code point
that the encoding does not have is refused as a whole, and so is everything after it.
-/

namespace ImportLint

/-- A stream for texts: the name of its encoding, which code points the encoding has, and what is
said of the others. -/
structure TextStream where
  encoding : String
  takes : CodePoint → Bool
  reason : String

/-- Why a text was refused: the first run of code points that the encoding does not have, by its
first code point, its place in the text and its length. -/
structure WriteFault where
  encoding : String
  reason : String
  first : CodePoint
  place : Nat
  length : Nat
  deriving DecidableEq, Repr

/-- A code point by its number. -/
def CodePoint.code (p : CodePoint) : String :=
  if p.toNat < 0x100 then "\\x" ++ String.ofList (Text.hexDigits 2 p.toNat)
  else if p.toNat < 0x10000 then "\\u" ++ String.ofList (Text.hexDigits 4 p.toNat)
  else "\\U" ++ String.ofList (Text.hexDigits 8 p.toNat)

/-- A text for a stream that refuses nothing: half of a pair is shown by its number. -/
def CodeText.shown (s : CodeText) : String :=
  String.join (s.map fun
    | .char c => c.toString
    | .half i => (CodePoint.half i).code)

/-- The wording of a refusal. -/
def WriteFault.message (f : WriteFault) : String :=
  let what :=
    if f.length = 1 then
      "character '" ++ f.first.code ++ "' in position " ++ toString f.place
    else
      "characters in position " ++ toString f.place ++ "-" ++ toString (f.place + f.length - 1)
  "'" ++ f.encoding ++ "' codec can't encode " ++ what ++ ": " ++ f.reason

namespace TextStream

/-- The stream that takes every character, and no half of a pair. -/
def utf8 : TextStream where
  encoding := "utf-8"
  takes
    | .char _ => true
    | .half _ => false
  reason := "surrogates not allowed"

/-- Why a stream refuses a text, if it does. -/
def fault? (s : TextStream) (text : CodeText) : Option WriteFault :=
  match text.dropWhile s.takes with
  | [] => none
  | p :: rest =>
    some {
      encoding := s.encoding
      reason := s.reason
      first := p
      place := (text.takeWhile s.takes).length
      length := (rest.takeWhile fun q => !s.takes q).length + 1 }

/-- Writes texts one after the other. -/
def write (s : TextStream) : List CodeText → Except WriteFault CodeText
  | [] => .ok []
  | text :: rest =>
    match s.fault? text with
    | some fault => .error fault
    | none => (s.write rest).map (text ++ ·)

/-- Writes texts one after the other, each with a line end behind it. -/
def print (s : TextStream) (texts : List CodeText) : Except WriteFault CodeText :=
  s.write (texts.flatMap fun text => [text, [.char '\n']])

end TextStream

end ImportLint
