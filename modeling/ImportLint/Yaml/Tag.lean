import ImportLint.Number.Literal
import ImportLint.Text.JsonString
import ImportLint.Text.Utf8
import ImportLint.Yaml.Block

/-!
# Tags and directives

How the tokens for tags, anchors, aliases and directives are spelled. All functions read from behind
the sign that starts the token.
-/

namespace ImportLint.Yaml

/-- Whether a character may occur in a tag. -/
def isUriChar (c : Char) : Bool :=
  isNameChar c || "-;/?:@&=+$,_.!~*'()[]%".toList.contains c

/-- The bytes of a tag, in which a percent sign and two hexadecimal digits stand for a byte. `last`
tells that the stream ends behind the tag. -/
def uriBytes (last : Bool) : List Char → Except Fault (List UInt8)
  | [] => .ok []
  | c :: rest =>
    if c = '%' then
      match rest with
      | a :: b :: rest =>
        match hexPair a b with
        | some n => (uriBytes last rest).map (n.toUInt8 :: ·)
        | none => .error .malformed
      | short =>
        let isHex (c : Char) : Bool := (Text.JsonString.hexValue? c).isSome
        .error (if last && short.all isHex then .cut .malformed else .malformed)
    else (uriBytes last rest).map (c.toNat.toUInt8 :: ·)
where
  /-- The number of two hexadecimal digits. -/
  hexPair (a b : Char) : Option Nat := do
    return (← Text.JsonString.hexValue? a) * 16 + (← Text.JsonString.hexValue? b)

/-- A tag or the start of one, and what follows. -/
def uri (s : List Char) : Except Fault (String × List Char) := do
  let spelled := s.takeWhile isUriChar
  let rest := s.dropWhile isUriChar
  if spelled.isEmpty then throw (if rest.isEmpty then .cut .malformed else .malformed)
  match Text.Utf8.decode (← uriBytes rest.isEmpty spelled) with
  | .error _ => throw .malformed
  | .ok text => return (String.ofList text, rest)

/-- A handle, and what follows: one exclamation mark before a space, otherwise two with a name
between them. -/
def tagHandle (s : List Char) : Except Fault (String × List Char) :=
  match s with
  | c :: rest =>
    if c ≠ '!' then .error .malformed
    else if rest.head? = some ' ' then .ok ("!", rest)
    else
      let name := rest.takeWhile isNameChar
      match rest.dropWhile isNameChar with
      | d :: after =>
        if d = '!' then .ok ("!" ++ String.ofList name ++ "!", after) else .error .malformed
      | [] => .error (.cut .malformed)
  | [] => .error (.cut .malformed)

/-- The parts of a tag, and what follows. -/
def tagParts (s : List Char) : Except Fault ((Option String × String) × List Char) :=
  match s with
  | [] => .ok ((none, "!"), [])
  | c :: rest =>
    if c = '<' then do
      let (text, after) ← uri rest
      match after with
      | d :: after => if d = '>' then return ((none, text), after) else throw .malformed
      | [] => throw (.cut .malformed)
    else if endsWord s then .ok ((none, "!"), s)
    else if (s.takeWhile fun d => d ≠ ' ' && !isBreak d).contains '!' then do
      let (handle, after) ← tagHandle ('!' :: s)
      let (suffix, after) ← uri after
      return ((some handle, suffix), after)
    else do
      let (suffix, after) ← uri s
      return ((some "!", suffix), after)

/-- Whether a tag is looked through up to the end of the stream, for a mark that ends a handle. -/
def looksThrough (s : List Char) : Bool :=
  s.head? ≠ some '<' && !endsWord s && s.all fun c => c ≠ '!' && c ≠ ' ' && !isBreak c

/-- The token of a tag, from behind its exclamation mark, and what follows. -/
def tagToken (s : List Char) : Except Fault (Token × List Char) :=
  let token : Except Fault (Token × List Char) := do
    let ((handle, suffix), rest) ← tagParts s
    if endsTag rest then return (.tag handle suffix, rest) else throw .malformed
  if looksThrough s then token.mapError .cut else token

/-- The name of an anchor or an alias, and what follows. -/
def anchorName (s : List Char) : Except Fault (String × List Char) :=
  let name := s.takeWhile isNameChar
  let rest := s.dropWhile isNameChar
  let ends :=
    endsWord rest ||
      match rest with
      | c :: _ => "?:,]\x7d%@`".toList.contains c
      | [] => true
  if name.isEmpty && rest.isEmpty then .error (.cut .malformed)
  else if name.isEmpty || !ends then .error .malformed
  else .ok (String.ofList name, rest)

/-- A number without sign, and what follows. -/
def versionNumber (s : List Char) : Except Fault (Nat × List Char) :=
  let digits := s.takeWhile Char.isDigit
  let rest := s.dropWhile Char.isDigit
  if digits.isEmpty then .error (if rest.isEmpty then .cut .malformed else .malformed)
  else if Number.maxDigits < digits.length then
    let fault := .longInteger digits.length
    .error (if rest.isEmpty then .cut fault else fault)
  else .ok (digits.foldl (fun n c => n * 10 + (c.toNat - '0'.toNat)) 0, rest)

/-- The version that a directive gives, and what follows. -/
def versionDirective (s : List Char) : Except Fault (Directive × List Char) := do
  let (major, rest) ← versionNumber (s.dropWhile (· = ' '))
  match rest with
  | c :: rest =>
    if c ≠ '.' then throw .malformed
    let (_, rest) ← versionNumber rest
    if endsTag rest then return (.version major, rest) else throw .malformed
  | [] => throw (.cut .malformed)

/-- The handle that a directive gives, and what follows. -/
def handleDirective (s : List Char) : Except Fault (Directive × List Char) := do
  let (handle, rest) ← tagHandle (s.dropWhile (· = ' '))
  if rest.isEmpty then throw (.cut .malformed)
  if rest.head? ≠ some ' ' then throw .malformed
  let (text, rest) ← uri (rest.dropWhile (· = ' '))
  if endsTag rest then return (.handle handle text, rest) else throw .malformed

/-- The token of a directive, from behind its percent sign, and the lines below. -/
def directiveToken (s : List Char) : Except Fault (Token × List Char) := do
  let name := String.ofList (s.takeWhile isNameChar)
  let rest := s.dropWhile isNameChar
  if name.isEmpty && rest.isEmpty then throw (.cut .malformed)
  if name.isEmpty || !endsTag rest then throw .malformed
  let (directive, rest) ←
    if name = "YAML" then versionDirective rest
    else if name = "TAG" then handleDirective rest
    else pure (.other, rest.dropWhile (!isBreak ·))
  return (.directive directive, ← afterComment rest)

end ImportLint.Yaml
