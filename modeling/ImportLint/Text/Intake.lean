import ImportLint.Text.Quoted
import ImportLint.Text.Utf8

/-!
# Files as text

A file is read as text in portions of a fixed number of characters. The bytes for a portion are
fetched in chunks, and a character that a chunk cuts in two waits for the next one. Every line end
becomes a line feed, for which a carriage return at the end of a chunk waits as well. Bytes that are
not UTF-8 are noticed when their chunk is fetched, so that the portions before are read all the
same.
-/

namespace ImportLint.Text

/-- Bytes that were looked at together and are not UTF-8, and the refusal in them. -/
structure Torn where
  bytes : List UInt8
  refusal : Utf8.Refusal
  deriving DecidableEq, Repr

/-- The wording of the refusal of bytes. -/
def Torn.message (t : Torn) : String :=
  let start := t.refusal.offset
  let place :=
    if t.refusal.width = 1 then
      let byte := ((t.bytes.drop start).head?.getD 0).toNat
      "byte 0x" ++ String.ofList (hexDigits 2 byte) ++ " in position " ++ toString start
    else "bytes in position " ++ toString start ++ "-" ++ toString (start + t.refusal.width - 1)
  "'utf-8' codec can't decode " ++ place ++ ": " ++ t.refusal.cause.message

/-- The text with every line end spelled as a line feed; `returned` tells that a carriage return
came just before. -/
def normalizeLines (returned : Bool) : List Char → List Char
  | [] => []
  | c :: rest =>
    if c = '\r' then '\n' :: normalizeLines true rest
    else if c = '\n' ∧ returned then normalizeLines false rest
    else c :: normalizeLines false rest

/-- A file that is being read: the bytes that were not fetched, the bytes of a character that is not
complete, whether a carriage return waits, the characters that are ready, and the numbers of bytes
and characters of the last chunk. -/
structure Intake where
  unread : List UInt8
  held : List UInt8
  returned : Bool
  ready : List Char
  lastBytes : Nat
  lastChars : Nat

namespace Intake

/-- The number of characters of a portion. -/
def portionSize : Nat := 4096

/-- The least number of bytes of a chunk. -/
def chunkSize : Nat := 8192

/-- The start of reading a file. -/
def ofBytes (bytes : List UInt8) : Intake := ⟨bytes, [], false, [], 0, 0⟩

/-- The number of bytes of the next chunk when some characters are wanted. A text whose characters
took many bytes so far is expected to go on like that. -/
def nextChunk (wanted : Nat) (t : Intake) : Nat :=
  max chunkSize (if t.lastBytes ≤ t.lastChars then wanted else t.lastBytes * wanted / t.lastChars)

/-- The characters of bytes, and the bytes at the end that are not yet a character. -/
def decodePart (bytes : List UInt8) : Except Torn (List Char × List UInt8) :=
  match Utf8.decode bytes with
  | .ok cs => .ok (cs, [])
  | .error r =>
    if r.cause = .unfinished then
      match Utf8.decode (bytes.take r.offset) with
      | .ok cs => .ok (cs, bytes.drop r.offset)
      | .error r => .error ⟨bytes, r⟩
    else .error ⟨bytes, r⟩

/-- The characters of a chunk behind a carriage return that waited, in case it did. -/
def withReturn (t : Intake) (cs : List Char) : List Char := if t.returned then '\r' :: cs else cs

/-- Fetches the bytes that are left in the end; nothing if all characters are ready already. -/
def finish (t : Intake) : Except Torn (Option Intake) :=
  match Utf8.decode t.held with
  | .error r => .error ⟨t.held, r⟩
  | .ok cs =>
    let cs := normalizeLines false (t.withReturn cs)
    if cs.isEmpty then .ok none
    else
      .ok (some { t with
        held := [], returned := false, ready := t.ready ++ cs, lastBytes := 0, lastChars := 0 })

/-- Fetches the next chunk; nothing at the end of the file. -/
def fetch (wanted : Nat) (t : Intake) : Except Torn (Option Intake) :=
  if t.unread.isEmpty then t.finish
  else do
    let chunk := t.unread.take (t.nextChunk wanted)
    let (cs, held) ← decodePart (t.held ++ chunk)
    let cs := if cs.isEmpty then [] else t.withReturn cs
    let returned := if cs.isEmpty then t.returned else cs.getLast? = some '\r'
    let cs := normalizeLines false (if cs.getLast? = some '\r' then cs.dropLast else cs)
    return some {
      unread := t.unread.drop (t.nextChunk wanted)
      held
      returned
      ready := t.ready ++ cs
      lastBytes := if cs.isEmpty then 0 else chunk.length
      lastChars := cs.length }

/-- Fetches chunks until a portion is ready or the file ends. `fuel` bounds the chunks. -/
def fill : Nat → Intake → Except Torn Intake
  | 0, t => .ok t
  | fuel + 1, t =>
    if portionSize ≤ t.ready.length then .ok t
    else do
      match ← t.fetch (portionSize - t.ready.length) with
      | none => return t
      | some t => fill fuel t

/-- The text in portions, at most `fuel` of them, and what ends it early. -/
def portions : Nat → Intake → List Char × Option Torn
  | 0, t => (t.ready, none)
  | fuel + 1, t =>
    match fill (t.unread.length + 2) t with
    | .error torn => ([], some torn)
    | .ok t =>
      if t.ready.length < portionSize then (t.ready, none)
      else
        let (cs, torn) := portions fuel { t with ready := t.ready.drop portionSize }
        (t.ready.take portionSize ++ cs, torn)

end Intake

/-- The text of a file. If some of its bytes are not UTF-8, the text ends with the last portion
before they were noticed. -/
def readPortions (bytes : List UInt8) : List Char × Option Torn :=
  Intake.portions (bytes.length + 1) (.ofBytes bytes)

end ImportLint.Text
