import ImportLint.Text.Intake
import ImportLint.Value.Calendar

/-!
# YAML tokens

The tokens of a YAML stream, the classes of characters that their rules speak of, and the reasons
why a stream has no value.
-/

namespace ImportLint.Yaml

/-- Why a stream has no value. -/
inductive Fault
  /-- The stream is not a single well-formed document, or uses what is not supported. -/
  | malformed
  /-- A scalar that is to be an integer spells none to the base. -/
  | integer (base : Nat) (text : CodeText)
  /-- A scalar spells an integer with too many digits. -/
  | longInteger (digits : Nat)
  /-- A scalar that is to be a number of floating point spells none. -/
  | real (text : CodeText)
  /-- A scalar that is to be a number is empty. -/
  | emptyNumber
  /-- A scalar that is to be a truth value spells none. -/
  | truth (text : CodeText)
  /-- A scalar that is to be a date spells none. -/
  | moment
  /-- A scalar spells a date that the calendar does not have. -/
  | calendar (fault : CalendarFault)
  /-- An escape names a number that is no code point. -/
  | codePoint (n : Nat)
  /-- A number to the base sixty has more digits than a number of floating point can weigh. -/
  | hugeWeight
  /-- A collection stands where a date is to be spelled. -/
  | momentOfEntries
  /-- A mapping gives itself where a scalar is wanted. -/
  | endless
  /-- The bytes of the stream are not UTF-8. -/
  | undecodable (torn : Text.Torn)
  /-- The stream ends where a token goes on. If nothing follows, there is another fault. -/
  | cut (otherwise : Fault)
  deriving DecidableEq, Repr

/-- The fault of a stream that breaks off with another fault, its `ending`, or just ends. -/
def Fault.settle (ending : Option Fault) : Fault → Fault
  | .cut otherwise => ending.getD (otherwise.settle ending)
  | f => f

/-- The wording of a fault. -/
def Fault.message : Fault → String
  | .malformed => "<yaml error>"
  | .integer base text =>
    "invalid literal for int() with base " ++ toString base ++ ": " ++
      String.ofList ((Text.quoted text).toList.take 200)
  | .longInteger n =>
    "Exceeds the limit (4300 digits) for integer string conversion: value has " ++ toString n ++
      " digits; use sys.set_int_max_str_digits() to increase the limit"
  | .real text => "could not convert string to float: " ++ Text.quoted text
  | .emptyNumber => "string index out of range"
  | .truth text => Text.quoted text
  | .moment => "'NoneType' object has no attribute 'groupdict'"
  | .calendar f => f.message
  | .codePoint n =>
    if n < Nat.pow 2 31 then "chr() arg not in range(0x110000)"
    else "Python int too large to convert to C int"
  | .hugeWeight => "int too large to convert to float"
  | .momentOfEntries => "expected string or bytes-like object, got 'list'"
  | .endless => "maximum recursion depth exceeded"
  | .undecodable torn => torn.message
  | .cut otherwise => otherwise.message

/-- A line in front of a document. -/
inductive Directive
  /-- The version of the language; only the number before the point counts. -/
  | version (major : Nat)
  /-- A short form for the start of tags. -/
  | handle (handle uri : String)
  | other
  deriving DecidableEq, Repr

/-- A token. -/
inductive Token
  | directive (d : Directive)
  | documentStart
  | documentEnd
  | blockSequence
  | blockMapping
  | blockEnd
  | flowSequence
  | flowSequenceEnd
  | flowMapping
  | flowMappingEnd
  | flowEntry
  | blockEntry
  | key
  | value
  | reference (name : String)
  | anchor (name : String)
  | tag (handle : Option String) (suffix : String)
  | scalar (text : CodeText) (plain : Bool)
  deriving DecidableEq, Repr

/-! ### Characters -/

/-- Whether a character may occur in a stream. -/
def isAllowed (c : Char) : Bool :=
  let n := c.toNat
  n = 0x09 || n = 0x0A || n = 0x0D || (0x20 ≤ n && n ≤ 0x7E) || n = 0x85 ||
    (0xA0 ≤ n && n ≤ 0xFFFD) || 0x10000 ≤ n

/-- Whether a character ends a line. -/
def isBreak (c : Char) : Bool :=
  c = '\n' || c.toNat = 0x85 || c.toNat = 0x2028 || c.toNat = 0x2029

/-- What stands in a scalar for the end of a line. -/
def breakChar (c : Char) : Char := if c.toNat = 0x85 then '\n' else c

/-- Whether a character is a space or a tab. -/
def isSpace (c : Char) : Bool := c = ' ' || c = '\t'

/-- Whether a text starts with a space, a tab or the end of a line, or is empty. -/
def endsWord : List Char → Bool
  | [] => true
  | c :: _ => isSpace c || isBreak c

/-- Whether a text starts with a space or the end of a line, or is empty. -/
def endsTag : List Char → Bool
  | [] => true
  | c :: _ => c = ' ' || isBreak c

/-- Whether a text starts with three times a character and the word ends there. -/
def startsTriple (c : Char) : List Char → Bool
  | x :: y :: z :: rest => x = c && y = c && z = c && endsWord rest
  | _ => false

/-- Whether a line starts or ends a document. -/
def marksDocument (s : List Char) : Bool := startsTriple '-' s || startsTriple '.' s

/-- Whether a character may occur in the name of an anchor or of a tag handle. -/
def isNameChar (c : Char) : Bool :=
  ('0' ≤ c && c ≤ '9') || ('A' ≤ c && c ≤ 'Z') || ('a' ≤ c && c ≤ 'z') || c = '-' || c = '_'

end ImportLint.Yaml
