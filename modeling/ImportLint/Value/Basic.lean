import ImportLint.Number.Literal
import ImportLint.Number.Shortest
import ImportLint.Value.Calendar
import ImportLint.Text.JsonString

/-!
# Values

What a configuration file or a log entry carries: nothing, truth values, numbers, texts, bytes,
dates, and lists and mappings of values. A mapping keeps its entries in the order in which their
keys came.
-/

namespace ImportLint

/-- A value of a configuration file or a log entry. -/
inductive Value
  | null
  | bool (b : Bool)
  | int (i : Int)
  | real (x : Binary64)
  | text (s : CodeText)
  | bytes (b : List UInt8)
  | date (d : Date)
  | moment (m : Moment)
  | list (items : List Value)
  | mapping (entries : List (Value × Value))
  deriving Repr

namespace Value

/-- Whether a value counts as present: not null, false, zero or empty. -/
def isTruthy : Value → Bool
  | .null => false
  | .bool b => b
  | .int i => i != 0
  | .real x => !x.isZero
  | .text s => !s.isEmpty
  | .bytes b => !b.isEmpty
  | .date _ | .moment _ => true
  | .list items => !items.isEmpty
  | .mapping entries => !entries.isEmpty

/-- The name of what a value is. -/
def kindName : Value → String
  | .null => "NoneType"
  | .bool _ => "bool"
  | .int _ => "int"
  | .real _ => "float"
  | .text _ => "str"
  | .bytes _ => "bytes"
  | .date _ => "date"
  | .moment _ => "datetime"
  | .list _ => "list"
  | .mapping _ => "dict"

/-- The integer that a truth value or a number is equal to, if any. -/
def integer? : Value → Option Int
  | .bool b => some (if b then 1 else 0)
  | .int i => some i
  | .real x => x.toInt?
  | _ => none

/-- Whether two keys are the same. Truth values and numbers are compared by what they count. -/
def sameKey : Value → Value → Bool
  | .null, .null => true
  | .text s, .text t => s == t
  | .bytes b, .bytes c => b == c
  | .date d, .date e => d == e
  | .moment m, .moment n => m.isSame n
  | .real x, .real y =>
    match x.toInt?, y.toInt? with
    | some i, some j => i == j
    | _, _ => x == y
  | a, b =>
    match a.integer?, b.integer? with
    | some i, some j => i == j
    | _, _ => false

/-- Adds an entry to a mapping. The entry of the same key keeps its place and takes the new
value. -/
def insertEntry (key value : Value) : List (Value × Value) → List (Value × Value)
  | [] => [(key, value)]
  | (k, v) :: rest =>
    if sameKey k key then (k, value) :: rest else (k, v) :: insertEntry key value rest

/-- The value at a key that is a text. -/
def lookup {α : Type} (name : String) : List (Value × α) → Option α
  | [] => none
  | (.text s, v) :: rest => if s = .ofString name then some v else lookup name rest
  | _ :: rest => lookup name rest

/-- The text of a truth value. -/
def boolText (b : Bool) : String := if b then "True" else "False"

mutual

/-- A value as it stands inside a list or a mapping: a text is quoted. -/
def toInnerText : Value → String
  | .null => "None"
  | .bool b => boolText b
  | .int i => toString i
  | .real x => x.toText
  | .text s => Text.quoted s
  | .bytes b => Text.quotedBytes b
  | .date d => d.toInnerText
  | .moment m => m.toInnerText
  | .list items => "[" ++ ", ".intercalate (itemTexts items) ++ "]"
  | .mapping entries => "\x7b" ++ ", ".intercalate (entryTexts entries) ++ "\x7d"

/-- The items of a list as texts. -/
def itemTexts : List Value → List String
  | [] => []
  | v :: rest => v.toInnerText :: itemTexts rest

/-- The entries of a mapping as texts. -/
def entryTexts : List (Value × Value) → List String
  | [] => []
  | (k, v) :: rest => (k.toInnerText ++ ": " ++ v.toInnerText) :: entryTexts rest

end

/-- A value as text. -/
def toText : Value → CodeText
  | .text s => s
  | .date d => d.toText
  | .moment m => m.toText
  | v => v.toInnerText

mutual

/-- Whether an integer with too many digits to be written occurs in a value. -/
def hasLongInteger : Value → Bool
  | .int i => Number.isTooLong i
  | .list items => anyLongItem items
  | .mapping entries => anyLongEntry entries
  | _ => false

/-- Whether an integer with too many digits to be written occurs in a list. -/
def anyLongItem : List Value → Bool
  | [] => false
  | v :: rest => v.hasLongInteger || anyLongItem rest

/-- Whether an integer with too many digits to be written occurs in the entries of a mapping. -/
def anyLongEntry : List (Value × Value) → Bool
  | [] => false
  | (k, v) :: rest => k.hasLongInteger || v.hasLongInteger || anyLongEntry rest

end

/-! ### JSON -/

/-- A text as a JSON string. -/
def jsonString (s : CodeText) : String := String.ofList (Text.JsonString.encode s)

/-- A number of floating point as JSON. -/
def jsonReal : Binary64 → String
  | .nan => "NaN"
  | .infinite s => if s then "-Infinity" else "Infinity"
  | x => x.toText

/-- The key of a JSON object for a key of a mapping. -/
def jsonKey : Value → CodeText
  | .null => "null"
  | .bool b => if b then "true" else "false"
  | .real x => jsonReal x
  | v => v.toText

mutual

/-- A value as JSON on one line. -/
def toJson : Value → String
  | .null => "null"
  | .bool b => if b then "true" else "false"
  | .int i => toString i
  | .real x => jsonReal x
  | .text s => jsonString s
  | .bytes b => jsonString (Text.quotedBytes b)
  | .date d => jsonString d.toText
  | .moment m => jsonString m.toText
  | .list items => "[" ++ ", ".intercalate (jsonItems items) ++ "]"
  | .mapping entries => "\x7b" ++ ", ".intercalate (jsonEntries entries) ++ "\x7d"

/-- The items of a list as JSON. -/
def jsonItems : List Value → List String
  | [] => []
  | v :: rest => v.toJson :: jsonItems rest

/-- The entries of a mapping as JSON. -/
def jsonEntries : List (Value × Value) → List String
  | [] => []
  | (k, v) :: rest => (jsonString k.jsonKey ++ ": " ++ v.toJson) :: jsonEntries rest

end

end Value

end ImportLint
