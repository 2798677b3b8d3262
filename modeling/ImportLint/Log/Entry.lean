import ImportLint.Value.Basic

/-!
# Log entries

An entry has a level, an event and named fields. It is written on one line, either for reading on a
console or as a JSON object. On a console the fields stand in the order of their names and a text is
quoted only if it could be misread; in JSON they keep the order in which they were given. Some names
have a meaning of their own: the log sets the time and the level itself, requests for a trace are
never shown, and on a console the names of loggers stand in brackets and traces on lines below.
-/

namespace ImportLint.Log

/-- How much an entry matters. -/
inductive Level
  | debug
  | info
  | warning
  | error
  | critical
  deriving DecidableEq, Repr

namespace Level

/-- The level as a number: the greater, the more it matters. -/
def rank : Level → Nat
  | .debug => 10
  | .info => 20
  | .warning => 30
  | .error => 40
  | .critical => 50

/-- The name under which a level is written. -/
def name : Level → String
  | .debug => "debug"
  | .info => "info"
  | .warning => "warning"
  | .error => "error"
  | .critical => "critical"

/-- The level of a call to the log, by the name of the call. -/
def ofCall? (call : String) : Option Level :=
  [("debug", debug), ("info", info), ("msg", info), ("warning", warning), ("warn", warning),
    ("error", error), ("exception", error), ("critical", critical), ("fatal", critical)].lookup call

end Level

/-- What happened, how much it matters, and the values that go with it. -/
structure Entry where
  level : Level
  event : String
  fields : List (String × Value)
  deriving Repr

/-- The two ways to write an entry. -/
inductive Style
  | console
  | json
  deriving DecidableEq, Repr

namespace Entry

/-- A text with spaces behind it, up to a width. -/
def padded (width : Nat) (s : String) : String :=
  s ++ String.ofList (List.replicate (width - s.length) ' ')

/-- Whether a text can stand on a console line as it is. -/
def isPlain (s : CodeText) : Bool :=
  !s.any fun p => [' ', '\t', '=', '\r', '\n', '"', '\''].any fun c => p = .char c

/-- The value of a field on a console line. -/
def consoleValue : Value → CodeText
  | .text s => if isPlain s then s else Text.quoted s
  | v => v.toInnerText

/-- The names of fields that ask for a trace of the program. -/
def requests : List String := ["exc_info", "stack_info"]

/-- The names of fields whose values the log sets. -/
def settled : List String := ["timestamp", "level", "event"]

/-- The names of fields that stand in brackets on a console. -/
def loggers : List String := ["logger", "logger_name"]

/-- The names of fields that stand on lines of their own on a console. -/
def traces : List String := ["stack", "exception"]

/-- The field without a name, which stands in front on a console. -/
def nameless : String := ""

/-- The value of a field, if the entry has it. -/
def field? (e : Entry) (name : String) : Option Value := e.fields.lookup name

/-- Whether a field has no place of its own on a console. -/
def isOrdinary (name : String) : Bool :=
  !(requests ++ settled ++ loggers ++ traces ++ [nameless]).contains name

/-- The ordinary fields in the order of their names. -/
def sortedFields (e : Entry) : List (String × Value) :=
  (e.fields.filter fun f => isOrdinary f.1).mergeSort fun a b => decide (a.1 ≤ b.1)

/-- A text without the spaces at its end. -/
def dropTrailingSpaces (s : CodeText) : CodeText :=
  (s.reverse.dropWhile (· = .char ' ')).reverse

/-- A field on a console line. -/
def consoleField (name : String) (v : Value) : CodeText := name ++ "=" ++ consoleValue v

/-- What stands on the first line of an entry on a console. -/
def consoleParts (time : Binary64) (e : Entry) : List CodeText :=
  let front := ((e.field? nameless).map (consoleField nameless)).toList
  let usual : List String :=
    [time.toText, "[" ++ padded 9 e.level.name ++ "]", padded 30 e.event]
  let bracketed (v : Value) : CodeText := "[" ++ v.toText ++ "]"
  let names := (loggers.filterMap e.field?).map bracketed
  let fields := e.sortedFields.map fun (name, v) => consoleField name v
  front ++ usual.map .ofString ++ names ++ fields

/-- The first line of an entry on a console. -/
def consoleLine (time : Binary64) (e : Entry) : CodeText :=
  dropTrailingSpaces (List.intercalate [.char ' '] (e.consoleParts time))

/-- The traces of an entry. -/
def traceTexts (e : Entry) : List CodeText :=
  traces.filterMap fun name =>
    match e.field? name with
    | some (.text s) => some s
    | _ => none

/-- The first trace of an entry that is neither a text nor null. On a console it has no place. -/
def badTrace? (e : Entry) : Option Value :=
  (traces.filterMap e.field?).find? fun
    | .text _ | .null => false
    | _ => true

/-- The lines of an entry for reading on a console: its first line, and below it the traces with a
rule between them. -/
def toConsole (time : Binary64) (e : Entry) : CodeText :=
  let rule : CodeText := "\n\n" ++ String.ofList (List.replicate 79 '=') ++ "\n"
  e.consoleLine time ++ rule.intercalate (e.traceTexts.map ("\n" ++ ·))

/-- The line of an entry as a JSON object. What the log adds comes after the fields. -/
def toJson (time : Binary64) (e : Entry) : String :=
  let added : List (String × Value) :=
    [("event", .text e.event), ("timestamp", .real time), ("level", .text e.level.name)]
  let shown := (e.fields ++ added).filter fun f => !requests.contains f.1
  (Value.mapping (shown.foldl (fun es (name, v) => Value.insertEntry (.text name) v es) [])).toJson

/-- What is written for an entry. -/
def render (style : Style) (time : Binary64) (e : Entry) : CodeText :=
  match style with
  | .console => e.toConsole time
  | .json => e.toJson time

end Entry

end ImportLint.Log
