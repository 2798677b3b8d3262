import ImportLint.Log.Entry
import ImportLint.Text.Upper

/-!
# Log settings

Which entries are written, and how. An entry is written when its level reaches the threshold.
-/

namespace ImportLint.Log

/-- The least level that is written, as a number, and the style of the lines. -/
structure Settings where
  threshold : Nat
  style : Style
  deriving DecidableEq, Repr

/-- What a name of the log stands for: a threshold, the format of a line, or the styles of lines. -/
inductive Named
  | threshold (n : Nat)
  | format (text : String)
  | styles
  deriving DecidableEq, Repr

/-- The names of the log, in upper case. -/
def names : List (String × Named) := [
  ("DEBUG", .threshold 10), ("INFO", .threshold 20), ("WARNING", .threshold 30),
  ("WARN", .threshold 30), ("ERROR", .threshold 40), ("CRITICAL", .threshold 50),
  ("FATAL", .threshold 50), ("NOTSET", .threshold 0),
  ("BASIC_FORMAT", .format "%(levelname)s:%(name)s:%(message)s"), ("_STYLES", .styles)]

/-- Why a name gives no threshold. -/
inductive LevelFault
  /-- There is no such name. The name is in upper case. -/
  | unknown (name : String)
  /-- The name stands for a text that is no name of a level. -/
  | notLevel (text : String)
  /-- The name stands for a mapping. -/
  | notNumber
  deriving DecidableEq, Repr

/-- The wording of a fault. -/
def LevelFault.message : LevelFault → String
  | .unknown name => "module 'logging' has no attribute '" ++ name ++ "'"
  | .notLevel text => Text.quoted text
  | .notNumber => "unhashable type: 'dict'"

namespace Settings

/-- Warnings and what matters more, for reading on a console. -/
def quiet : Settings := ⟨Level.warning.rank, .console⟩

/-- The settings with the threshold of a name, in letters of either case. -/
def ofName (name : String) (style : Style) : Except LevelFault Settings :=
  let name := Text.upper name
  match names.lookup name with
  | some (.threshold n) => .ok ⟨n, style⟩
  | some (.format text) => .error (.notLevel text)
  | some .styles => .error .notNumber
  | none => .error (.unknown name)

/-- Whether an entry is written. -/
def shows (s : Settings) (e : Entry) : Bool := decide (s.threshold ≤ e.level.rank)

/-- What is written for an entry. -/
def write (s : Settings) (time : Binary64) (e : Entry) : CodeText :=
  if s.shows e then e.render s.style time ++ "\n" else []

/-- The trace of an entry that keeps it from being written. -/
def refused? (s : Settings) (e : Entry) : Option Value :=
  if s.shows e && s.style = .console then e.badTrace? else none

/-- The name of the function that takes a call. -/
def takerOf (s : Settings) (call : String) (e : Entry) : String :=
  if call = "exception" then "exception"
  else if s.shows e then "_make_filtering_bound_logger.<locals>.make_method.<locals>.meth"
  else "_nop"

/-- The first field of a call whose name is that of an argument of its own, and the name of the
function that refuses it. -/
def clash? (s : Settings) (call : String) (e : Entry) : Option (String × String) :=
  let has (arguments : List String) := (e.fields.map (·.1)).find? arguments.contains
  match has ["self", "event"], has ["method_name"] with
  | some name, _ => some (s.takerOf call e, name)
  | none, some name => if s.shows e then some ("BoundLoggerBase._proxy_to_logger", name) else none
  | none, none => none

end Settings

/-- The wording of the refusal of a field by a function. -/
def clashMessage (taker name : String) : String :=
  taker ++ "() got multiple values for argument " ++ Text.quoted name

/-- The wording of the refusal of a trace that is no text. -/
def refusalMessage (v : Value) : String :=
  "can only concatenate str (not \"" ++ v.kindName ++ "\") to str"

/-! ### Timed operations -/

/-- The milliseconds between two readings of a clock in seconds. -/
def elapsed (start stop : Binary64) : Binary64 := (stop.sub start).mul (Binary64.ofInt 1000)

/-- The entry for an operation that came to its end after some milliseconds. -/
def completed (operation : String) (duration : Binary64) : Entry :=
  ⟨.info, operation ++ " completed",
    [("operation", .text operation), ("duration_ms", .real duration)]⟩

/-- The entry for an operation that broke off after some milliseconds. -/
def failed (operation : String) (duration : Binary64) (error : String) : Entry :=
  ⟨.error, operation ++ " failed",
    [("operation", .text operation), ("duration_ms", .real duration), ("error", .text error)]⟩

end ImportLint.Log
