import ImportLint.Value.Basic

/-!
# Diagnostics

A finding about a file, and the report of all findings of a scan. A finding about an import has its
place; one about the whole file has line and column zero.
-/

namespace ImportLint

/-- A finding about a file. -/
structure Diagnostic where
  file : String
  line : Int
  column : Int
  message : CodeText
  deriving DecidableEq, Repr

namespace Diagnostic

/-- A finding about a whole file. -/
def ofFile (file : String) (message : CodeText) : Diagnostic := ⟨file, 0, 0, message⟩

/-- The finding as a line of text. -/
def text (d : Diagnostic) : CodeText := d.file ++ ":" ++ toString d.line ++ ": " ++ d.message

/-- The fields of a finding. -/
def fields (d : Diagnostic) : List (String × Value) :=
  [("file", .text d.file), ("line", .int d.line), ("column", .int d.column),
    ("message", .text d.message)]

/-- The finding as an object of an indented JSON list. -/
def toIndentedJson (d : Diagnostic) : String :=
  let rows := d.fields.map fun (name, v) => "    " ++ Value.jsonString name ++ ": " ++ v.toJson
  "  \x7b\n" ++ ",\n".intercalate rows ++ "\n  \x7d"

/-- A report as an indented JSON list. -/
def jsonReport (ds : List Diagnostic) : String :=
  if ds.isEmpty then "[]" else "[\n" ++ ",\n".intercalate (ds.map toIndentedJson) ++ "\n]"

end Diagnostic

/-- Findings that are collected one after the other. Nothing is removed or put elsewhere. -/
structure Findings where
  /-- The findings so far. -/
  snapshot : List Diagnostic

namespace Findings

/-- No findings yet. -/
def empty : Findings := ⟨[]⟩

/-- One more finding. -/
def add (f : Findings) (d : Diagnostic) : Findings := ⟨f.snapshot ++ [d]⟩

/-- More findings. -/
def extend (f : Findings) (ds : List Diagnostic) : Findings := ⟨f.snapshot ++ ds⟩

end Findings

end ImportLint
