import ImportLint.Files.Tree
import ImportLint.Log.Entry
import ImportLint.Manifest.Requirement
import ImportLint.Text.Utf8

/-!
# Loading a manifest

From the outcome of reading the manifest to its requirements.
-/

namespace ImportLint.Manifest

/-- Why a manifest cannot be loaded. -/
inductive LoadFault
  | unreadable (fault : ReadFault)
  | undecodable (cause : Text.Utf8.Cause)
  | malformed (error : SyntaxError)

/-- The wording of a fault for the manifest at a path. -/
def LoadFault.message (path : String) : LoadFault → String
  | .unreadable fault => "unable to read go.mod file: " ++ fault.message
  | .undecodable cause =>
    "unable to parse go.mod file: " ++ path ++ ": invalid UTF-8 (" ++ cause.message ++ ")"
  | .malformed e => "unable to parse go.mod file: " ++ e.message path

/-- The requirements of a manifest, from the outcome of reading it. -/
def load : Except ReadFault Bytes → Except LoadFault (List Requirement)
  | .error fault => .error (.unreadable fault)
  | .ok bytes =>
    match Text.Utf8.decode bytes with
    | .error refusal => .error (.undecodable refusal.cause)
    | .ok text =>
      match requirements text with
      | .error e => .error (.malformed e)
      | .ok rs => .ok rs

/-- What the log says of loading the manifest at a path. -/
def loadEntry (path : String) : Except LoadFault (List Requirement) → Log.Entry
  | .error fault => ⟨.error, fault.message path, [("path", .text path)]⟩
  | .ok rs =>
    ⟨.debug, "go.mod loaded",
      [("path", .text path), ("requirements", .int rs.length),
        ("direct", .int (rs.filter (·.direct)).length)]⟩

end ImportLint.Manifest
