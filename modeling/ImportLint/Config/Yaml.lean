import ImportLint.Config.Load
import ImportLint.Yaml.Document

/-!
# Configurations in YAML

The reader of configuration files: they are YAML documents.
-/

namespace ImportLint.Config

/-- Reads a file as a YAML document. Values are written if no more than `depth` parts of them stand
inside each other. -/
def yamlReader (depth : Nat) : Reader Yaml.Part := fun portions =>
  match Yaml.read (.ofPortions portions) with
  | .ok d => .ok ⟨d.access depth, .node d.root⟩
  | .error .malformed => .error (.malformed (Yaml.Fault.message .malformed))
  | .error fault => .error (.broken fault)

end ImportLint.Config
