import ImportLint.Policy.Replacement
import ImportLint.Value.Layer

/-!
# The shape of a configuration

A configuration is made from a mapping with an allow list and replacement rules. What is absent,
null or otherwise counts as not present is empty; unknown keys are ignored. The checks are made in a
fixed order, and the first that fails is the fault. The values of the mapping are looked at by
layers, so that any form of values will do.
-/

namespace ImportLint

/-- The name of the manifest in the working directory. -/
def manifestName : String := "go.mod"

/-- A configuration: its version, the allow list, the rules, the path of the manifest, and the path
of the file from which it was loaded, if any. -/
structure Config where
  version : Value
  allow : AllowList
  rules : List Rule
  manifest : String
  path : Option String

namespace Config

/-- The version of a configuration that gives none. -/
def defaultVersion : Value := .int 1

/-- The configuration without a file: nothing is allowed and there are no rules. -/
def defaults : Config := ⟨defaultVersion, .empty, [], manifestName, none⟩

/-- The lists of texts of a configuration. -/
inductive ListKey
  | allowModules
  | allowDomains
  | ruleModules (index : Nat)
  deriving DecidableEq, Repr

/-- The name of the rule at an index. -/
def ruleName (index : Nat) : String := "replacements[" ++ toString index ++ "]"

/-- The name of a list. -/
def ListKey.name : ListKey → String
  | .allowModules => "allow.modules"
  | .allowDomains => "allow.domains"
  | .ruleModules i => ruleName i ++ ".modules"

/-- Why a mapping is no configuration. -/
inductive SchemaFault
  | allowNotMapping
  | notTexts (key : ListKey)
  | rulesNotList
  | ruleNotMapping (index : Nat)
  | ruleWithoutReplacement (index : Nat)
  /-- A reason has no text. -/
  | reasonWithoutText (fault : TextFault)
  deriving DecidableEq, Repr

/-- The wording of a fault. -/
def SchemaFault.message : SchemaFault → String
  | .allowNotMapping => "'allow' must be a mapping."
  | .notTexts key => "'" ++ key.name ++ "' must be a list of strings."
  | .rulesNotList => "'replacements' must be a list."
  | .ruleNotMapping i => ruleName i ++ " must be a mapping."
  | .ruleWithoutReplacement i => ruleName i ++ " is missing the required 'replacement' field."
  | .reasonWithoutText fault => fault.message

section

variable {α : Type} (access : Access α)

/-- The layer of the value under a key of a mapping. -/
def layerAt (name : String) (entries : List (Value × α)) : Option (Layer α) :=
  (Value.lookup name entries).map access.layer

/-- The texts of a list, if all its items are texts. -/
def texts? : List α → Option (List CodeText)
  | [] => some []
  | v :: rest =>
    match access.layer v with
    | .atom (.text s) => (texts? rest).map (s :: ·)
    | _ => none

/-- The texts under a key of a mapping; none if the key is absent or null. -/
def textsAt (key : ListKey) (name : String) (entries : List (Value × α)) :
    Except SchemaFault (List CodeText) :=
  match layerAt access name entries with
  | none | some (.atom .null) => .ok []
  | some (.list items) =>
    match texts? access items with
    | some ss => .ok ss
    | none => .error (.notTexts key)
  | some _ => .error (.notTexts key)

/-- The layer of the value under a key of a mapping, if the value counts as present. -/
def present? (name : String) (entries : List (Value × α)) : Option (Layer α) :=
  (layerAt access name entries).filter Layer.isTruthy

/-- The allow list of a configuration. -/
def allowOf (entries : List (Value × α)) : Except SchemaFault AllowList :=
  match present? access "allow" entries with
  | none => .ok .empty
  | some (.mapping allow) => do
    let modules ← textsAt access .allowModules "modules" allow
    let domains ← textsAt access .allowDomains "domains" allow
    return ⟨modules, domains⟩
  | some _ => .error .allowNotMapping

/-- The reason of a rule as text; empty if it is absent or null. -/
def reasonOf (entries : List (Value × α)) : Except SchemaFault CodeText :=
  match Value.lookup "reason" entries with
  | none => .ok []
  | some v =>
    match access.layer v, access.text v with
    | .atom .null, _ => .ok []
    | _, .ok text => .ok text
    | _, .error fault => .error (.reasonWithoutText fault)

/-- The rule at an index. -/
def ruleOf (index : Nat) (v : α) : Except SchemaFault Rule :=
  match access.layer v with
  | .mapping entries =>
    match present? access "replacement" entries with
    | some (.atom (.text replacement)) => do
      let modules ← textsAt access (.ruleModules index) "modules" entries
      return ⟨modules, replacement, ← reasonOf access entries⟩
    | _ => .error (.ruleWithoutReplacement index)
  | _ => .error (.ruleNotMapping index)

/-- The rules from an index on. -/
def rulesFrom (index : Nat) : List α → Except SchemaFault (List Rule)
  | [] => .ok []
  | v :: rest => do
    let r ← ruleOf access index v
    return r :: (← rulesFrom (index + 1) rest)

/-- The rules of a configuration. -/
def rulesOf (entries : List (Value × α)) : Except SchemaFault (List Rule) :=
  match present? access "replacements" entries with
  | none => .ok []
  | some (.list items) => rulesFrom access 0 items
  | some _ => .error .rulesNotList

/-- The configuration that a mapping describes, with a version that is not looked at. -/
def ofEntries (path : Option String) (version : Value) (entries : List (Value × α)) :
    Except SchemaFault Config := do
  let allow ← allowOf access entries
  let rules ← rulesOf access entries
  return ⟨version, allow, rules, manifestName, path⟩

end

/-- The configuration that a mapping of values describes. -/
def ofMapping (path : Option String) (entries : List (Value × Value)) : Except SchemaFault Config :=
  ofEntries Value.access path ((Value.lookup "version" entries).getD defaultVersion) entries

/-- The name under which a fault of a configuration is reported. -/
def sourceName (path : Option String) : String :=
  match path with
  | none => "<config>"
  | some p => if p = "" then "<config>" else p

end Config

end ImportLint
