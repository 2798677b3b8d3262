import ImportLint.Value.Basic

/-!
# One layer at a time

A value can be looked at one layer at a time: it is an atom, a list, a mapping or something else.
What reads values like that works for trees of values and for other forms of them alike, such as
documents in which a collection may stand inside itself.
-/

namespace ImportLint

/-- The outermost layer of a value, whose parts have the type `α`. -/
inductive Layer (α : Type)
  /-- A value without parts. -/
  | atom (v : Value)
  | list (items : List α)
  | mapping (entries : List (Value × α))
  /-- Anything else, and whether it counts as present. -/
  | other (isTruthy : Bool)

/-- Whether a value counts as present, by its outermost layer. -/
def Layer.isTruthy {α : Type} : Layer α → Bool
  | .atom v => v.isTruthy
  | .list items => !items.isEmpty
  | .mapping entries => !entries.isEmpty
  | .other b => b

/-- Why a value has no text. -/
inductive TextFault
  /-- An integer in it has too many digits to be written. -/
  | longInteger
  /-- Collections stand inside each other too deep. -/
  | tooDeep
  deriving DecidableEq, Repr

/-- The wording of a fault. -/
def TextFault.message : TextFault → String
  | .longInteger => Number.tooLongMessage
  | .tooDeep => "maximum recursion depth exceeded while getting the repr of an object"

/-- How values of a type are looked at: by layers and as text. -/
structure Access (α : Type) where
  layer : α → Layer α
  text : α → Except TextFault CodeText

/-- Trees of values by layers. -/
def Value.access : Access Value where
  layer
    | .list items => .list items
    | .mapping entries => .mapping entries
    | v => .atom v
  text v := if v.hasLongInteger then .error .longInteger else .ok v.toText

end ImportLint
