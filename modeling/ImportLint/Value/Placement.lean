import ImportLint.Value.Basic

/-!
# The order of a set

The elements of a set stand in the slots of a table, and are listed by their slots. A number has a
code, which depends only on what it counts, and takes the slot of its code, or another by a fixed
rule if that is taken. Elements without such a code are listed in the order in which they came.
-/

namespace ImportLint.Value

/-- The modulus of the codes of numbers. -/
def codeModulus : Nat := Nat.pow 2 61 - 1

/-- The code of the number `± n`. Minus one is left out among the codes. -/
def signedCode (negative : Bool) (n : Nat) : Int :=
  if !negative then n else if n = 1 then -2 else -(n : Int)

/-- The code of a number. Two to the power of sixty-one counts as one, so an exponent counts by its
remainder. -/
def code? : Value → Option Int
  | .bool b => some (if b then 1 else 0)
  | .int i => some (signedCode (decide (i < 0)) (i.natAbs % codeModulus))
  | .real (.finite negative m e) =>
    some (signedCode negative (m * Nat.pow 2 (e % 61).toNat % codeModulus))
  | .real (.infinite negative) => some (if negative then -314159 else 314159)
  | _ => none

/-- The number of slots for a number of elements, a power of two. -/
def slotCount (elements : Nat) : Nat :=
  if elements < 5 then 8 else Nat.pow 2 (Nat.log2 (2 * elements) + 1)

/-- The number of slots behind a slot that are tried together with it. -/
def runLength (slots slot : Nat) : Nat := if slot + 9 < slots then 9 else 0

/-- The first free slot for a code: the slots of the run at `slot`, and then those of the next run.
`shifted` is what the code still has to say about the next run. -/
def freeSlot (slots : Nat) (taken : List Nat) : Nat → Nat → Nat → Nat
  | 0, slot, _ => slot
  | fuel + 1, slot, shifted =>
    let tried := (List.range (runLength slots slot + 1)).map (slot + ·)
    match tried.find? (!taken.contains ·) with
    | some s => s
    | none => freeSlot slots taken fuel ((slot * 5 + 1 + shifted / 32) % slots) (shifted / 32)

/-- The slot of a code, when others are taken. The code is read as a number without sign. -/
def slotOf (slots : Nat) (taken : List Nat) (code : Int) : Nat :=
  let unsigned := (code % (Nat.pow 2 64 : Nat)).toNat
  freeSlot slots taken (slots + 16) (unsigned % slots) unsigned

/-- Elements with their codes, each put before those of greater slots. -/
def placeAll (slots : Nat) : List (Nat × Value) → List (Value × Int) → List (Nat × Value)
  | placed, [] => placed
  | placed, (v, code) :: rest =>
    let slot := slotOf slots (placed.map (·.1)) code
    let before := placed.takeWhile fun p => decide (p.1 < slot)
    placeAll slots (before ++ (slot, v) :: placed.drop before.length) rest

/-- The elements of a set in the order in which they are listed. -/
def inSetOrder (elements : List Value) : List Value :=
  match elements.mapM fun v => v.code?.map fun c => (v, c) with
  | some coded => (placeAll (slotCount elements.length) [] coded).map (·.2)
  | none => elements

end ImportLint.Value
