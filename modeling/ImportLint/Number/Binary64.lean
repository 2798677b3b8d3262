/-!
# Binary floating point

Numbers of 64-bit binary floating point as exact values `± m · 2 ^ e` with `m < 2 ^ 53`, together
with infinities and one not-a-number. Every operation is the exact one followed by rounding to the
nearest number, a tie going to the even significand.
-/

namespace ImportLint

/-- A number of 64-bit binary floating point. -/
inductive Binary64
  | nan
  | infinite (negative : Bool)
  | finite (negative : Bool) (significand : Nat) (exponent : Int)
  deriving DecidableEq, Repr

namespace Binary64

/-- The least exponent of a number. -/
def minExponent : Int := -1074

/-- The greatest exponent of a number. -/
def maxExponent : Int := 971

/-- Zero with a sign. -/
def zero (negative : Bool) : Binary64 := .finite negative 0 minExponent

/-- The quotient `n / d` rounded to the nearest natural number, a tie going to the even one. -/
def roundQuotient (n d : Nat) : Nat :=
  let q := n / d
  let r := n % d
  if 2 * r < d ∨ (2 * r = d ∧ q % 2 = 0) then q else q + 1

/-- The quotient `n / d` over `2 ^ e`, rounded. -/
def roundScaled (n d : Nat) (e : Int) : Nat :=
  if 0 ≤ e then roundQuotient n (d * Nat.pow 2 e.toNat)
  else roundQuotient (n * Nat.pow 2 (-e).toNat) d

/-- Whether `n / d < 2 ^ e`. -/
def belowPower (n d : Nat) (e : Int) : Bool :=
  if 0 ≤ e then decide (n < d * Nat.pow 2 e.toNat) else decide (n * Nat.pow 2 (-e).toNat < d)

/-- The exponent of the number nearest to `n / d`: the significand then has 53 bits, or the exponent
is the least one. -/
def exponentFor (n d : Nat) : Int :=
  let e : Int := (Nat.log2 n : Int) - Nat.log2 d - 52
  max minExponent (if belowPower n d (e + 52) then e - 1 else e)

/-- The number nearest to `± n / d`. -/
def ofQuotient (negative : Bool) (n d : Nat) : Binary64 :=
  if n = 0 then zero negative
  else
    let e := exponentFor n d
    let m := roundScaled n d e
    let (m, e) := if m = Nat.pow 2 53 then (Nat.pow 2 52, e + 1) else (m, e)
    if e > maxExponent then .infinite negative
    else if m = 0 then zero negative
    else .finite negative m e

/-- The number nearest to `± n · 2 ^ e`. -/
def ofScaled (negative : Bool) (n : Nat) (e : Int) : Binary64 :=
  if 0 ≤ e then ofQuotient negative (n * Nat.pow 2 e.toNat) 1
  else ofQuotient negative n (Nat.pow 2 (-e).toNat)

/-- The number nearest to `± n · 10 ^ e`. A decimal exponent far outside the range of the numbers
decides alone. -/
def ofDecimal (negative : Bool) (n : Nat) (e : Int) : Binary64 :=
  if n = 0 then zero negative
  else if e > 400 then .infinite negative
  else if e + (Nat.log2 n : Int) / 3 < -400 then zero negative
  else if 0 ≤ e then ofQuotient negative (n * Nat.pow 10 e.toNat) 1
  else ofQuotient negative n (Nat.pow 10 (-e).toNat)

/-- The number nearest to an integer. -/
def ofInt (i : Int) : Binary64 := ofQuotient (decide (i < 0)) i.natAbs 1

/-- The number with the other sign. -/
def neg : Binary64 → Binary64
  | .nan => .nan
  | .infinite s => .infinite (!s)
  | .finite s m e => .finite (!s) m e

/-- The product. -/
def mul : Binary64 → Binary64 → Binary64
  | .finite s m e, .finite t n f => ofScaled (s != t) (m * n) (e + f)
  | .nan, _ => .nan
  | _, .nan => .nan
  | .finite s m _, .infinite t => if m = 0 then .nan else .infinite (s != t)
  | .infinite s, .finite t n _ => if n = 0 then .nan else .infinite (s != t)
  | .infinite s, .infinite t => .infinite (s != t)

/-- A significand with its sign, at a lower exponent. -/
def alignedAt (low : Int) (s : Bool) (m : Nat) (e : Int) : Int :=
  let i : Int := (m * Nat.pow 2 (e - low).toNat : Nat)
  if s then -i else i

/-- The sum. A sum of zero is positive unless both numbers are negative. -/
def add : Binary64 → Binary64 → Binary64
  | .finite s m e, .finite t n f =>
    let low := min e f
    let i := alignedAt low s m e + alignedAt low t n f
    if i = 0 then zero (s && t) else ofScaled (decide (i < 0)) i.natAbs low
  | .nan, _ => .nan
  | _, .nan => .nan
  | .finite _ _ _, .infinite t => .infinite t
  | .infinite s, .finite _ _ _ => .infinite s
  | .infinite s, .infinite t => if s = t then .infinite s else .nan

/-- The difference. -/
def sub (x y : Binary64) : Binary64 := x.add y.neg

/-- Whether a number is zero, of either sign. -/
def isZero : Binary64 → Bool
  | .finite _ 0 _ => true
  | _ => false

/-- The integer that a number is, if it is one. -/
def toInt? : Binary64 → Option Int
  | .finite s m e =>
    if 0 ≤ e then some (alignedAt 0 s m e)
    else if m % Nat.pow 2 (-e).toNat = 0 then
      let i : Int := (m / Nat.pow 2 (-e).toNat : Nat)
      some (if s then -i else i)
    else none
  | _ => none

end Binary64

end ImportLint
