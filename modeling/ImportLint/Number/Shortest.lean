import ImportLint.Number.Binary64

/-!
# Shortest decimals

The decimal text of a floating-point number: the fewest digits that read back as the number, and of
those the nearest to it. Numbers from `10 ^ -4` up to `10 ^ 16` are written positionally, with at
least one digit after the point; the others with an exponent of at least two digits.
-/

namespace ImportLint.Binary64

/-- A decimal `digits · 10 ^ exponent`. -/
structure Decimal where
  digits : Nat
  exponent : Int
  deriving DecidableEq, Repr

/-- The decimal exponent `k` with `10 ^ k ≤ n / d < 10 ^ (k + 1)`, looked for from `k` upwards. -/
def decimalExponentFrom (n d : Nat) : Nat → Int → Int
  | 0, k => k
  | fuel + 1, k =>
    let above :=
      if 0 ≤ k + 1 then decide (d * Nat.pow 10 (k + 1).toNat ≤ n)
      else decide (d ≤ n * Nat.pow 10 (-(k + 1)).toNat)
    if above then decimalExponentFrom n d fuel (k + 1) else k

/-- The exact value `n / d` of a significand and an exponent. -/
def quotientOf (m : Nat) (e : Int) : Nat × Nat :=
  if 0 ≤ e then (m * Nat.pow 2 e.toNat, 1) else (m, Nat.pow 2 (-e).toNat)

/-- The decimal exponent of a positive quotient: a guess from the binary logarithm, which is at most
two too low, and then upwards. -/
def decimalExponent (n d : Nat) : Int :=
  let bits : Int := (Nat.log2 n : Int) - Nat.log2 d
  decimalExponentFrom n d 6 (Int.fdiv (bits * 30103) 100000 - 2)

/-- The decimals of `count` digits on either side of `n / d`, the nearer one first. -/
def neighbours (n d : Nat) (count : Nat) : List Decimal :=
  let k := decimalExponent n d - ((count : Int) - 1)
  let (a, b) := if 0 ≤ k then (n, d * Nat.pow 10 k.toNat) else (n * Nat.pow 10 (-k).toNat, d)
  let low := a / b
  let r := a % b
  let down : Decimal := ⟨low, k⟩
  let up : Decimal := ⟨low + 1, k⟩
  if 2 * r < b ∨ (2 * r = b ∧ low % 2 = 0) then [down, up] else [up, down]

/-- The first decimal that reads back, among those of `count`, `count + 1`, ... digits. -/
def shortestFrom (x : Binary64) (n d : Nat) : Nat → Nat → Decimal
  | 0, count => (neighbours n d count).headD ⟨0, 0⟩
  | fuel + 1, count =>
    match (neighbours n d count).find? (fun t => ofDecimal false t.digits t.exponent == x) with
    | some t => t
    | none => shortestFrom x n d fuel (count + 1)

/-- The shortest decimal that reads back as a positive number. Seventeen digits always do. -/
def shortest (m : Nat) (e : Int) : Decimal :=
  let (n, d) := quotientOf m e
  shortestFrom (.finite false m e) n d 16 1

/-- The digits of a decimal without the zeros at their end, and the place of the point: the value is
`0.digits · 10 ^ point`. -/
def significantDigits (t : Decimal) : List Char × Int :=
  let ds := Nat.toDigits 10 t.digits
  ((ds.reverse.dropWhile (· = '0')).reverse, ds.length + t.exponent)

/-- A number of at least two digits. -/
def twoDigits (n : Nat) : List Char :=
  let ds := Nat.toDigits 10 n
  if ds.length < 2 then '0' :: ds else ds

/-- The text of `0.digits · 10 ^ point`. -/
def writeDigits (ds : List Char) (point : Int) : List Char :=
  if -4 < point ∧ point ≤ 16 then
    if point ≤ 0 then '0' :: '.' :: List.replicate (-point).toNat '0' ++ ds
    else if (ds.length : Int) ≤ point then
      ds ++ List.replicate (point.toNat - ds.length) '0' ++ ['.', '0']
    else ds.take point.toNat ++ '.' :: ds.drop point.toNat
  else
    let mantissa :=
      match ds with
      | [] => []
      | [d] => [d]
      | d :: rest => d :: '.' :: rest
    let e := point - 1
    mantissa ++ 'e' :: (if e < 0 then '-' else '+') :: twoDigits e.natAbs

/-- The decimal text of a number. -/
def toText : Binary64 → String
  | .nan => "nan"
  | .infinite s => if s then "-inf" else "inf"
  | .finite s m e =>
    let body :=
      if m = 0 then ['0', '.', '0']
      else
        let (ds, point) := significantDigits (shortest m e)
        writeDigits ds point
    String.ofList (if s then '-' :: body else body)

end ImportLint.Binary64
