import ImportLint.Number.Binary64
import ImportLint.Text.Blank
import ImportLint.Text.Digit

/-!
# Numbers in texts

Reading a whole text as an integer to some base, or as a number of floating point. Blanks around the
number do not count, digits may be of any script, and a single underscore may stand between two
digits of an integer.
-/

namespace ImportLint.Number

/-- Why a text is no integer. -/
inductive IntegerFault
  /-- The text does not spell an integer. -/
  | malformed
  /-- The text spells an integer with too many digits. -/
  | tooLong (digits : Nat)
  deriving DecidableEq, Repr

/-- Whether a character may stand around a number. Of the ASCII controls only tab, line feed,
vertical tab, form feed and carriage return may. -/
def isPadding (c : Char) : Bool :=
  if c.toNat < 128 then c = ' ' || (9 ≤ c.toNat && c.toNat ≤ 13) else Text.isBlank c

/-- A text without what may stand around a number. -/
def trim (s : List Char) : List Char :=
  ((s.dropWhile isPadding).reverse.dropWhile isPadding).reverse

/-- The sign in front of a number, true for minus, and the rest. -/
def takeSign : List Char → Bool × List Char
  | [] => (false, [])
  | c :: rest =>
    if c = '-' then (true, rest) else if c = '+' then (false, rest) else (false, c :: rest)

/-- The value of a digit to a base. Beyond nine the digits are ASCII letters of either case. -/
def digitIn (base : Nat) (c : Char) : Option Nat :=
  let value? :=
    if 'a' ≤ c ∧ c ≤ 'z' then some (c.toNat - 'a'.toNat + 10)
    else if 'A' ≤ c ∧ c ≤ 'Z' then some (c.toNat - 'A'.toNat + 10)
    else Text.digitValue? c
  value?.filter fun d => decide (d < base)

/-- The letter that may follow a zero in front of an integer to some bases. -/
def baseMark (base : Nat) : Option Char :=
  if base = 2 then some 'b' else if base = 8 then some 'o' else if base = 16 then some 'x' else none

/-- The digits of an integer without the mark of its base and an underscore after the mark. -/
def dropMark (base : Nat) (s : List Char) : List Char :=
  match s, baseMark base with
  | '0' :: c :: rest, some mark =>
    if c.toLower = mark then (if rest.head? = some '_' then rest.tail else rest) else s
  | _, _ => s

/-- Reads digits up to the end of the text: the value and the number of digits. `due` tells that a
digit has to come next. -/
def readDigits (base : Nat) (value count : Nat) (due : Bool) : List Char → Option (Nat × Nat)
  | [] => if due then none else some (value, count)
  | c :: rest =>
    if c = '_' then (if due then none else readDigits base value count true rest)
    else
      match digitIn base c with
      | some d => readDigits base (value * base + d) (count + 1) false rest
      | none => none

/-- The most decimal digits of an integer that is read or written. -/
def maxDigits : Nat := 4300

/-- Whether a character may occur among the digits of an integer. -/
def isDigitPart (base : Nat) (c : Char) : Bool := c = '_' || (digitIn base c).isSome

/-- The integer that a text spells to a base. The number of digits is looked at before what follows
them. -/
def readInteger (base : Nat) (s : List Char) : Except IntegerFault Int :=
  let (negative, spelled) := takeSign (trim s)
  let digits := dropMark base spelled
  match readDigits base 0 0 true (digits.takeWhile (isDigitPart base)) with
  | none => .error .malformed
  | some (n, count) =>
    if base = 10 ∧ maxDigits < count then .error (.tooLong count)
    else if !(digits.dropWhile (isDigitPart base)).isEmpty then .error .malformed
    else .ok (if negative then -(n : Int) else n)

/-- Whether an integer has too many decimal digits to be written. -/
def isTooLong (i : Int) : Bool := decide (Nat.pow 10 maxDigits ≤ i.natAbs)

/-- The wording of the fault that an integer has too many digits to be written. -/
def tooLongMessage : String :=
  "Exceeds the limit (4300 digits) for integer string conversion; " ++
    "use sys.set_int_max_str_digits() to increase the limit"

/-- Decimal digits of any script at the start of a text: their values, and the rest. -/
def spanDigits : List Char → List Nat × List Char
  | [] => ([], [])
  | c :: rest =>
    match Text.digitValue? c with
    | none => ([], c :: rest)
    | some d =>
      let (ds, rest) := spanDigits rest
      (d :: ds, rest)

/-- The number with given decimal digits. -/
def ofDigits (ds : List Nat) : Nat := ds.foldl (fun n d => n * 10 + d) 0

/-- The power of ten behind the digits of a number; nothing if the text is none. -/
def readExponent : List Char → Option Int
  | [] => some 0
  | c :: rest =>
    if c = 'e' ∨ c = 'E' then
      let (negative, rest) := takeSign rest
      match spanDigits rest with
      | ([], _) => none
      | (ds, []) => some (if negative then -(ofDigits ds : Int) else ofDigits ds)
      | (_, _ :: _) => none
    else none

/-- The digits after the point of a number, if there is a point, and the rest. -/
def readFraction : List Char → List Nat × List Char
  | [] => ([], [])
  | c :: rest => if c = '.' then spanDigits rest else ([], c :: rest)

/-- The names of the numbers that are not finite. -/
def namedReal (s : List Char) : Option Binary64 :=
  let name := String.ofList (s.map Char.toLower)
  if name = "inf" ∨ name = "infinity" then some (.infinite false)
  else if name = "nan" then some .nan
  else none

/-- The number that a text spells without its sign. -/
def readMagnitude (s : List Char) : Option Binary64 :=
  match namedReal s with
  | some x => some x
  | none =>
    let (whole, rest) := spanDigits s
    let (fraction, rest) := readFraction rest
    if whole.isEmpty && fraction.isEmpty then none
    else
      (readExponent rest).map fun e =>
        .ofDecimal false (ofDigits (whole ++ fraction)) (e - fraction.length)

/-- The number of floating point that a text spells. -/
def readReal (s : List Char) : Option Binary64 :=
  let (negative, s) := takeSign (trim s)
  (readMagnitude s).map fun x => if negative then x.neg else x

end ImportLint.Number
