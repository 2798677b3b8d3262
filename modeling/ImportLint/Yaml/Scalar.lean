import ImportLint.Number.Literal
import ImportLint.Text.Base64
import ImportLint.Text.Lower
import ImportLint.Value.Basic
import ImportLint.Yaml.Token

/-!
# Values of scalars

A scalar has a kind, which its tag gives or, without a tag, its spelling; and a kind tells which
value the text of the scalar spells.
-/

namespace ImportLint.Yaml

/-- The kinds of nodes. -/
inductive Kind
  | null
  | bool
  | int
  | real
  | moment
  | text
  | binary
  | sequence
  | mapping
  | set
  /-- A list of pairs, also under the name of an ordered mapping. -/
  | pairs
  /-- The key whose value is merged into the mapping. -/
  | merge
  /-- The key whose value stands for the mapping where a scalar is wanted. -/
  | default
  | unknown
  deriving DecidableEq, Repr

/-- The start of the tags of the standard kinds. -/
def standardTag : String := "tag:yaml.org,2002:"

/-- The kind of a tag. -/
def Kind.ofTag (tag : String) : Kind :=
  if tag = standardTag ++ "null" then .null
  else if tag = standardTag ++ "bool" then .bool
  else if tag = standardTag ++ "int" then .int
  else if tag = standardTag ++ "float" then .real
  else if tag = standardTag ++ "timestamp" then .moment
  else if tag = standardTag ++ "str" then .text
  else if tag = standardTag ++ "binary" then .binary
  else if tag = standardTag ++ "seq" then .sequence
  else if tag = standardTag ++ "map" then .mapping
  else if tag = standardTag ++ "set" then .set
  else if tag = standardTag ++ "omap" then .pairs
  else if tag = standardTag ++ "pairs" then .pairs
  else if tag = standardTag ++ "merge" then .merge
  else if tag = standardTag ++ "value" then .default
  else .unknown

/-! ### Spellings -/

/-- Whether a character is an ASCII digit between two others. -/
def isBetween (lo hi c : Char) : Bool := lo ≤ c && c ≤ hi

/-- Whether a character is an ASCII digit. -/
def isDecimal (c : Char) : Bool := isBetween '0' '9' c

/-- Whether a character may stand behind the first digit of a number. -/
def isDigitOrBar (c : Char) : Bool := isDecimal c || c = '_'

/-- Whether a text is a digit of `lo` to `hi` before digits and underscores. -/
def isDigitRun (lo hi : Char) : List Char → Bool
  | [] => false
  | c :: rest => isBetween lo hi c && rest.all isDigitOrBar

/-- Whether a text is a number below sixty with one or two digits. -/
def isSixtieth : List Char → Bool
  | [a] => isDecimal a
  | [a, b] => isBetween '0' '5' a && isDecimal b
  | _ => false

/-- Whether a text is a number to the base sixty, its first digit `lo` to `hi`. -/
def isBaseSixty (lo hi : Char) (s : List Char) : Bool :=
  match s.splitOn ':' with
  | first :: second :: more => isDigitRun lo hi first && (second :: more).all isSixtieth
  | _ => false

/-- Whether a text without sign spells an integer. -/
def isNatural (s : List Char) : Bool :=
  match s with
  | [] => false
  | a :: rest =>
    (a = '0' && rest.isEmpty) || isDigitRun '1' '9' s || isBaseSixty '1' '9' s ||
      (a = '0' && rest.all fun c => isBetween '0' '7' c || c = '_') ||
      match rest with
      | b :: c :: more =>
        let digits := c :: more
        a = '0' &&
          ((b = 'b' && digits.all fun d => d = '0' || d = '1' || d = '_') ||
            (b = 'x' && digits.all fun d =>
              d = '_' || (Number.digitIn 16 d).isSome && d.toNat < 128))
      | _ => false

/-- Whether a text is empty or the power of ten behind a number. -/
def isExponent : List Char → Bool
  | [] => true
  | e :: sign :: d :: more =>
    (e = 'e' || e = 'E') && (sign = '-' || sign = '+') && (d :: more).all isDecimal
  | _ => false

/-- Whether a text starts with a point and goes on with digits, `least` at the least, and perhaps a
power of ten. -/
def isFraction (least : Bool) : List Char → Bool
  | [] => false
  | c :: rest =>
    c = '.' && (!least || (rest.head?.map isDecimal).getD false) &&
      isExponent (rest.dropWhile isDigitOrBar)

/-- Whether a text spells a number of floating point. -/
def isReal (s : List Char) : Bool :=
  let unsigned := (Number.takeSign s).2
  let whole := unsigned.takeWhile (· ≠ '.')
  let rest := unsigned.dropWhile (· ≠ '.')
  (isDigitRun '0' '9' whole && isFraction false rest) || isFraction true s ||
    (isBaseSixty '0' '9' whole && rest.head? = some '.' && rest.tail.all isDigitOrBar) ||
    [".inf", ".Inf", ".INF"].contains (String.ofList unsigned) ||
    [".nan", ".NaN", ".NAN"].contains (String.ofList s)

/-! ### Dates -/

/-- The time of a day as it is spelled: the digits after the point of the second, and what the clock
is ahead in minutes. -/
structure Clock where
  hour : Nat
  minute : Nat
  second : Nat
  fraction : List Char
  offset : Option Int

/-- A date as it is spelled, and perhaps a time. -/
structure Spelled where
  year : Nat
  month : Nat
  day : Nat
  clock : Option Clock

/-- A number of `least` to `most` digits, and what follows. -/
def takeNumber (least most : Nat) (s : List Char) : Option (Nat × List Char) :=
  let digits := (s.take most).takeWhile isDecimal
  if digits.length < least then none
  else some (digits.foldl (fun n c => n * 10 + (c.toNat - '0'.toNat)) 0, s.drop digits.length)

/-- What follows a character. -/
def takeChar (c : Char) (s : List Char) : Option (List Char) :=
  if s.head? = some c then some s.tail else none

/-- What the clock is ahead, from behind the sign to the end of the text. -/
def takeOffset (s : List Char) : Option Int := do
  let (hours, rest) ← takeNumber 1 2 s
  if rest.isEmpty then return hours * 60
  let (minutes, rest) ← takeNumber 2 2 (← takeChar ':' rest)
  if rest.isEmpty then return hours * 60 + minutes else none

/-- The zone of a time up to the end of the text: nothing, universal time, or an offset. -/
def takeZone (s : List Char) : Option (Option Int) :=
  match s.dropWhile isSpace with
  | [] => if s.isEmpty then some none else none
  | c :: rest =>
    if c = 'Z' then (if rest.isEmpty then some (some 0) else none)
    else if c = '+' then (takeOffset rest).map some
    else if c = '-' then (takeOffset rest).map fun o => some (-o)
    else none

/-- A time up to the end of the text. -/
def takeClock (s : List Char) : Option Clock := do
  let (hour, rest) ← takeNumber 1 2 s
  let (minute, rest) ← takeNumber 2 2 (← takeChar ':' rest)
  let (second, rest) ← takeNumber 2 2 (← takeChar ':' rest)
  let (fraction, rest) :=
    match takeChar '.' rest with
    | some after => (after.takeWhile isDecimal, after.dropWhile isDecimal)
    | none => ([], rest)
  return ⟨hour, minute, second, fraction, ← takeZone rest⟩

/-- What follows the separator of a date and a time. -/
def takeSeparator : List Char → Option (List Char)
  | [] => none
  | c :: rest =>
    if c = 'T' ∨ c = 't' then some rest
    else if isSpace c then some (rest.dropWhile isSpace)
    else none

/-- The date, and perhaps the time, that a text spells. -/
def spelled? (s : List Char) : Option Spelled := do
  let (year, rest) ← takeNumber 4 4 s
  let (month, rest) ← takeNumber 1 2 (← takeChar '-' rest)
  let (day, rest) ← takeNumber 1 2 (← takeChar '-' rest)
  if rest.isEmpty then return ⟨year, month, day, none⟩
  return ⟨year, month, day, some (← takeClock (← takeSeparator rest))⟩

/-- Whether a text is spelled as a date. Without a time a date has ten characters. -/
def isMoment (s : List Char) : Bool :=
  match spelled? s with
  | none => false
  | some d => d.clock.isSome || s.length = 10

/-! ### Kinds by spelling -/

/-- A text without one line end behind it. -/
def dropLineEnd (s : List Char) : List Char :=
  if s.getLast? = some '\n' then s.dropLast else s

/-- The spellings of truth values. -/
def truthWords : List String := [
  "yes", "Yes", "YES", "no", "No", "NO", "true", "True", "TRUE", "false", "False", "FALSE", "on",
  "On", "ON", "off", "Off", "OFF"]

/-- The kind of a scalar without a tag. -/
def Kind.ofPlain (text : CodeText) : Kind :=
  let s := dropLineEnd text.chars
  let word := String.ofList s
  if truthWords.contains word then .bool
  else if isReal s then .real
  else if isNatural (Number.takeSign s).2 then .int
  else if word = "<<" then .merge
  else if text.isEmpty || ["~", "null", "Null", "NULL"].contains word then .null
  else if isMoment s then .moment
  else if word = "=" then .default
  else if ["!", "&", "*"].contains word then .unknown
  else .text

/-! ### Values

Half of a surrogate pair belongs to no spelling of a number, a date or bytes, as the replacement
character does not. -/

/-- The integer that a text spells to a base. -/
def integerIn (base : Nat) (s : CodeText) : Except Fault Int :=
  match Number.readInteger base s.chars with
  | .ok i => .ok i
  | .error .malformed => .error (.integer base s)
  | .error (.tooLong n) => .error (.longInteger n)

/-- A text without its underscores. -/
def dropBars (s : CodeText) : CodeText := s.filter (· ≠ .char '_')

/-- The sign in front of a text, true for minus, and the rest. -/
def takeSign (s : CodeText) : Bool × CodeText :=
  let (negative, rest) := Number.takeSign s.chars
  (negative, s.drop (s.length - rest.length))

/-- The integer that a text without sign and underscores spells. -/
def naturalValue (s : CodeText) : Except Fault Int :=
  match s with
  | [] => .error .emptyNumber
  | a :: rest =>
    if a = .char '0' ∧ rest.isEmpty then .ok 0
    else if a = .char '0' ∧ rest.head? = some (.char 'b') then integerIn 2 rest.tail
    else if a = .char '0' ∧ rest.head? = some (.char 'x') then integerIn 16 rest.tail
    else if a = .char '0' then integerIn 8 s
    else if s.contains (.char ':') then do
      let digits ← (s.splitOn (.char ':')).mapM (integerIn 10)
      return digits.foldl (fun n d => n * 60 + d) 0
    else integerIn 10 s

/-- The integer that a text spells. -/
def integerValue (text : CodeText) : Except Fault Int :=
  match dropBars text with
  | [] => .error .emptyNumber
  | s => do
    let (negative, digits) := takeSign s
    let i ← naturalValue digits
    return if negative then -i else i

/-- The number of floating point that a text spells. -/
def realIn (s : CodeText) : Except Fault Binary64 :=
  match Number.readReal s.chars with
  | some x => .ok x
  | none => .error (.real s)

/-- The sum of digits to the base sixty, the last digit first; `weight` is that of the first. -/
def sixtySum (weight : Nat) (sum : Binary64) : List Binary64 → Except Fault Binary64
  | [] => .ok sum
  | d :: rest =>
    match Binary64.ofInt weight with
    | .infinite _ => .error .hugeWeight
    | w => sixtySum (weight * 60) (sum.add (d.mul w)) rest

/-- The number of floating point that a text without sign and underscores spells. -/
def magnitudeValue (s : CodeText) : Except Fault Binary64 :=
  if s = .ofString ".inf" then .ok (.infinite false)
  else if s.contains (.char ':') then do
    let digits ← (s.splitOn (.char ':')).mapM realIn
    sixtySum 1 (.zero false) digits.reverse
  else realIn s

/-- Whether a text spells the not-a-number that is equal to itself. -/
def isSharedNan (text : CodeText) : Bool :=
  (takeSign (Text.lower (dropBars text))).2 = .ofString ".nan"

/-- The number of floating point that a text spells, with its sign. -/
def realValue (text : CodeText) : Except Fault Binary64 :=
  match Text.lower (dropBars text) with
  | [] => .error .emptyNumber
  | s => do
    let (negative, digits) := takeSign s
    if digits = .ofString ".nan" then return .nan
    let x ← magnitudeValue digits
    return if negative then x.neg else x

/-- The truth value that a text spells, in letters of either case. -/
def truthValue (text : CodeText) : Except Fault Bool :=
  let word := Text.lower text
  let isIn (words : List String) : Bool := words.any fun w => word = .ofString w
  if isIn ["yes", "true", "on"] then .ok true
  else if isIn ["no", "false", "off"] then .ok false
  else .error (.truth word)

/-- The microseconds of the digits after the point of a second. -/
def microseconds (digits : List Char) : Nat :=
  let six := digits.take 6
  six.foldl (fun n c => n * 10 + (c.toNat - '0'.toNat)) 0 * Nat.pow 10 (6 - six.length)

/-- The date or moment that a text spells. -/
def momentValue (text : CodeText) : Except Fault Value :=
  match spelled? (dropLineEnd text.chars) with
  | none => .error .moment
  | some d =>
    match d.clock with
    | none =>
      match Date.ofNumbers d.year d.month d.day with
      | .ok date => .ok (.date date)
      | .error f => .error (.calendar f)
    | some c =>
      match Moment.ofNumbers d.year d.month d.day c.hour c.minute c.second
          (microseconds c.fraction) c.offset with
      | .ok m => .ok (.moment m)
      | .error f => .error (.calendar f)

/-- The bytes that a text spells. -/
def binaryValue (text : CodeText) : Except Fault (List UInt8) :=
  if text.any fun p => decide (127 < p.toNat) then .error .malformed
  else
    match Text.Base64.decode text.chars with
    | some bytes => .ok bytes
    | none => .error .malformed

/-- The value that a text spells as a scalar of a kind. -/
def scalarValue (kind : Kind) (text : CodeText) : Except Fault Value :=
  match kind with
  | .null => .ok .null
  | .bool => (truthValue text).map .bool
  | .int => (integerValue text).map .int
  | .real => (realValue text).map .real
  | .moment => momentValue text
  | .text => .ok (.text text)
  | .binary => (binaryValue text).map .bytes
  | _ => .error .malformed

end ImportLint.Yaml
