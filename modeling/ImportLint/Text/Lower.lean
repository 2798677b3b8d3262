import ImportLint.Text.Casing
import ImportLint.Text.CodePoint

/-!
# Lower case

Full lower-casing of a text. Two characters need more than the simple map: the dotted capital I
becomes two characters, and the capital sigma takes its final form at the end of a word. A sigma is
final when the nearest code point before it that is not passed over has case, and the nearest such
code point after it has none. Half of a surrogate pair has no case and is not passed over.
-/

namespace ImportLint

namespace CodePoint

/-- Whether a code point is passed over where its neighbours look for case. -/
def isCaseIgnorable : CodePoint → Bool
  | .char c => Text.isCaseIgnorable c
  | .half _ => false

/-- Whether a code point has case. -/
def isCased : CodePoint → Bool
  | .char c => Text.isCased c
  | .half _ => false

end CodePoint

namespace Text

/-- Whether the first code point that is not passed over has case. -/
def casedAhead : CodeText → Bool
  | [] => false
  | c :: rest => if c.isCaseIgnorable then casedAhead rest else c.isCased

/-- The lower case of a character on its own. -/
def lowerChar (c : Char) : List Char :=
  if c = 'İ' then ['i', '̇'] else [Char.ofNat (shiftCase caseRuns c.toNat)]

/-- The lower case of a code point on its own. -/
def lowerPoint : CodePoint → CodeText
  | .char c => .ofChars (lowerChar c)
  | .half i => [.half i]

/-- Whether the nearest code point that is not passed over has case, after one more. -/
def casedAfter (cased : Bool) (c : CodePoint) : Bool :=
  if c.isCaseIgnorable then cased else c.isCased

/-- The lower case of a code point that stands between its neighbours: `cased` tells whether the
nearest one before it has case, and `rest` is what follows. -/
def lowerIn (cased : Bool) (c : CodePoint) (rest : CodeText) : CodeText :=
  if c = .char 'Σ' then [.char (if cased && !casedAhead rest then 'ς' else 'σ')] else lowerPoint c

/-- The lower case of a text that stands after a code point with case (`cased`) or without. -/
def lowerFrom (cased : Bool) : CodeText → CodeText
  | [] => []
  | c :: rest => lowerIn cased c rest ++ lowerFrom (casedAfter cased c) rest

/-- The lower case of a text. -/
def lower (s : CodeText) : CodeText := lowerFrom false s

@[simp] theorem lower_nil : lower [] = [] := rfl

end Text

end ImportLint
