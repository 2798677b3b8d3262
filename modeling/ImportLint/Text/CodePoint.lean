/-!
# Code points

A text that comes with escapes is a list of code points. Nearly all code points are characters. The
others are the halves of surrogate pairs: an escape can name one of them alone, and then it stays in
the text although no character belongs to it.
-/

namespace ImportLint

/-- A code point: a character, or half of a surrogate pair that stands alone. -/
inductive CodePoint
  | char (c : Char)
  | half (index : Fin 2048)
  deriving DecidableEq, Repr

namespace CodePoint

/-- The number of a code point. -/
def toNat : CodePoint → Nat
  | .char c => c.toNat
  | .half i => 0xD800 + i

/-- The code point of a number. Beyond the last one the number stands for the character zero. -/
def ofNat (n : Nat) : CodePoint :=
  if h : 0xD800 ≤ n ∧ n < 0xE000 then .half ⟨n - 0xD800, by omega⟩ else .char (Char.ofNat n)

/-- The character that a code point is. Half of a pair counts as the replacement character. -/
def toChar : CodePoint → Char
  | .char c => c
  | .half _ => '\ufffd'

/-- Whether a code point is the first half of a pair. -/
def isFirstHalf : CodePoint → Bool
  | .char _ => false
  | .half i => decide (i < 1024)

/-- Whether a code point is the second half of a pair. -/
def isSecondHalf : CodePoint → Bool
  | .char _ => false
  | .half i => decide (1024 ≤ i)

/-- The character of a pair, by its two halves. -/
def join (first second : CodePoint) : CodePoint :=
  .char (Char.ofNat (0x10000 + (first.toNat - 0xD800) * 1024 + (second.toNat - 0xDC00)))

end CodePoint

/-- A text of code points. -/
abbrev CodeText : Type := List CodePoint

namespace CodeText

/-- The text of characters. -/
def ofChars (s : List Char) : CodeText := s.map .char

/-- The text of a string. -/
def ofString (s : String) : CodeText := ofChars s.toList

instance : Coe String CodeText := ⟨ofString⟩

/-- The characters of a text, in which half of a pair counts as the replacement character. -/
def chars (s : CodeText) : List Char := s.map CodePoint.toChar

@[simp] theorem ofString_append (s t : String) :
    ofString (s ++ t) = ofString s ++ ofString t := by
  simp [ofString, ofChars]

theorem ofString_inj {s t : String} : ofString s = ofString t ↔ s = t := by
  unfold ofString ofChars
  rw [List.map_inj_right fun _ _ h => CodePoint.char.inj h, String.toList_inj]

end CodeText

end ImportLint
