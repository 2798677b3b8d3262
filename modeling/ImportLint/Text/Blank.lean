import ImportLint.Text.Ranges

/-!
# Blanks

The characters that separate words: the space separators of every script, and the controls that
move to another column, line or record.
-/

namespace ImportLint.Text

/-- The intervals of blank characters. -/
def blankRanges : Ranges := [
  (0x9, 0xD), (0x1C, 0x20), (0x85, 0x85), (0xA0, 0xA0), (0x1680, 0x1680), (0x2000, 0x200A),
  (0x2028, 0x2029), (0x202F, 0x202F), (0x205F, 0x205F), (0x3000, 0x3000)]

/-- Whether a character is blank. -/
def isBlank (c : Char) : Bool := Ranges.covers blankRanges c.toNat

/-- A text without the blanks at its two ends. -/
def strip (s : List Char) : List Char :=
  ((s.dropWhile isBlank).reverse.dropWhile isBlank).reverse

end ImportLint.Text
