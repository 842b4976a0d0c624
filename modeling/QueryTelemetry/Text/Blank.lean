import QueryTelemetry.Text.Ranges

/-!
# Blank characters

A character is blank when it separates words: the white space of Unicode together with the four
information separators. `trim` takes blanks off both ends of a text.
-/

namespace QueryTelemetry.Text

/-- The stretches of blank code points. -/
def blankBounds : List Nat := [
  9, 14, 28, 33, 133, 134, 160, 161, 5760, 5761,
  8192, 8203, 8232, 8234, 8239, 8240, 8287, 8288, 12288, 12289]

/-- Whether a character is blank. -/
def isBlank (c : Char) : Bool := inRanges blankBounds c.toNat

/-- The characters of a text without the blanks at both ends. -/
def trimChars (cs : List Char) : List Char :=
  ((cs.dropWhile isBlank).reverse.dropWhile isBlank).reverse

/-- A text without the blanks at both ends. -/
def trim (s : String) : String := String.ofList (trimChars s.toList)

/-- Whether a text holds nothing but blanks. -/
def isBlankText (s : String) : Bool := s.toList.all isBlank

end QueryTelemetry.Text
