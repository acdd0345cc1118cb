import WordStrip.Text.CodeSet

/-!
# Blanks

White space in the sense of Unicode 14, and with it the four information separators. Trimming takes
blanks off both ends of a text and leaves those inside.
-/

namespace WordStrip.Text

/-- White space and separators. -/
def blanks : CodeSet where
  boundaries := [
    0x9, 0xE, 0x1C, 0x21, 0x85, 0x86, 0xA0, 0xA1, 0x1680, 0x1681, 0x2000, 0x200B, 0x2028,
    0x202A, 0x202F, 0x2030, 0x205F, 0x2060, 0x3000, 0x3001]

/-- Whether a code point is a blank. -/
def isBlank (c : Char) : Bool := blanks.contains c

/-- The characters without blanks at either end. -/
def trimChars (cs : List Char) : List Char :=
  ((cs.dropWhile isBlank).reverse.dropWhile isBlank).reverse

/-- The text without blanks at either end. -/
def trim (s : String) : String := String.ofList (trimChars s.toList)

end WordStrip.Text
