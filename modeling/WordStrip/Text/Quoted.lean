import WordStrip.Text.Printable

/-!
# Quoted texts

A quoted text stands between two equal quotes on one line. The quotes are apostrophes unless the
text has an apostrophe and no double quote. Inside, the quote itself and the backslash take a
backslash, and every character that cannot be seen is written by its number, so no text can end the
line it is quoted on. Truth values are shown by a word.
-/

namespace WordStrip.Text

/-- The digits of `n` in base 16, in small letters. -/
def hexDigits (n : Nat) : List Char := Nat.toDigits 16 n

/-- The digits of `n` in base 16, with zeros in front up to `width`. -/
def hexPadded (width n : Nat) : List Char :=
  List.replicate (width - (hexDigits n).length) '0' ++ hexDigits n

/-- A code point by its number, in the shortest of three widths. -/
def escapeByNumber (n : Nat) : List Char :=
  if n < 0x100 then '\\' :: 'x' :: hexPadded 2 n
  else if n < 0x10000 then '\\' :: 'u' :: hexPadded 4 n
  else '\\' :: 'U' :: hexPadded 8 n

/-- A character as it stands between two quotes. -/
def quotedChar (quote c : Char) : List Char :=
  if c = quote ∨ c = '\\' then ['\\', c]
  else if c = '\n' then ['\\', 'n']
  else if c = '\r' then ['\\', 'r']
  else if c = '\t' then ['\\', 't']
  else if isPrintable c then [c]
  else escapeByNumber c.toNat

/-- The quote that a text takes: the double quote only where that spares escapes. -/
def quoteFor (cs : List Char) : Char := if cs.contains '\'' && !cs.contains '"' then '"' else '\''

/-- The characters between quotes. -/
def quotedChars (cs : List Char) : List Char :=
  quoteFor cs :: (cs.flatMap (quotedChar (quoteFor cs)) ++ [quoteFor cs])

/-- The text between quotes. -/
def quoted (s : String) : String := String.ofList (quotedChars s.toList)

/-- A truth value as a word. -/
def shownBool (b : Bool) : String := if b then "True" else "False"

end WordStrip.Text
