import WordStrip.Text.Blank
import WordStrip.Text.Case
import WordStrip.Text.Split

/-!
# Locales

A locale is a language and perhaps a country. Its tag is the two joined by an underscore. A tag is
read with hyphens as well as underscores; empty pieces do not count and pieces after the second are
ignored. Reading puts the language in lower and the country in upper case.
-/

namespace WordStrip

/-- A language and a country; the empty text stands for none. -/
structure Locale where
  language : String
  country : String := ""
  deriving DecidableEq, Repr, Inhabited

namespace Locale

/-- Whether a character stands between the pieces of a tag. -/
def isSeparator (c : Char) : Bool := c == '-' || c == '_'

/-- The locale whose language and country are the first two pieces. -/
def ofPieces : List (List Char) → Locale
  | [] => { language := "" }
  | [language] => { language := String.ofList (Text.lowerChars language) }
  | language :: country :: _ =>
    { language := String.ofList (Text.lowerChars language)
      country := String.ofList (Text.upperChars country) }

/-- The locale that a tag names. -/
def parse (tag : String) : Locale :=
  ofPieces ((Text.pieces isSeparator (Text.trimChars tag.toList)).filter fun piece =>
    !piece.isEmpty)

/-- The tag of a locale. -/
def tag (l : Locale) : String :=
  if l.country.isEmpty then l.language else l.language ++ "_" ++ l.country

/-- The locale that most keyboards start with. -/
def americanEnglish : Locale := { language := "en", country := "US" }

end Locale

end WordStrip
