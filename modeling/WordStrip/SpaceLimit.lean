import WordStrip.Candidate
import WordStrip.Entries

/-!
# Limits on words with spaces

Some languages write compounds in one word, and a dictionary that lacks a compound offers its parts
with a space between them. Such a language has a limit: a longer text with a space in it is shown,
but never put in place of the typed word.
-/

namespace WordStrip

/-- The limits by language, whose names are in lower case. -/
abbrev SpaceLimits := Entries Int

namespace SpaceLimits

/-- The limit of a language. -/
def limit? (limits : SpaceLimits) (language : String) : Option Int :=
  Entries.get? limits (Text.lower language)

/-- Whether a candidate may replace the typed word: one without locale, limit or space may, and
one that is no longer than its limit. -/
def allows (limits : SpaceLimits) (c : Candidate) : Bool :=
  match c.locale with
  | none => true
  | some locale =>
    match limits.limit? locale.language with
    | none => true
    | some limit => (c.text.length : Int) ≤ limit || !c.text.toList.contains ' '

end SpaceLimits

end WordStrip
