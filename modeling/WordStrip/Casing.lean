import WordStrip.Locale

/-!
# Casing by locale

Upper-casing follows the default mapping of each letter, except that Turkish and Azerbaijani have a
dotted capital for `i`. Capitalizing changes the first code point alone.
-/

namespace WordStrip

/-- How the letters of a language are put in upper case. -/
structure Casing where
  dottedI : Bool := false
  deriving DecidableEq, Repr

namespace Casing

/-- The languages in which `i` keeps its dot. -/
def dottedLanguages : List String := ["tr", "az"]

/-- The casing of a locale; without one it is the default. -/
def ofLocale : Option Locale → Casing
  | some locale => { dottedI := dottedLanguages.contains locale.language }
  | none => {}

/-- The capital form of a character. -/
def upperOf (casing : Casing) (c : Char) : List Char :=
  if casing.dottedI && c == 'i' then ['İ'] else Text.upperOf c

/-- The characters in upper case. -/
def upperChars (casing : Casing) (cs : List Char) : List Char := cs.flatMap casing.upperOf

/-- The characters with the first one in upper case. -/
def capitalizeChars (casing : Casing) : List Char → List Char
  | [] => []
  | c :: rest => casing.upperOf c ++ rest

/-- The text in upper case. -/
def upper (casing : Casing) (s : String) : String := String.ofList (casing.upperChars s.toList)

/-- The text with its first code point in upper case. -/
def capitalize (casing : Casing) (s : String) : String :=
  String.ofList (casing.capitalizeChars s.toList)

end Casing

end WordStrip
