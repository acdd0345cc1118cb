import WordStrip.Apostrophes
import WordStrip.Candidate
import WordStrip.Casing
import WordStrip.Trace

/-!
# The shape of a typed word

Suggestions take over the shape of the word they replace: all in upper case, or only the first
letter, and with the apostrophes that stand behind it. Each candidate is cased by the locale of its
own dictionary, or by a default when it has none. All else about a candidate stays.
-/

namespace WordStrip

/-- What suggestions take over from the typed word. -/
structure Shape where
  allUpper : Bool := false
  capitalized : Bool := false
  apostrophes : Int := 0
  deriving DecidableEq, Repr

namespace Shape

/-- Whether a shape changes nothing. -/
def isPlain (shape : Shape) : Bool :=
  !shape.allUpper && !shape.capitalized && shape.apostrophes == 0

/-- The characters in the case of a shape. -/
def casedChars (shape : Shape) (casing : Casing) (cs : List Char) : List Char :=
  if shape.allUpper then casing.upperChars cs
  else if shape.capitalized then casing.capitalizeChars cs
  else cs

/-- The characters in a shape. -/
def chars (shape : Shape) (casing : Casing) (cs : List Char) : List Char :=
  shape.casedChars casing cs ++
    List.replicate (Apostrophes.missing cs shape.apostrophes) apostrophe

/-- The text in a shape. -/
def text (shape : Shape) (casing : Casing) (s : String) : String :=
  String.ofList (shape.chars casing s.toList)

/-- The candidate in a shape, cased by `locale`. -/
def candidate (shape : Shape) (locale : Option Locale) (c : Candidate) : Candidate :=
  c.withText (shape.text (.ofLocale locale) c.text)

/-- The candidate in a shape, cased by the locale of its dictionary or else by `default`. -/
def own (shape : Shape) (default : Option Locale) (c : Candidate) : Candidate :=
  shape.candidate (c.locale <|> default) c

/-- The candidates in a shape. -/
def candidates (shape : Shape) (default : Option Locale) (cs : List Candidate) : List Candidate :=
  if shape.isPlain then cs else cs.map (shape.own default)

/-- What is left in the trace: a record unless the shape changes nothing. -/
def trace (shape : Shape) (cs : List Candidate) : List Record :=
  if shape.isPlain then []
  else
    let upper := Text.shownBool shape.allUpper
    let first := Text.shownBool shape.capitalized
    [{ topic := "transform"
       message := s!"transformed {cs.length} candidates (upper={upper}, first={first}, " ++
         s!"quotes={shape.apostrophes})" }]

end Shape

end WordStrip
