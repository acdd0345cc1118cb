import WordStrip.Json.Basic

/-!
# Writing JSON

A value is written over several lines, each level indented by two blanks; an empty list or object
stays on one line. Inside a text the double quote, the backslash and the control characters are
escaped and everything else stands as it is.
-/

namespace WordStrip.Json

/-- A character as it stands inside a written text. -/
def writtenChar (c : Char) : List Char :=
  if c = '"' ∨ c = '\\' then ['\\', c]
  else if c = '\n' then ['\\', 'n']
  else if c = '\r' then ['\\', 'r']
  else if c = '\t' then ['\\', 't']
  else if c = '\x08' then ['\\', 'b']
  else if c = '\x0c' then ['\\', 'f']
  else if c.toNat < 0x20 then '\\' :: 'u' :: Text.hexPadded 4 c.toNat
  else [c]

/-- A text between double quotes. -/
def writtenText (s : String) : String :=
  "\"" ++ String.ofList (s.toList.flatMap writtenChar) ++ "\""

/-- A number with a point; the three that no digits write have words. -/
def writtenReal (x : Float) : String :=
  if x.isNaN then "NaN"
  else if x.isInf then if x < 0 then "-Infinity" else "Infinity"
  else Number.shortest x

/-- A new line at a level of nesting. -/
def lineBreak (level : Nat) : String := "\n" ++ String.ofList (List.replicate (2 * level) ' ')

/-- Written parts between brackets, one a line. -/
def bracketed (opening closing : String) (level : Nat) (parts : List String) : String :=
  if parts.isEmpty then opening ++ closing
  else
    opening ++ lineBreak (level + 1) ++ ("," ++ lineBreak (level + 1)).intercalate parts ++
      lineBreak level ++ closing

mutual

/-- A value written at a level of nesting. -/
def writeAt (level : Nat) : Json → String
  | null => "null"
  | bool b => if b then "true" else "false"
  | whole n => toString n
  | real x => writtenReal x
  | text s => writtenText s
  | list items => bracketed "[" "]" level (writeItems (level + 1) items)
  | object fields => bracketed "\x7b" "\x7d" level (writeFields (level + 1) fields)

/-- The items of a list, written at a level of nesting. -/
def writeItems (level : Nat) : List Json → List String
  | [] => []
  | item :: rest => writeAt level item :: writeItems level rest

/-- The fields of an object, written at a level of nesting. -/
def writeFields (level : Nat) : List (String × Json) → List String
  | [] => []
  | (name, value) :: rest =>
    (writtenText name ++ ": " ++ writeAt level value) :: writeFields level rest

end

/-- A value written from the left margin. -/
def write (value : Json) : String := writeAt 0 value

end WordStrip.Json
