import WordStrip.Entries
import WordStrip.Json.Basic
import WordStrip.Number.Numeral

/-!
# Reading JSON

The reader takes a document apart from left to right and stops at the first fault, which it reports
with its place. Blanks are the space, the tab and the two line ends. `NaN` and the infinities are
numbers. Whole numbers have any size up to `Number.digitLimit` digits. Of several fields with one
name the object keeps the place of the first and the value of the last. Lists and objects may stand
inside each other `depthLimit` deep.

A fault carries the number of characters left where it was found. `Fault.place` turns that into a
line and a column, where only a line feed ends a line.
-/

namespace WordStrip.Json

/-! ## Faults -/

/-- What a reader ran into. -/
inductive Cause where
  | byteOrderMark
  | expectingValue
  | expectingName
  | expectingColon
  | expectingComma
  | controlCharacter
  | unterminatedText
  | badEscape
  | badCodeEscape
  | extraData
  | tooManyDigits (count : Nat)
  | listTooDeep
  | objectTooDeep
  deriving DecidableEq, Repr

/-- A cause and the number of characters left where it arose. -/
structure Fault where
  cause : Cause
  left : Nat
  deriving DecidableEq, Repr

/-- A place in a text: line and column from one, characters before it. -/
structure Place where
  line : Nat
  column : Nat
  offset : Nat
  deriving DecidableEq, Repr

/-- The place after the given characters. -/
def placeAfter (before : List Char) : Place where
  line := before.count '\n' + 1
  column := (before.reverse.takeWhile (· ≠ '\n')).length + 1
  offset := before.length

/-- Why a document cannot be read. The last two are limits, not faults of form. -/
inductive ReadError where
  | malformed (cause : Cause) (place : Place)
  | tooManyDigits (count : Nat)
  | tooDeep (isList : Bool)
  deriving DecidableEq, Repr

/-- The wording of a fault of form. -/
def Cause.message : Cause → String
  | byteOrderMark => "Unexpected UTF-8 BOM (decode using utf-8-sig)"
  | expectingValue => "Expecting value"
  | expectingName => "Expecting property name enclosed in double quotes"
  | expectingColon => "Expecting ':' delimiter"
  | expectingComma => "Expecting ',' delimiter"
  | controlCharacter => "Invalid control character at"
  | unterminatedText => "Unterminated string starting at"
  | badEscape => "Invalid \\escape"
  | badCodeEscape => "Invalid \\uXXXX escape"
  | extraData => "Extra data"
  | tooManyDigits count => (Number.NumeralError.tooManyDigits count).message
  | listTooDeep =>
    "maximum recursion depth exceeded while decoding a JSON array from a unicode string"
  | objectTooDeep =>
    "maximum recursion depth exceeded while decoding a JSON object from a unicode string"

/-- The wording of a failed reading. -/
def ReadError.message : ReadError → String
  | malformed cause place =>
    s!"{cause.message}: line {place.line} column {place.column} (char {place.offset})"
  | tooManyDigits count => (Cause.tooManyDigits count).message
  | tooDeep isList => (if isList then Cause.listTooDeep else Cause.objectTooDeep).message

/-- A fault in a text, placed. -/
def Fault.inText (text : List Char) (fault : Fault) : ReadError :=
  match fault.cause with
  | .tooManyDigits count => .tooManyDigits count
  | .listTooDeep => .tooDeep true
  | .objectTooDeep => .tooDeep false
  | cause => .malformed cause (placeAfter (text.take (text.length - fault.left)))

/-- A reader for one value: it gives the value and the characters after it, or a fault. -/
abbrev ValueReader := List Char → Except Fault (Json × List Char)

/-! ## Blanks and numbers -/

/-- Whether a character separates the parts of a document. -/
def isSpace (c : Char) : Bool := c == ' ' || c == '\t' || c == '\n' || c == '\r'

/-- The characters from the first that is no blank. -/
def skipSpace (cs : List Char) : List Char := cs.dropWhile isSpace

/-- The digits of a number before its point: a zero, or digits that begin with another one. -/
def wholeDigits : List Char → List Char × List Char
  | '0' :: rest => (['0'], rest)
  | cs => (cs.takeWhile Char.isDigit, cs.dropWhile Char.isDigit)

/-- The digits behind a point. A point without any is not part of the number. -/
def placeDigits : List Char → List Char × List Char
  | '.' :: rest =>
    match rest.takeWhile Char.isDigit with
    | [] => ([], '.' :: rest)
    | places => (places, rest.dropWhile Char.isDigit)
  | cs => ([], cs)

/-- The exponent behind an `e`. An `e` without digits is not part of the number. -/
def exponentDigits : List Char → Option Int × List Char
  | [] => (none, [])
  | c :: rest =>
    if c = 'e' ∨ c = 'E' then
      let (negative, body) := Number.takeSign rest
      match body.takeWhile Char.isDigit with
      | [] => (none, c :: rest)
      | digits =>
        let size : Int := Number.ofDigits digits
        (some (if negative then -size else size), body.dropWhile Char.isDigit)
    else (none, c :: rest)

/-- A number; one with neither point nor exponent is whole. -/
def readNumber : ValueReader := fun cs =>
  let negative := cs.head? = some '-'
  let (digits, afterWhole) := wholeDigits (if negative then cs.tail else cs)
  if digits.isEmpty then .error ⟨.expectingValue, cs.length⟩
  else
    let (places, afterPlaces) := placeDigits afterWhole
    let (exponent, rest) := exponentDigits afterPlaces
    if places.isEmpty && exponent.isNone then
      if Number.digitLimit < digits.length then .error ⟨.tooManyDigits digits.length, cs.length⟩
      else
        let size : Int := Number.ofDigits digits
        .ok (.whole (if negative then -size else size), rest)
    else
      let size := Number.floatOfParts digits places (exponent.getD 0)
      .ok (.real (if negative then -size else size), rest)

/-! ## Texts -/

/-- The value of a digit in base 16. -/
def hexValue? (c : Char) : Option Nat :=
  if c.isDigit then some (c.toNat - '0'.toNat)
  else if 'a' ≤ c ∧ c ≤ 'f' then some (c.toNat - 'a'.toNat + 10)
  else if 'A' ≤ c ∧ c ≤ 'F' then some (c.toNat - 'A'.toNat + 10)
  else none

/-- The number that four digits in base 16 write. -/
def code? (a b c d : Char) : Option Nat := do
  let high := 16 * (← hexValue? a) + (← hexValue? b)
  let low := 16 * (← hexValue? c) + (← hexValue? d)
  return 256 * high + low

/-- Whether a code is the first half of a pair that stands for one code point. -/
def isLeadingHalf (n : Nat) : Bool := 0xD800 ≤ n && n < 0xDC00

/-- Whether a code is the second half of such a pair. -/
def isTrailingHalf (n : Nat) : Bool := 0xDC00 ≤ n && n < 0xE000

/-- The code point that two halves stand for. -/
def joinHalves (lead trail : Nat) : Nat := 0x10000 + 1024 * (lead - 0xD800) + (trail - 0xDC00)

/-- The code of an escape behind its `u`. Something has to follow the four digits. -/
def codeEscape? : List Char → Option (Nat × List Char)
  | a :: b :: c :: d :: e :: rest => (code? a b c d).map (·, e :: rest)
  | _ => none

/-- The code point that an escape behind its `u` writes, with the second half that may follow. -/
def pairedEscape? (cs : List Char) : Option (Char × List Char) := do
  let (lead, rest) ← codeEscape? cs
  let single := (Char.ofNat lead, rest)
  match rest with
  | '\\' :: 'u' :: more =>
    match codeEscape? more with
    | some (trail, after) =>
      if isLeadingHalf lead && isTrailingHalf trail then
        return (Char.ofNat (joinHalves lead trail), after)
      else return single
    | none => return single
  | _ => return single

/-- The character that a one-letter escape stands for. -/
def letterEscape? : Char → Option Char
  | '"' => some '"'
  | '\\' => some '\\'
  | '/' => some '/'
  | 'b' => some '\x08'
  | 'f' => some '\x0c'
  | 'n' => some '\n'
  | 'r' => some '\r'
  | 't' => some '\t'
  | _ => none

/-- The rest of a text whose opening quote stood where `opening` characters were left. -/
def readTextFrom (opening : Nat) : Nat → List Char → Except Fault (List Char × List Char)
  | 0, _ => .error ⟨.unterminatedText, opening⟩
  | _ + 1, [] => .error ⟨.unterminatedText, opening⟩
  | fuel + 1, c :: rest =>
    if c = '"' then .ok ([], rest)
    else if c = '\\' then
      match rest with
      | [] => .error ⟨.unterminatedText, opening⟩
      | 'u' :: code =>
        match pairedEscape? code with
        | none => .error ⟨.badCodeEscape, rest.length⟩
        | some (letter, after) => do
          let (more, final) ← readTextFrom opening fuel after
          return (letter :: more, final)
      | letter :: after =>
        match letterEscape? letter with
        | none => .error ⟨.badEscape, rest.length + 1⟩
        | some letter => do
          let (more, final) ← readTextFrom opening fuel after
          return (letter :: more, final)
    else if c.toNat ≤ 0x1F then .error ⟨.controlCharacter, rest.length + 1⟩
    else do
      let (more, final) ← readTextFrom opening fuel rest
      return (c :: more, final)

/-- A text behind its opening quote. -/
def readText (cs : List Char) : Except Fault (String × List Char) := do
  let (letters, rest) ← readTextFrom (cs.length + 1) (cs.length + 1) cs
  return (String.ofList letters, rest)

/-! ## Lists and objects -/

/-- The items of a list up to its closing bracket, by a reader for one of them. -/
def readItems (item : ValueReader) :
    Nat → List Char → Except Fault (List Json × List Char)
  | 0, cs => .error ⟨.expectingValue, cs.length⟩
  | fuel + 1, cs => do
    let (first, rest) ← item cs
    match skipSpace rest with
    | ']' :: after => return ([first], after)
    | ',' :: after =>
      let (more, final) ← readItems item fuel (skipSpace after)
      return (first :: more, final)
    | other => .error ⟨.expectingComma, other.length⟩

/-- One field: its name, a colon and its value. -/
def readField (item : ValueReader) :
    List Char → Except Fault ((String × Json) × List Char)
  | '"' :: rest => do
    let (name, afterName) ← readText rest
    match skipSpace afterName with
    | ':' :: rest =>
      let (value, final) ← item (skipSpace rest)
      return ((name, value), final)
    | other => .error ⟨.expectingColon, other.length⟩
  | cs => .error ⟨.expectingName, cs.length⟩

/-- The fields of an object up to its closing brace, by a reader for one value. -/
def readFields (item : ValueReader) :
    Nat → List Char → Except Fault (List (String × Json) × List Char)
  | 0, cs => .error ⟨.expectingName, cs.length⟩
  | fuel + 1, cs => do
    let (first, rest) ← readField item cs
    match skipSpace rest with
    | '\x7d' :: after => return ([first], after)
    | ',' :: after =>
      let (more, final) ← readFields item fuel (skipSpace after)
      return (first :: more, final)
    | other => .error ⟨.expectingComma, other.length⟩

/-- A list behind its opening bracket. -/
def readList (item : ValueReader) : ValueReader := fun cs =>
  match skipSpace cs with
  | ']' :: rest => .ok (.list [], rest)
  | inner => do
    let (items, rest) ← readItems item (inner.length + 1) inner
    return (.list items, rest)

/-- An object behind its opening brace. -/
def readObject (item : ValueReader) : ValueReader := fun cs =>
  match skipSpace cs with
  | '\x7d' :: rest => .ok (.object [], rest)
  | inner => do
    let (fields, rest) ← readFields item (inner.length + 1) inner
    return (.object (Entries.ofPairs fields), rest)

/-! ## Values -/

/-- How deep lists and objects may stand inside each other. -/
def depthLimit : Nat := 990

/-- The words that are values. -/
def words : List (String × Json) := [
  ("null", .null), ("true", .bool true), ("false", .bool false), ("NaN", .real Number.noNumber),
  ("Infinity", .real Number.infinity), ("-Infinity", .real (-Number.infinity))]

/-- The word that the characters begin with, and what follows it. -/
def readWord? (cs : List Char) : Option (Json × List Char) :=
  words.findSome? fun (word, value) =>
    if word.toList.isPrefixOf cs then some (value, cs.drop word.length) else none

/-- One value, with lists and objects at most `depth` deep. -/
def readValue : Nat → ValueReader
  | _, [] => .error ⟨.expectingValue, 0⟩
  | depth, c :: rest =>
    if c = '"' then do
      let (s, after) ← readText rest
      return (.text s, after)
    else if c = '[' then
      match depth with
      | 0 => .error ⟨.listTooDeep, rest.length⟩
      | inner + 1 => readList (readValue inner) rest
    else if c = '\x7b' then
      match depth with
      | 0 => .error ⟨.objectTooDeep, rest.length⟩
      | inner + 1 => readObject (readValue inner) rest
    else
      match readWord? (c :: rest) with
      | some found => .ok found
      | none => readNumber (c :: rest)

/-- The one value of a document. -/
def readDocument (cs : List Char) : Except Fault Json := do
  if cs.head? = some '\uFEFF' then throw ⟨.byteOrderMark, cs.length⟩
  let (value, rest) ← readValue depthLimit (skipSpace cs)
  match skipSpace rest with
  | [] => return value
  | extra => throw ⟨.extraData, extra.length⟩

/-- The value of the document that a text is. -/
def read (s : String) : Except ReadError Json :=
  (readDocument s.toList).mapError (Fault.inText s.toList)

end WordStrip.Json
