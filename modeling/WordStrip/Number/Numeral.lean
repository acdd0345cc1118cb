import WordStrip.Number.Binary
import WordStrip.Text.Blank
import WordStrip.Text.Digit
import WordStrip.Text.Quoted

/-!
# Reading numerals

A numeral is read from a whole text. Blanks around it do not count, a digit may come from any
script, and one underscore may stand between two digits. A whole number is a sign and digits. A
decimal number may have a point and an exponent, or be one of the words for infinity and for no
number; it is rounded to the nearest double, a tie going to the even neighbour.

A whole number may not have more than `digitLimit` digits. That is checked before anything that
follows the digits is looked at. A whole number that came by another way may have more of them, but
then it has no text (`showWhole`).
-/

namespace WordStrip.Number

open WordStrip.Text

/-- Why a text or a value is not the number asked for. -/
inductive NumeralError where
  | notWhole (text : String)
  | notDecimal (text : String)
  | tooManyDigits (count : Nat)
  | notShowable
  | tooLarge
  deriving DecidableEq, Repr

/-- The largest count of digits that a whole number may be written with. -/
def digitLimit : Nat := 4300

/-- The least size that has more digits. -/
def showableBound : Nat := Nat.pow 10 digitLimit

/-- Whether a whole number can be shown. -/
def isShowable (n : Int) : Bool := n.natAbs < showableBound

/-- The text of a whole number, unless it has too many digits. -/
def showWhole (n : Int) : Except NumeralError String :=
  if isShowable n then .ok (toString n) else .error .notShowable

theorem showWhole_eq_ok {n : Int} {s : String} :
    showWhole n = .ok s ↔ isShowable n = true ∧ s = toString n := by
  cases h : isShowable n <;> simp [showWhole, h, eq_comm]

theorem showWhole_eq_error {n : Int} {e : NumeralError} :
    showWhole n = .error e ↔ isShowable n = false ∧ e = .notShowable := by
  cases h : isShowable n <;> simp [showWhole, h, eq_comm]

/-- How much of a quoted text a message on whole numbers shows. -/
def shownWidth : Nat := 200

/-- How a message names the limit of digits. -/
def limitWords : String := s!"Exceeds the limit ({digitLimit} digits) for integer string conversion"

/-- How a message ends that is about the limit of digits. -/
def limitAdvice : String := "use sys.set_int_max_str_digits() to increase the limit"

/-- The wording of a refusal. -/
def NumeralError.message : NumeralError → String
  | .notWhole text =>
    "invalid literal for int() with base 10: " ++
      String.ofList ((quoted text).toList.take shownWidth)
  | .notDecimal text => "could not convert string to float: " ++ quoted text
  | .tooManyDigits count =>
    s!"{limitWords}: value has {count} digits; {limitAdvice}"
  | .notShowable => s!"{limitWords}; {limitAdvice}"
  | .tooLarge => "int too large to convert to float"

/-! ## Digits -/

/-- Whether a character may stand around a numeral: a blank that is no information separator. -/
def isNumeralBlank (c : Char) : Bool := isBlank c && !(0x1C ≤ c.toNat && c.toNat ≤ 0x1F)

/-- A decimal digit of any script as its Western form; other characters stay. -/
def westernDigit (c : Char) : Char :=
  match decimalValue? c with
  | some value => Char.ofNat ('0'.toNat + value)
  | none => c

/-- The characters of a numeral without the blanks around it, its digits in Western form. -/
def numeralChars (s : String) : List Char :=
  (((s.toList.dropWhile isNumeralBlank).reverse.dropWhile isNumeralBlank).reverse).map westernDigit

/-- The number that Western digits write. -/
def ofDigits (cs : List Char) : Nat :=
  cs.foldl (fun value c => 10 * value + (c.toNat - '0'.toNat)) 0

/-- The characters without the underscores that stand between two digits, if all do;
`afterDigit` tells whether a digit stands before them. -/
def ungroup (afterDigit : Bool) : List Char → Option (List Char)
  | [] => some []
  | c :: rest =>
    if c = '_' then
      if afterDigit && (rest.head?.any Char.isDigit) then ungroup false rest else none
    else (ungroup c.isDigit rest).map (c :: ·)

/-- Whether a sign in front is a minus, and what follows the sign. -/
def takeSign : List Char → Bool × List Char
  | '-' :: rest => (true, rest)
  | '+' :: rest => (false, rest)
  | cs => (false, cs)

/-! ## Whole numbers -/

/-- The whole number that a text writes. -/
def readWhole (s : String) : Except NumeralError Int :=
  let (negative, body) := takeSign (numeralChars s)
  let inNumber := fun c : Char => c.isDigit || c == '_'
  match ungroup false (body.takeWhile inNumber) with
  | none => .error (.notWhole s)
  | some digits =>
    if digitLimit < digits.length then .error (.tooManyDigits digits.length)
    else if digits.isEmpty || !(body.dropWhile inNumber).isEmpty then .error (.notWhole s)
    else .ok (if negative then -(ofDigits digits : Int) else ofDigits digits)

/-! ## Decimal numbers -/

/-- The power of ten from which on every number with a digit is infinite, and below whose negative
every number is zero, as the nearest double. -/
def decimalReach : Nat := 400

/-- The double nearest to `mantissa · 10 ^ exponent`, where `mantissa` has `width` digits at most.
Far outside the range of doubles the power itself is not computed. -/
def scaledFloat (mantissa width : Nat) (exponent : Int) : Float :=
  if mantissa = 0 then 0.0
  else if (decimalReach : Int) < exponent then infinity
  else if exponent + (width : Int) < -(decimalReach : Int) then 0.0
  else .ofScientific mantissa (decide (exponent < 0)) exponent.natAbs

/-- The exponent behind an `e`, which takes a sign and at least one digit; with no text left it is
zero. -/
def readExponent : List Char → Option Int
  | [] => some 0
  | c :: rest =>
    if c = 'e' ∨ c = 'E' then
      let (negative, digits) := takeSign rest
      if digits.isEmpty || !digits.all Char.isDigit then none
      else some (if negative then -(ofDigits digits : Int) else ofDigits digits)
    else none

/-- The digits before a point, the digits after it and the exponent, from a text without sign. -/
def readParts (cs : List Char) : Option (List Char × List Char × Int) := do
  let whole := cs.takeWhile Char.isDigit
  let (places, rest) :=
    match cs.dropWhile Char.isDigit with
    | '.' :: rest => (rest.takeWhile Char.isDigit, rest.dropWhile Char.isDigit)
    | rest => ([], rest)
  if whole.isEmpty && places.isEmpty then none
  let exponent ← readExponent rest
  return (whole, places, exponent)

/-- The double nearest to a number given by the digits before and after the point. -/
def floatOfParts (whole places : List Char) (exponent : Int) : Float :=
  scaledFloat (ofDigits (whole ++ places)) (whole.length + places.length)
    (exponent - places.length)

/-- The words for numbers that no digits write. -/
def numberWord? (cs : List Char) : Option Float :=
  let word := String.ofList (cs.map Char.toLower)
  if word = "inf" ∨ word = "infinity" then some infinity
  else if word = "nan" then some noNumber
  else none

/-- The double that the characters of a numeral write. -/
def decimalOfChars? (cs : List Char) : Option Float := do
  let (negative, body) := takeSign (← ungroup false cs)
  let size ← numberWord? body <|> (readParts body).map fun (whole, places, exponent) =>
    floatOfParts whole places exponent
  return if negative then -size else size

/-- The double that a text writes. -/
def readDecimal (s : String) : Except NumeralError Float :=
  match decimalOfChars? (numeralChars s) with
  | some x => .ok x
  | none => .error (.notDecimal s)

/-! ## Whole numbers as doubles -/

/-- The least size that is too large for a double: half a unit above the largest double, a tie going
to the even neighbour, which would be `2 ^ 1024`. -/
def floatBound : Nat := Nat.pow 2 1024 - Nat.pow 2 970

/-- The double nearest to a whole number, unless that would be infinite. -/
def floatOfInt (n : Int) : Except NumeralError Float :=
  if floatBound ≤ n.natAbs then .error .tooLarge else .ok (Float.ofInt n)

end WordStrip.Number
