import WordStrip.Number.Binary

/-!
# The shortest text of a double

A double is written with the fewest digits that are read back as the same double, and of those
digits with the ones nearest to it. A double has its own interval: the numbers nearer to it than to
its neighbours, with the ends when its mantissa is even. The digits are sought grid by grid, from
one digit to seventeen, among the two points of the grid next to the value.

The digits are then laid out: with a power of ten when the first digit stands at least sixteen
places before the point or more than four behind it, otherwise around a point with a digit on both
sides.
-/

namespace WordStrip.Number

/-- The numbers that are read back as one double, as fractions with the denominator `den`. -/
structure Interval where
  low : Nat
  value : Nat
  high : Nat
  den : Nat
  closed : Bool

/-- The interval of a positive double. Below a power of two the neighbour is twice as near. -/
def Binary.interval (b : Binary) : Interval :=
  let scale := Nat.pow 2 b.exponent.toNat
  let narrow := b.mantissa = hiddenBit ∧ -1074 < b.exponent
  { low := (4 * b.mantissa - (if narrow then 1 else 2)) * scale
    value := 4 * b.mantissa * scale
    high := (4 * b.mantissa + 2) * scale
    den := 4 * Nat.pow 2 (-b.exponent).toNat
    closed := b.mantissa % 2 = 0 }

/-- Whether the fraction `num / den` lies in an interval. -/
def Interval.contains (i : Interval) (num den : Nat) : Bool :=
  let below := i.low * den
  let above := i.high * den
  let point := num * i.den
  if i.closed then below ≤ point && point ≤ above else below < point && point < above

/-- The power of ten `10 ^ e` as a fraction. -/
def powerOfTen (e : Int) : Nat × Nat := (Nat.pow 10 e.toNat, Nat.pow 10 (-e).toNat)

/-- The point of the grid `10 ^ e` that lies in the interval and next to its value. -/
def Interval.onGrid? (i : Interval) (e : Int) : Option Nat :=
  let (unit, unitDen) := powerOfTen e
  let num := i.value * unitDen
  let den := i.den * unit
  let lower := num / den
  let inside := fun n : Nat => i.contains (n * unit) unitDen
  match inside lower, inside (lower + 1) with
  | true, true => some (nearestEven num den)
  | true, false => some lower
  | false, true => some (lower + 1)
  | false, false => none

/-- The exponent of the first digit: the largest `e` with `10 ^ e` at or below the fraction. The
bit lengths give an estimate that is at most one too large. -/
def leadingExponent (num den : Nat) : Int :=
  let bits : Int := (num.log2 : Int) - den.log2
  let guess := Int.fdiv (bits * 30103) 100000 + 1
  let reaches := fun e : Int => (powerOfTen e).1 * den ≤ num * (powerOfTen e).2
  if reaches guess then guess else if reaches (guess - 1) then guess - 1 else guess - 2

/-- The largest count of digits that a double needs. -/
def digitsEnough : Nat := 17

/-- The digits and the exponent of the last one, from the first of the grids that has a point in
the interval. -/
def Interval.shortest (i : Interval) : Nat × Int :=
  let top := leadingExponent i.value i.den
  let grids := (List.range digitsEnough).map fun n : Nat => top - n
  (grids.findSome? fun e => (i.onGrid? e).map (·, e)).getD (i.value / i.den, 0)

/-- The digits of `n` without the zeros at the end. -/
def significantDigits (n : Nat) : List Char :=
  ((Nat.toDigits 10 n).reverse.dropWhile (· == '0')).reverse

/-- The text of the number whose first digit stands at the power `e` of ten. -/
def layOut (digits : List Char) (e : Int) : List Char :=
  if e < -4 ∨ 16 ≤ e then
    let mantissa :=
      match digits with
      | first :: second :: rest => first :: '.' :: second :: rest
      | _ => digits
    let power := Nat.toDigits 10 e.natAbs
    mantissa ++ ['e', if e < 0 then '-' else '+'] ++
      List.replicate (2 - power.length) '0' ++ power
  else if e < 0 then
    '0' :: '.' :: (List.replicate (e.natAbs - 1) '0' ++ digits)
  else
    let places := e.toNat + 1
    let whole := digits.take places ++ List.replicate (places - digits.length) '0'
    let rest := digits.drop places
    whole ++ '.' :: (if rest.isEmpty then ['0'] else rest)

/-- The shortest text of the size of a finite double. -/
def Binary.shortestChars (b : Binary) : List Char :=
  if b.mantissa = 0 then ['0', '.', '0']
  else
    let (n, e) := b.interval.shortest
    layOut (significantDigits n) (e + (Nat.toDigits 10 n).length - 1)

/-- The shortest text of a double. -/
def shortest (x : Float) : String :=
  match binary? x with
  | some b => (if b.negative then "-" else "") ++ String.ofList b.shortestChars
  | none => if x.isNaN then "nan" else if x < 0 then "-inf" else "inf"

end WordStrip.Number
