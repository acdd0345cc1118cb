/-!
# The exact value of a double

A finite double is a whole number times a power of two. Everything that is printed about a double
is computed from that form in exact arithmetic.
-/

namespace WordStrip.Number

/-- The infinite double. -/
def infinity : Float := 1.0 / 0.0

/-- The double that stands for no number. -/
def noNumber : Float := 0.0 / 0.0

/-- The number `± mantissa · 2 ^ exponent`. -/
structure Binary where
  negative : Bool
  mantissa : Nat
  exponent : Int
  deriving DecidableEq, Repr

/-- The bit that a normal double does not store. -/
def hiddenBit : Nat := 0x10000000000000

/-- The form of a finite double; infinities and what is no number have none. -/
def binary? (x : Float) : Option Binary :=
  let bits : Nat := x.toBits.toNat
  let field := bits / hiddenBit % 2048
  let stored := bits % hiddenBit
  if field = 2047 then none
  else some {
    negative := 0x8000000000000000 ≤ bits
    mantissa := if field = 0 then stored else hiddenBit + stored
    exponent := (max field 1 : Nat) - 1075 }

/-- Numerator and denominator of the size of a number. -/
def Binary.fraction (b : Binary) : Nat × Nat :=
  (b.mantissa * Nat.pow 2 b.exponent.toNat, Nat.pow 2 (-b.exponent).toNat)

/-- The whole number nearest to a fraction; of two equally near ones the even. -/
def nearestEven (num den : Nat) : Nat :=
  let floor := num / den
  let twice := 2 * (num % den)
  if twice < den then floor
  else if den < twice then floor + 1
  else floor + floor % 2

end WordStrip.Number
