import WordStrip.Number.Binary

/-!
# A number of places after the point

The exact value is rounded to the last place, a half going to the even neighbour.
-/

namespace WordStrip.Number

/-- The digits of `n` with zeros in front up to `width`. -/
def paddedDigits (width n : Nat) : List Char :=
  List.replicate (width - (Nat.toDigits 10 n).length) '0' ++ Nat.toDigits 10 n

/-- A finite number with `places` digits after the point. -/
def Binary.fixed (places : Nat) (b : Binary) : String :=
  let (num, den) := b.fraction
  let unit := Nat.pow 10 places
  let scaled := nearestEven (num * unit) den
  (if b.negative then "-" else "") ++
    toString (scaled / unit) ++ "." ++
    String.ofList (paddedDigits places (scaled % unit))

/-- A double with `places` digits after the point. -/
def fixed (places : Nat) (x : Float) : String :=
  match binary? x with
  | some b => b.fixed places
  | none => if x.isNaN then "nan" else if x < 0 then "-inf" else "inf"

end WordStrip.Number
