import WordStrip.Candidate
import WordStrip.EditDistance
import WordStrip.Number.Numeral

/-!
# Scores by closeness

A lookup score says how common a word is. To tell whether the word is meant, its score is weighted
by how close it is to what was typed: a millionth of the score, times the part of the word that
need not be edited. A word that would have to be edited throughout counts nothing.

`Closeness` holds the three whole numbers that this is computed from, `Closeness.exact` is the value
and `Closeness.toFloat` its double.
-/

namespace WordStrip

open WordStrip.Number

/-- The score of a suggestion, its distance from the typed word and its length. -/
structure Closeness where
  score : Int
  distance : Nat
  length : Nat
  deriving DecidableEq, Repr

namespace Closeness

/-- What a weighted score is a fraction of. -/
def scale : Nat := 1000000

/-- How close `after` is to the typed word `before`; none when it counts nothing: when one of them
is empty, `after` is all spaces, the score is not positive, or every letter would be edited. -/
def of? (before after : String) (score : Int) : Option Closeness :=
  if before.isEmpty || after.toList.all (· == ' ') then none
  else
    let distance := editDistance before after
    if score ≤ 0 ∨ after.length ≤ distance then none
    else some { score, distance, length := after.length }

/-- The weighted score. -/
def exact (c : Closeness) : Rat := (c.score : Rat) / scale * (1 - (c.distance : Rat) / c.length)

/-- The weighted score as a double, rounded at each step. -/
def toFloat (c : Closeness) : Except NumeralError Float := do
  let score ← floatOfInt c.score
  return score / Float.ofNat scale * (1.0 - Float.ofNat c.distance / Float.ofNat c.length)

end Closeness

/-- The score of `after` weighted by its closeness to the typed word `before`. -/
def weightedScore (before after : String) (score : Int) : Except NumeralError Float :=
  match Closeness.of? before after score with
  | some closeness => closeness.toFloat
  | none => .ok 0.0

/-- Whether a candidate is listed as the replacement for what was typed. -/
def Candidate.isWhitelisted (c : Candidate) : Bool := c.kind == .whitelist

/-- Whether a suggestion for `considered` reaches the threshold. A listed replacement always does,
no suggestion never. -/
def exceedsThreshold (suggestion : Option Candidate) (considered : String) (threshold : Float) :
    Except NumeralError Bool :=
  match suggestion with
  | none => .ok false
  | some c =>
    if c.isWhitelisted then .ok true
    else do
      let score ← weightedScore considered c.text c.score
      return threshold ≤ score

end WordStrip
