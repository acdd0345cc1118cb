/-!
# Sets of code points

A property of characters is a set of code points with long runs of members. It is written down as
its boundaries in ascending order: where the members begin, where they stop, where they begin
again. A code point belongs to the set exactly when an odd number of boundaries lie at or below it.
-/

namespace WordStrip

/-- A set of code points, by its boundaries in ascending order. -/
structure CodeSet where
  boundaries : List Nat

/-- Whether the number of leading boundaries at or below `n` is odd. -/
def CodeSet.between : List Nat → Nat → Bool
  | [], _ => false
  | b :: rest, n => decide (b ≤ n) && !between rest n

/-- Whether a character belongs to the set. -/
def CodeSet.contains (s : CodeSet) (c : Char) : Bool := between s.boundaries c.toNat

/-- No code point below the first boundary is a member. -/
theorem CodeSet.between_of_lt {b n : Nat} (rest : List Nat) (h : n < b) :
    between (b :: rest) n = false := by
  simp [between, Nat.not_le.mpr h]

end WordStrip
