import WordStrip.Text.Case

/-!
# Edit distance

The distance between two texts is the least count of edits that turn one into the other: an
insertion, a deletion, a substitution, or the exchange of two neighbours, where no letter takes part
in two edits. Upper and lower case do not differ.

The costs are computed row by row, from the ends of the texts to their beginnings. The row of a
suffix of the first text holds the cost of turning it into each suffix of the second, the longest
first; the row of the next longer suffix follows from the two rows before it.
-/

namespace WordStrip

namespace EditDistance

/-- The row of the empty suffix: every letter of the other text is inserted. -/
def emptyRow : List Char → List Nat
  | [] => [0]
  | b :: bs => ((b :: bs).length) :: emptyRow bs

/-- The cost of exchanging `a` and the letter behind it, when the other text begins with the two in
exchanged order; `swap` is that letter with the row of what follows it, from here on. -/
def swapCost? (a : Char) (swap : Option (Char × List Nat)) (bs : List Char) : Option Nat :=
  match swap, bs with
  | some (a', row), b :: b' :: _ => if a = b' ∧ a' = b then (row[2]?).map (· + 1) else none
  | _, _ => none

/-- The row of a suffix that begins with `a`, from the row `below` of the rest of it. -/
def extendRow (a : Char) (swap : Option (Char × List Nat)) :
    (below : List Nat) → (bs : List Char) → List Nat
  | below, [] => [below.headD 0 + 1]
  | below, b :: bs =>
    let right := extendRow a (swap.map fun (a', row) => (a', row.tail)) below.tail bs
    let delete := below.headD 0 + 1
    let insert := right.headD 0 + 1
    let substitute := below.tail.headD 0 + if a = b then 0 else 1
    let cheapest := min delete (min insert substitute)
    let cost :=
      match swapCost? a swap (b :: bs) with
      | some exchange => min cheapest exchange
      | none => cheapest
    cost :: right

/-- The row of a suffix, with its first letter and the row below. -/
def rows (bs : List Char) : List Char → List Nat × Option (Char × List Nat)
  | [] => (emptyRow bs, none)
  | a :: as =>
    let (below, swap) := rows bs as
    (extendRow a swap below bs, some (a, below))

/-- The least count of edits that turn one list of letters into the other. -/
def ofChars (as bs : List Char) : Nat := (rows bs as).1.headD 0

end EditDistance

/-- The distance between two texts, their case aside. -/
def editDistance (before after : String) : Nat :=
  EditDistance.ofChars (Text.lowerChars before.toList) (Text.lowerChars after.toList)

end WordStrip
