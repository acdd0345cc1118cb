import WordStrip.EditDistance
import WordStrip.Proofs.Alignment

/-!
# The edit distance is a least cost

The distance is computed row by row, with the two rows before a row at hand. The laws here say what
the rows hold: the row of `as` holds the least cost of an alignment of `as` to each suffix of the other
text (`IsRow`). A row is extended from right to left. Each entry is the cheapest of the steps that an
alignment can begin with, and what these go on with are the entry to the right, the entry below and the
one below and to the right, and for an exchange the entry two to the right in the row behind the letter
that is exchanged (`isRow_extendRow`). That row runs along with the others, as `IsBehind` says.

So the whole table is right (`isRow_rows`), and the distance is the least cost of an alignment of the
texts in lower case (`editDistance_isLeast`). What else is known of the distance comes from alignments:
reading them backwards costs as much, only equal texts are aligned for nothing, and an edit makes a text
longer or shorter by one letter at most.
-/

namespace WordStrip

namespace EditDistance

variable {as bs : List Char} {a b : Char} {row : List Nat}

/-! ## Rows -/

/-- A row of least costs: of turning `as` into each suffix of a text, the longest first. -/
inductive IsRow (as : List Char) : List Char → List Nat → Prop
  | last {n : Nat} (least : LeastCost as [] n) : IsRow as [] [n]
  | next {b : Char} {bs : List Char} {n : Nat} {row : List Nat} (least : LeastCost as (b :: bs) n)
      (rest : IsRow as bs row) : IsRow as (b :: bs) (n :: row)

/-- A row begins with the cost for the whole text. -/
theorem IsRow.headD (isRow : IsRow as bs row) : LeastCost as bs (row.headD 0) := by
  cases isRow with
  | last least => exact least
  | next least rest => exact least

/-- Behind the first entry it is the row for the text without its first letter. -/
theorem IsRow.tail (isRow : IsRow as (b :: bs) row) : IsRow as bs row.tail := by
  cases isRow with
  | next least rest => exact rest

theorem IsRow.getElem?_two {b' : Char} (isRow : IsRow as (b :: b' :: bs) row) :
    ∃ n, row[2]? = some n ∧ LeastCost as bs n := by
  cases isRow with
  | next _ rest =>
    cases rest with
    | next _ rest =>
      cases rest with
      | last least => exact ⟨_, rfl, least⟩
      | next least _ => exact ⟨_, rfl, least⟩

theorem isRow_emptyRow (bs : List Char) : IsRow [] bs (emptyRow bs) := by
  induction bs with
  | nil => exact .last (.nil_left [])
  | cons b bs ih => exact .next (.nil_left (b :: bs)) ih

/-- What a row is extended with beside the row below: the letter that `as` begins with and the row of
what follows it, if there is a letter. -/
inductive IsBehind (bs : List Char) : List Char → Option (Char × List Nat) → Prop
  | none : IsBehind bs [] none
  | letter {a : Char} {as : List Char} {row : List Nat} (isRow : IsRow as bs row) :
      IsBehind bs (a :: as) (some (a, row))

theorem IsBehind.tail {swap : Option (Char × List Nat)} (behind : IsBehind (b :: bs) as swap) :
    IsBehind bs as (swap.map fun (a', row) => (a', row.tail)) := by
  cases behind with
  | none => exact .none
  | letter isRow => exact .letter isRow.tail

/-! ## Steps -/

/-- No exchange is counted where the letters do not stand in exchanged order. -/
theorem swapCost?_eq_none {swap : Option (Char × List Nat)} (behind : IsBehind (b :: bs) as swap)
    (unpriced : swapCost? a swap (b :: bs) = none) :
    ∀ as' bs', as = b :: as' → bs ≠ a :: bs' := by
  rintro as' bs' rfl rfl
  cases behind with
  | letter isRow =>
    obtain ⟨n, entry, -⟩ := isRow.getElem?_two
    simp [swapCost?, entry] at unpriced

/-- Where an exchange is counted, they do, and its cost is one more than that of what follows them. -/
theorem swapCost?_eq_some {swap : Option (Char × List Nat)} {x : Nat}
    (behind : IsBehind (b :: bs) as swap) (priced : swapCost? a swap (b :: bs) = some x) :
    ∃ as' bs' n, as = b :: as' ∧ bs = a :: bs' ∧ LeastCost as' bs' n ∧ x = n + 1 := by
  cases behind with
  | none => exact nomatch priced
  | @letter a' as' row isRow =>
    cases bs with
    | nil => exact nomatch priced
    | cons b' bs' =>
      obtain ⟨n, entry, least⟩ := isRow.getElem?_two
      simp only [swapCost?, entry, Option.map_some, Option.ite_none_right_eq_some,
        Option.some.injEq] at priced
      obtain ⟨⟨rfl, rfl⟩, cost⟩ := priced
      exact ⟨as', bs', n, rfl, rfl, least, cost.symm⟩

/-- The row of a text with a letter more in front follows from the two rows before it. -/
theorem isRow_extendRow (a : Char) {below : List Nat} {swap : Option (Char × List Nat)}
    (isRow : IsRow as bs below) (behind : IsBehind bs as swap) :
    IsRow (a :: as) bs (extendRow a swap below bs) := by
  induction bs generalizing below swap with
  | nil => exact .last isRow.headD.cons_nil
  | cons b bs ih =>
    -- each step leads to an entry for shorter lists: below, to the right, and below to the right
    have right := ih isRow.tail behind.tail
    have delete := isRow.headD
    have insert := right.headD
    have replace := isRow.tail.headD
    refine .next ?_ right
    cases priced : swapCost? a swap (b :: bs) with
    | none => exact .cons_cons delete insert replace (swapCost?_eq_none behind priced)
    | some x =>
      obtain ⟨as', bs', n, rfl, rfl, least, rfl⟩ := swapCost?_eq_some behind priced
      exact .exchange delete insert replace least

/-- Every row of the table is one of least costs. -/
theorem isRow_rows (bs as : List Char) :
    IsRow as bs (rows bs as).1 ∧ IsBehind bs as (rows bs as).2 := by
  induction as with
  | nil => exact ⟨isRow_emptyRow bs, .none⟩
  | cons a as ih =>
    obtain ⟨isRow, behind⟩ := ih
    exact ⟨isRow_extendRow a isRow behind, .letter isRow⟩

/-- The distance of two lists of letters is the least cost of an alignment. -/
theorem leastCost_ofChars (as bs : List Char) : LeastCost as bs (ofChars as bs) :=
  (isRow_rows bs as).1.headD

/-! ## Laws of the distance -/

theorem ofChars_comm (as bs : List Char) : ofChars as bs = ofChars bs as :=
  (leastCost_ofChars as bs).unique (leastCost_ofChars bs as).symm

theorem ofChars_eq_zero_iff : ofChars as bs = 0 ↔ as = bs := (leastCost_ofChars as bs).eq_zero_iff

theorem ofChars_le_max (as bs : List Char) : ofChars as bs ≤ max as.length bs.length :=
  (leastCost_ofChars as bs).le_max

/-- The lengths differ by the distance at most. -/
theorem natAbs_sub_length_le (as bs : List Char) :
    ((as.length : Int) - bs.length).natAbs ≤ ofChars as bs := by
  have longer := (leastCost_ofChars as bs).length_le_add
  have shorter := (leastCost_ofChars as bs).symm.length_le_add
  omega

end EditDistance

/-- Texts without distance differ in case only. -/
theorem editDistance_eq_zero_iff {before after : String} :
    editDistance before after = 0 ↔ Text.lower before = Text.lower after := by
  rw [editDistance, EditDistance.ofChars_eq_zero_iff, ← Text.toList_lower, ← Text.toList_lower,
    String.toList_inj]

/-- The distance of two texts is the least cost of an alignment of the one to the other, both in lower
case: some alignment has this cost, and none is cheaper. So it is the same in both directions, it is
zero for texts that differ in case only, and it lies between the difference of the two lengths and the
greater one. -/
theorem editDistance_isLeast (before after : String) :
    IsLeast (Set.range (@Alignment.cost (Text.lower before).toList (Text.lower after).toList))
        (editDistance before after) ∧
      editDistance before after = editDistance after before ∧
      (editDistance before after = 0 ↔ Text.lower before = Text.lower after) ∧
      ((Text.lower before).length - (Text.lower after).length : Int).natAbs ≤
        editDistance before after ∧
      editDistance before after ≤ max (Text.lower before).length (Text.lower after).length := by
  have distance : editDistance before after =
      EditDistance.ofChars (Text.lower before).toList (Text.lower after).toList := by
    rw [editDistance, Text.toList_lower, Text.toList_lower]
  have backwards : editDistance after before =
      EditDistance.ofChars (Text.lower after).toList (Text.lower before).toList := by
    rw [editDistance, Text.toList_lower, Text.toList_lower]
  rw [distance, backwards, ← String.length_toList, ← String.length_toList]
  refine ⟨EditDistance.leastCost_ofChars _ _, EditDistance.ofChars_comm _ _, ?_,
    EditDistance.natAbs_sub_length_le _ _, EditDistance.ofChars_le_max _ _⟩
  rw [EditDistance.ofChars_eq_zero_iff, String.toList_inj]

/-- An exchange costs one edit, but nothing can be added between the exchanged letters. -/
example : editDistance "Teh" "the" = 1 ∧ editDistance "CA" "abc" = 3 := by
  decide +kernel

end WordStrip
