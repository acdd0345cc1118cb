/-!
# Apostrophes at the end of a word

A word may be typed with apostrophes behind it, which its corrections have to carry too. The word
without them is its stem.
-/

namespace WordStrip

/-- The apostrophe. -/
def apostrophe : Char := '\''

namespace Apostrophes

/-- The count of apostrophes at the end. -/
def countChars (cs : List Char) : Nat := (cs.reverse.takeWhile (· == apostrophe)).length

/-- The characters before the apostrophes at the end. -/
def stemChars (cs : List Char) : List Char := (cs.reverse.dropWhile (· == apostrophe)).reverse

/-- The count of apostrophes at the end of a text. -/
def count (s : String) : Nat := countChars s.toList

/-- The text without the apostrophes at its end. -/
def stem (s : String) : String := String.ofList (stemChars s.toList)

/-- How many apostrophes a text takes when `wanted` stood behind the typed word: a text that has
one already takes one less. -/
def missing (cs : List Char) (wanted : Int) : Nat :=
  (wanted - (if cs.contains apostrophe then 1 else 0)).toNat

/-- Taking one character while it lasts gives copies of it. -/
theorem takeWhile_beq (c : Char) (cs : List Char) :
    cs.takeWhile (· == c) = List.replicate (cs.takeWhile (· == c)).length c := by
  induction cs with
  | nil => rfl
  | cons d rest ih =>
    by_cases h : d = c
    · subst h
      simpa [List.takeWhile_cons, List.replicate_succ] using ih
    · simp [h]

/-- The stem and the apostrophes behind it are the whole text. -/
theorem stemChars_append (cs : List Char) :
    stemChars cs ++ List.replicate (countChars cs) apostrophe = cs := by
  have whole := congrArg List.reverse
    (List.takeWhile_append_dropWhile (p := (· == apostrophe)) (l := cs.reverse))
  rw [takeWhile_beq, List.reverse_append, List.reverse_replicate, List.reverse_reverse] at whole
  exact whole

/-- One apostrophe more behind a text is counted and belongs to no stem. -/
theorem countChars_concat (cs : List Char) : countChars (cs ++ [apostrophe]) = countChars cs + 1 := by
  simp [countChars]

theorem stemChars_concat (cs : List Char) : stemChars (cs ++ [apostrophe]) = stemChars cs := by
  simp [stemChars]

theorem countChars_append (cs : List Char) (n : Nat) :
    countChars (cs ++ List.replicate n apostrophe) = countChars cs + n := by
  induction n with
  | zero => simp
  | succ n ih =>
    rw [List.replicate_succ', ← List.append_assoc, countChars_concat, ih, Nat.add_assoc]

theorem stemChars_append_replicate (cs : List Char) (n : Nat) :
    stemChars (cs ++ List.replicate n apostrophe) = stemChars cs := by
  induction n with
  | zero => simp
  | succ n ih => rw [List.replicate_succ', ← List.append_assoc, stemChars_concat, ih]

/-- The stem is no longer than the text. -/
theorem length_stem_le (s : String) : (stem s).length ≤ s.length := by
  have whole := congrArg List.length (stemChars_append s.toList)
  rw [List.length_append, String.length_toList] at whole
  rw [stem, String.length_ofList]
  omega

/-- A text without an apostrophe lacks all that are wanted. -/
theorem missing_of_not_mem {cs : List Char} (absent : apostrophe ∉ cs) (wanted : Int) :
    missing cs wanted = wanted.toNat := by
  simp [missing, absent]

/-- A text with at most one apostrophe at its end lacks none of its own. -/
theorem missing_countChars {cs : List Char} (few : countChars cs ≤ 1) :
    missing cs (countChars cs) = 0 := by
  unfold missing
  by_cases none : countChars cs = 0
  · rw [none]
    split <;> rfl
  -- the one apostrophe at the end is the one that the text already has
  · have one : countChars cs = 1 := by omega
    have has : apostrophe ∈ cs := by
      rw [← stemChars_append cs, one]
      simp
    simp [one, has]

end Apostrophes

end WordStrip
