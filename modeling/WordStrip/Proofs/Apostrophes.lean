import WordStrip.Apostrophes

/-!
# Laws of apostrophes

A text is its stem with the apostrophes behind it, and in one way only: a stem ends in no apostrophe, so
that there is nothing to choose about where the apostrophes begin (`splits_iff`).
-/

namespace WordStrip.Apostrophes

/-! ## Stems -/

/-- A stem ends in no apostrophe. -/
def IsStem (cs : List Char) : Prop := cs.getLast? ≠ some apostrophe

theorem isStem_of_not_mem {cs : List Char} (absent : apostrophe ∉ cs) : IsStem cs := by
  intro last
  exact absent (List.mem_of_getLast? last)

/-- Only the end counts. -/
theorem isStem_append {cs ds : List Char} (more : ds ≠ []) : IsStem (cs ++ ds) ↔ IsStem ds := by
  simp [IsStem, List.getLast?_append, List.getLast?_eq_some_getLast more]

theorem isStem_stemChars (cs : List Char) : IsStem (stemChars cs) := by
  have first := List.head?_dropWhile_not (· == apostrophe) cs.reverse
  intro last
  rw [stemChars, List.getLast?_reverse] at last
  rw [last] at first
  simp at first

theorem countChars_of_isStem {cs : List Char} (ends : IsStem cs) : countChars cs = 0 := by
  rw [IsStem, ← List.head?_reverse] at ends
  unfold countChars
  cases back : cs.reverse with
  | nil => rfl
  | cons last front =>
    have differs : last ≠ apostrophe := by
      rintro rfl
      exact ends (by rw [back, List.head?_cons])
    rw [List.takeWhile_cons_of_neg (by simpa using differs), List.length_nil]

/-- A stem has nothing to lose. -/
theorem stemChars_of_isStem {cs : List Char} (ends : IsStem cs) : stemChars cs = cs := by
  have whole := stemChars_append cs
  rwa [countChars_of_isStem ends, List.replicate_zero, List.append_nil] at whole

/-- The characters are those of a stem with `n` apostrophes behind it exactly when this is how they are
taken apart. -/
theorem eq_append_iff {cs stem : List Char} {n : Nat} :
    (cs = stem ++ List.replicate n apostrophe ∧ IsStem stem) ↔
      stemChars cs = stem ∧ countChars cs = n := by
  constructor
  · rintro ⟨rfl, ends⟩
    rw [stemChars_append_replicate, countChars_append, stemChars_of_isStem ends,
      countChars_of_isStem ends, Nat.zero_add]
    exact ⟨rfl, rfl⟩
  · rintro ⟨rfl, rfl⟩
    exact ⟨(stemChars_append cs).symm, isStem_stemChars cs⟩

/-! ## Texts -/

/-- The text with `n` apostrophes behind it. -/
def trail (n : Nat) (s : String) : String := s ++ String.ofList (List.replicate n apostrophe)

theorem toList_trail (n : Nat) (s : String) :
    (trail n s).toList = s.toList ++ List.replicate n apostrophe := by
  simp [trail]

theorem trail_injective (n : Nat) : Function.Injective (trail n) := by
  intro s t same
  have chars := congrArg String.toList same
  rw [toList_trail, toList_trail] at chars
  exact String.toList_inj.mp (List.append_cancel_right chars)

theorem stem_trail (n : Nat) (s : String) : stem (trail n s) = stem s := by
  rw [stem, toList_trail, stemChars_append_replicate, stem]

theorem count_trail (n : Nat) (s : String) : count (trail n s) = count s + n := by
  rw [count, toList_trail, countChars_append, count]

/-- The text is `stem` with `n` apostrophes behind it, and `stem` ends in none. -/
def Splits (text stem : String) (n : Nat) : Prop := text = trail n stem ∧ IsStem stem.toList

/-- A text splits in one way. -/
theorem splits_iff {text word : String} {n : Nat} :
    Splits text word n ↔ stem text = word ∧ count text = n := by
  rw [Splits, ← String.toList_inj, toList_trail, eq_append_iff, stem, count, ← String.toList_inj,
    String.toList_ofList]

end WordStrip.Apostrophes
