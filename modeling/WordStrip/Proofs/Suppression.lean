import Mathlib.Data.List.Perm.Subperm
import WordStrip.Proofs.Distinct

/-!
# The order of the two filters

A gesture's candidates pass two filters: repetitions go, and distractions go. The order matters. When
repetitions go first, a distraction that is the first of its text takes the place of every candidate with
that text, is left out afterwards, and the word is lost. When distractions go first, the word is shown.

Nothing else can happen. The walk over all candidates has met every text that the walk over those above
the floor has met, so of the candidates above the floor it leaves no others
(`sublist_keepFirst_aboveFloor`). As both leave no text twice, they agree when they leave the same words
(`aboveFloor_keepFirst_eq_iff`). `aboveFloor_distinct_iff` says when no word is lost; in a list where
scores do not rise, none is.
-/

namespace WordStrip.Distinct

variable {c : Candidate} {rest : List Candidate}

theorem aboveFloor_cons_of_lt (above : floorScore < c.score) :
    aboveFloor (c :: rest) = c :: aboveFloor rest :=
  List.filter_cons_of_pos (decide_eq_true above)

theorem aboveFloor_cons_of_le (low : c.score ≤ floorScore) :
    aboveFloor (c :: rest) = aboveFloor rest :=
  List.filter_cons_of_neg (by simpa using low)

theorem mem_aboveFloor {cs : List Candidate} : c ∈ aboveFloor cs ↔ c ∈ cs ∧ floorScore < c.score := by
  simp [aboveFloor]

/-- What is left when repetitions go before distractions is left, in the same order, when distractions go
first. In the second walk no text may be met that is not met in the first. -/
theorem sublist_keepFirst_aboveFloor {seen met : List String} (fewer : met ⊆ seen)
    (cs : List Candidate) :
    (aboveFloor (keepFirst seen cs)).Sublist (keepFirst met (aboveFloor cs)) := by
  induction cs generalizing seen met with
  | nil => exact List.nil_sublist _
  | cons c rest ih =>
    by_cases low : c.score ≤ floorScore
    -- a distraction is in neither list, but its text is met in the first walk only
    · have further : met ⊆ c.text :: seen := List.subset_cons_of_subset c.text fewer
      rw [aboveFloor_cons_of_le low]
      by_cases known : c.text ∈ seen
      · rw [keepFirst_cons_of_mem known]
        exact ih fewer
      · rw [keepFirst_cons_of_not_mem known, aboveFloor_cons_of_le low]
        exact ih further
    · have above : floorScore < c.score := Int.not_le.mp low
      rw [aboveFloor_cons_of_lt above]
      by_cases known : c.text ∈ seen
      · rw [keepFirst_cons_of_mem known]
        by_cases repeated : c.text ∈ met
        · rw [keepFirst_cons_of_mem repeated]
          exact ih fewer
        · rw [keepFirst_cons_of_not_mem repeated]
          exact (ih (List.cons_subset.mpr ⟨known, fewer⟩)).cons c
      · rw [keepFirst_cons_of_not_mem known, keepFirst_cons_of_not_mem (mt (@fewer _) known),
          aboveFloor_cons_of_lt above]
        exact (ih (List.cons_subset_cons c.text fewer)).cons_cons c

/-- The walk leaves every word. -/
theorem mem_words_keepFirst {word : String} {cs : List Candidate} :
    word ∈ (keepFirst [] cs).map (·.text) ↔ ∃ c ∈ cs, c.text = word := by
  rw [List.mem_map]
  constructor
  · rintro ⟨c, left, text⟩
    exact ⟨c, List.mem_of_find?_eq_some (mem_keepFirst.mp left).2, text⟩
  · intro offered
    obtain ⟨first, found, text⟩ := exists_first offered
    exact ⟨first, mem_keepFirst.mpr ⟨List.not_mem_nil, by rwa [IsFirst, text]⟩, text⟩

/-- The order of the filters does not matter when every word with a candidate above the floor has its
first candidate above the floor. -/
theorem aboveFloor_keepFirst_eq_iff {cs : List Candidate} :
    aboveFloor (keepFirst [] cs) = keepFirst [] (aboveFloor cs) ↔
      ∀ word, (∃ c ∈ cs, c.text = word ∧ floorScore < c.score) →
        ∃ c, cs.find? (·.text == word) = some c ∧ floorScore < c.score := by
  have shown (word : String) : word ∈ (keepFirst [] (aboveFloor cs)).map (·.text) ↔
      ∃ c ∈ cs, c.text = word ∧ floorScore < c.score := by
    simp only [mem_words_keepFirst, mem_aboveFloor, and_assoc, and_comm]
  constructor
  · intro same word offered
    rw [← mem_words_iff, same]
    exact (shown word).mpr offered
  -- the words of the longer list are different, so that it is no longer than a list with all of them
  · intro kept
    have fewer := sublist_keepFirst_aboveFloor (List.Subset.refl []) cs
    have words : (keepFirst [] (aboveFloor cs)).map (·.text) ⊆
        (aboveFloor (keepFirst [] cs)).map (·.text) := by
      intro word mem
      exact mem_words_iff.mpr (kept word ((shown word).mp mem))
    have length := ((nodup_keepFirst [] (aboveFloor cs)).subperm words).length_le
    rw [List.length_map, List.length_map] at length
    exact fewer.eq_of_length_le length

/-- A candidate that the strip shows when repetitions go before distractions, it shows when distractions
go first, in the same order. The two strips are the same exactly when no distraction that is the first of
its text stands before a candidate with that text above the floor; so they are where scores do not
rise. -/
theorem aboveFloor_distinct_iff (cs : List Candidate) :
    (aboveFloor (distinct none cs)).Sublist (distinct none (aboveFloor cs)) ∧
      (aboveFloor (distinct none cs) = distinct none (aboveFloor cs) ↔
        ∀ c, IsFirst cs c → c.score ≤ floorScore →
          ∀ d ∈ cs, d.text = c.text → d.score ≤ floorScore) ∧
      ((cs.Pairwise fun a b => b.score ≤ a.score) →
        aboveFloor (distinct none cs) = distinct none (aboveFloor cs)) := by
  rw [distinct_none, distinct_none]
  refine ⟨sublist_keepFirst_aboveFloor (List.Subset.refl []) cs, ?_, ?_⟩
  · rw [aboveFloor_keepFirst_eq_iff]
    constructor
    · intro kept c first low d mem text
      refine Int.not_lt.mp fun above => ?_
      obtain ⟨e, found, high⟩ := kept c.text ⟨d, mem, text, above⟩
      obtain rfl : c = e := Option.some.inj (first.symm.trans found)
      exact absurd low (Int.not_le.mpr high)
    · rintro lossless word ⟨d, mem, rfl, above⟩
      obtain ⟨c, found, text⟩ := exists_first ⟨d, mem, rfl⟩
      have first : IsFirst cs c := by rwa [IsFirst, text]
      refine ⟨c, found, Int.not_le.mp fun low => ?_⟩
      exact absurd (lossless c first low d mem text.symm) (Int.not_le.mpr above)
  · intro falling
    rw [aboveFloor_keepFirst_eq_iff]
    intro word
    exact (first_above_iff falling).mpr

/-- A list where scores do not rise, with a word that is repeated above the floor, and repeated on it. -/
def cats : List Candidate := [
  { text := "cat", score := 300 }, { text := "car", score := 200 }, { text := "cat", score := 100 },
  { text := "cap", score := -2000000000 }, { text := "car", score := -2000000000 }]

/-- In the list with falling scores no word is lost. -/
theorem cats_filtered :
    (cats.Pairwise fun a b => b.score ≤ a.score) ∧
      aboveFloor (distinct none cats) = distinct none (aboveFloor cats) ∧
      (aboveFloor (distinct none cats)).map (·.text) = ["cat", "car"] := by
  have falling : cats.Pairwise fun a b => b.score ≤ a.score := by decide
  exact ⟨falling, (aboveFloor_distinct_iff cats).2.2 falling, by decide⟩

/-- A distraction in front of its own word: the strip is empty, and with the distraction gone first it
would have the word. -/
example :
    let cs : List Candidate := [
      { text := "cat", score := -2000000000 }, { text := "cat", score := 300 }]
    aboveFloor (distinct none cs) = [] ∧
      distinct none (aboveFloor cs) = [{ text := "cat", score := 300 }] := by
  decide

end WordStrip.Distinct
