import WordStrip.Proofs.EditDistance
import WordStrip.Score

/-!
# Suggestions that count

A suggestion counts for a typed word when nothing stands against it (`Closeness.Counts`), and then it has
its score, its distance and its length (`Closeness.of?_of_counts`). Proofs about closeness open it through
these laws.
-/

namespace WordStrip

/-- A text without anything but spaces; the empty text is one. -/
def AllSpaces (s : String) : Prop := ∀ c ∈ s.toList, c = ' '

instance (s : String) : Decidable (AllSpaces s) :=
  List.decidableBAll (fun c => c = ' ') s.toList

namespace Closeness

variable {before after : String} {score : Int}

/-- A suggestion counts something for a typed word: both are texts that can be compared, the score is
above zero, and not every letter would be edited. -/
structure Counts (before after : String) (score : Int) : Prop where
  typed : before ≠ ""
  visible : ¬ AllSpaces after
  positive : 0 < score
  near : editDistance before after < after.length

theorem not_counts_iff : ¬ Counts before after score ↔
    before = "" ∨ AllSpaces after ∨ score ≤ 0 ∨ after.length ≤ editDistance before after := by
  constructor
  · intro nothing
    by_contra all
    simp only [not_or, Int.not_le, Nat.not_le] at all
    obtain ⟨typed, visible, positive, near⟩ := all
    exact nothing ⟨typed, visible, positive, near⟩
  · rintro (blank | spaces | low | far) counts
    · exact counts.typed blank
    · exact counts.visible spaces
    · exact Int.not_le.mpr counts.positive low
    · exact Nat.not_le.mpr counts.near far

theorem isBlank_iff : (before.isEmpty || after.toList.all (· == ' ')) = true ↔
    before = "" ∨ AllSpaces after := by
  simp [AllSpaces]

theorem of?_of_counts (counts : Counts before after score) :
    of? before after score = some ⟨score, editDistance before after, after.length⟩ := by
  have texts : ¬ (before = "" ∨ AllSpaces after) := not_or.mpr ⟨counts.typed, counts.visible⟩
  have weighs : ¬ (score ≤ 0 ∨ after.length ≤ editDistance before after) :=
    not_or.mpr ⟨Int.not_le.mpr counts.positive, Nat.not_le.mpr counts.near⟩
  rw [of?, if_neg (isBlank_iff.not.mpr texts)]
  exact if_neg weighs

theorem of?_of_not_counts (nothing : ¬ Counts before after score) :
    of? before after score = none := by
  rw [of?]
  split
  case isTrue => rfl
  case isFalse texts =>
    obtain ⟨typed, visible⟩ := not_or.mp (isBlank_iff.not.mp texts)
    apply if_pos
    by_contra weighs
    obtain ⟨positive, near⟩ := not_or.mp weighs
    exact nothing ⟨typed, visible, Int.not_le.mp positive, Nat.not_le.mp near⟩

/-- What a suggestion counts with has the score that was asked for, which is positive. -/
theorem score_of? {closeness : Closeness} (close : of? before after score = some closeness) :
    closeness.score = score ∧ 0 < score := by
  by_cases counts : Counts before after score
  · rw [of?_of_counts counts] at close
    obtain rfl := Option.some.inj close
    exact ⟨rfl, counts.positive⟩
  · exact nomatch (of?_of_not_counts counts).symm.trans close

/-- Where a suggestion counts as much for two words, it is at the same distance from both. -/
theorem distance_eq_of_of?_eq {other : String}
    (counts : Counts other after score) (same : of? before after score = of? other after score) :
    editDistance before after = editDistance other after := by
  rw [of?_of_counts counts] at same
  by_cases also : Counts before after score
  · rw [of?_of_counts also] at same
    exact congrArg distance (Option.some.inj same)
  · rw [of?_of_not_counts also] at same
    exact nomatch same

end Closeness

end WordStrip
