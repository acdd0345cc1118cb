import Mathlib.Algebra.Order.Field.Basic
import Mathlib.Algebra.Order.Ring.Rat
import Mathlib.Data.Rat.Cast.Order
import Mathlib.Tactic.GCongr
import Mathlib.Tactic.Positivity
import WordStrip.Proofs.Closeness

/-!
# The range of weighted scores

The laws here read the formula of a weighted score in exact arithmetic (`exactScore`): the score in
millions, times the part of the suggestion that need not be edited. They do not speak of the rounding of
doubles.

A suggestion counts when nothing stands against it (`Closeness.Counts`). Then the part that need not be
edited is above zero and at most one, and it is one only for a text that differs from the typed word in
case only. `exactScore_range` puts this together, and says how the weighted score moves: up with the
score, and down with the distance among suggestions of one length. The second has an exception. A
suggestion that is all spaces counts nothing however close it is, so a farther one may count more
(`farther_counts_more`).
-/

namespace WordStrip

/-- The weighted score of `after` for the typed word `before`, in exact arithmetic. -/
def exactScore (before after : String) (score : Int) : Rat :=
  match Closeness.of? before after score with
  | some closeness => closeness.exact
  | none => 0

variable {before after farther : String} {score more : Int}

namespace Closeness

/-! ## The part that need not be edited -/

/-- Where not every letter is edited, it is above zero. -/
theorem weight_pos {distance length : Nat} (near : distance < length) :
    (0 : Rat) < 1 - distance / length := by
  have long : (0 : Rat) < length := Nat.cast_pos.mpr (Nat.zero_lt_of_lt near)
  rw [sub_pos, div_lt_one long]
  exact_mod_cast near

theorem weight_le_one (distance length : Nat) : (1 : Rat) - distance / length ≤ 1 := by
  apply sub_le_self
  positivity

/-- Where no letter is edited, it is the whole. -/
theorem weight_eq_one_iff {distance length : Nat} (near : distance < length) :
    (1 : Rat) - distance / length = 1 ↔ distance = 0 := by
  have long : (length : Rat) ≠ 0 := Nat.cast_ne_zero.mpr (Nat.ne_zero_of_lt near)
  rw [sub_eq_self, div_eq_zero_iff, or_iff_left long, Nat.cast_eq_zero]

end Closeness

open Closeness

/-! ## Exact scores -/

theorem exactScore_of_not_counts (nothing : ¬ Counts before after score) :
    exactScore before after score = 0 := by
  rw [exactScore, of?_of_not_counts nothing]

theorem exactScore_of_counts (counts : Counts before after score) :
    exactScore before after score =
      score / 1000000 * (1 - editDistance before after / after.length) := by
  have scaled : ((scale : Nat) : Rat) = 1000000 := by norm_num [scale]
  rw [exactScore, of?_of_counts counts, ← scaled]
  rfl

/-- A score above zero is one in millions. -/
theorem millions_pos (positive : 0 < score) : (0 : Rat) < score / 1000000 := by
  have : (0 : Rat) < score := Int.cast_pos.mpr positive
  positivity

theorem exactScore_pos (counts : Counts before after score) : 0 < exactScore before after score := by
  rw [exactScore_of_counts counts]
  exact mul_pos (millions_pos counts.positive) (weight_pos counts.near)

theorem exactScore_nonneg (before after : String) (score : Int) :
    0 ≤ exactScore before after score := by
  by_cases counts : Counts before after score
  · exact (exactScore_pos counts).le
  · exact (exactScore_of_not_counts counts).ge

/-- A suggestion that counts has at most its score in millions. -/
theorem exactScore_le (counts : Counts before after score) :
    exactScore before after score ≤ score / 1000000 := by
  rw [exactScore_of_counts counts]
  exact mul_le_of_le_one_right (millions_pos counts.positive).le (weight_le_one _ _)

/-- It has the whole of it when it is the typed word up to case. -/
theorem exactScore_eq_iff (counts : Counts before after score) :
    exactScore before after score = score / 1000000 ↔ Text.lower before = Text.lower after := by
  rw [exactScore_of_counts counts, mul_eq_left₀ (millions_pos counts.positive).ne',
    weight_eq_one_iff counts.near, editDistance_eq_zero_iff]

theorem exactScore_eq_zero_iff : exactScore before after score = 0 ↔ ¬ Counts before after score :=
  ⟨fun zero counts => (exactScore_pos counts).ne' zero, exactScore_of_not_counts⟩

/-- A suggestion with a higher score counts no less. -/
theorem exactScore_le_of_score_le (higher : score ≤ more) :
    exactScore before after score ≤ exactScore before after more := by
  by_cases counts : Counts before after score
  · have above : Counts before after more :=
      { counts with positive := Int.lt_of_lt_of_le counts.positive higher }
    have weight := (weight_pos counts.near).le
    rw [exactScore_of_counts counts, exactScore_of_counts above]
    gcongr
  · rw [exactScore_of_not_counts counts]
    exact exactScore_nonneg before after more

/-- A suggestion of the same length that is farther counts no more, unless the nearer one is all spaces
and the farther one is not. -/
theorem exactScore_le_of_distance_le (alike : farther.length = after.length)
    (nearer : editDistance before after ≤ editDistance before farther)
    (visible : AllSpaces after → AllSpaces farther) :
    exactScore before farther score ≤ exactScore before after score := by
  by_cases counts : Counts before farther score
  · have near : editDistance before after < after.length :=
      Nat.lt_of_le_of_lt nearer (alike ▸ counts.near)
    have closer : Counts before after score :=
      { counts with visible := counts.visible ∘ visible, near }
    have millions := (millions_pos counts.positive).le
    rw [exactScore_of_counts counts, exactScore_of_counts closer, alike]
    gcongr
  · rw [exactScore_of_not_counts counts]
    exact exactScore_nonneg before after score

/-- The weighted score in exact arithmetic is zero exactly when the typed word is empty, the suggestion is
empty or all spaces, its score is not above zero, or it would be edited throughout. Otherwise it is above
zero and at most the score in millions, and it is that for a suggestion that is the typed word up to case
and for no other. It never falls with the score. Among suggestions of one length it never rises with the
distance, unless the nearer suggestion is all spaces and the farther one is not. -/
theorem exactScore_range (before after : String) (score : Int) :
    (exactScore before after score = 0 ↔
      before = "" ∨ after = "" ∨ AllSpaces after ∨ score ≤ 0 ∨
        after.length ≤ editDistance before after) ∧
    (exactScore before after score ≠ 0 →
      0 < exactScore before after score ∧ exactScore before after score ≤ score / 1000000 ∧
        (exactScore before after score = score / 1000000 ↔ Text.lower before = Text.lower after)) ∧
    (∀ more, score ≤ more → exactScore before after score ≤ exactScore before after more) ∧
    ∀ farther, farther.length = after.length →
      editDistance before after ≤ editDistance before farther →
      (AllSpaces after → AllSpaces farther) →
        exactScore before farther score ≤ exactScore before after score := by
  refine ⟨?_, fun some => ?_, fun _ => exactScore_le_of_score_le,
    fun _ => exactScore_le_of_distance_le⟩
  · have empty : after = "" → AllSpaces after := by
      rintro rfl
      exact nofun
    rw [exactScore_eq_zero_iff, not_counts_iff, ← or_assoc (a := after = ""), or_iff_right_of_imp empty]
  · have counts : Counts before after score := by
      by_contra nothing
      exact some (exactScore_of_not_counts nothing)
    exact ⟨exactScore_pos counts, exactScore_le counts, exactScore_eq_iff counts⟩

/-- Two spaces are typed. The suggestion of two spaces is at no distance and counts nothing, and one with a
letter is at a distance and counts half its score. -/
theorem farther_counts_more :
    ¬ ∀ (before near far : String) (score : Int), near.length = far.length →
      editDistance before near ≤ editDistance before far →
        exactScore before far score ≤ exactScore before near score := by
  intro falls
  have nearer : editDistance "  " "  " ≤ editDistance "  " " a" := by decide +kernel
  have nothing : exactScore "  " "  " 1000000 = 0 :=
    exactScore_of_not_counts fun counts => counts.visible (by decide +kernel)
  have counts : Counts "  " " a" 1000000 :=
    ⟨by decide, by decide +kernel, by decide, by decide +kernel⟩
  have more := exactScore_pos counts
  rw [← nothing] at more
  exact absurd (falls "  " "  " " a" 1000000 (by decide) nearer) (not_le_of_gt more)

end WordStrip
