import WordStrip.Proofs.Closeness
import WordStrip.Proofs.Gesture
import WordStrip.Proofs.Replacement

/-!
# When a request fails

Two things in a request can fail: a score may be too large for a double, and a whole number may have too
many digits for a text. The laws here carry that through the stages. The decision weighs the best
candidate, notes weigh and write those that are shown behind the first suggestion, and the record at the
end writes the number of the request. All candidates have the scores that the lookup gave them, so a
request fails only because of a candidate of its lookup or because of its own number, which are its
`Request.Obstacle`s (`Request.outcome_eq_error`).

That a score is too large is not said to be enough: a candidate whose every letter would be edited
is never weighed. Scores of 32 bits are no obstacle, and what is left then is exact: a request is answered
if and only if it is `Request.IsRecordable`, which asks for a number that can be shown wherever one is
written (`Request.exists_answer_iff`).
-/

namespace WordStrip

open WordStrip.Number

namespace Candidate

/-- The score of a candidate is too large for a double. -/
def IsTooLarge (c : Candidate) : Prop := (floatBound : Int) ≤ c.score

/-- The score of a candidate has 32 bits, its sign included. -/
def ScoreFits (c : Candidate) : Prop := -(maxScore + 1) ≤ c.score ∧ c.score ≤ maxScore

instance decidableScoreFits : DecidablePred ScoreFits :=
  fun _ => inferInstanceAs (Decidable (_ ∧ _))

/-- A score of 32 bits is far from too large. -/
theorem ScoreFits.not_isTooLarge {c : Candidate} (fits : c.ScoreFits) : ¬ c.IsTooLarge := by
  have wide : maxScore < (floatBound : Int) := by decide +kernel
  have small := fits.2
  unfold IsTooLarge
  omega

/-- It can be shown. -/
theorem ScoreFits.isShowable {c : Candidate} (fits : c.ScoreFits) : isShowable c.score = true := by
  have wide : maxScore + 1 < (showableBound : Int) := by decide +kernel
  have small := fits.2
  have large := fits.1
  rw [Number.isShowable, decide_eq_true_eq]
  omega

/-- Why no note can be written for a candidate, by the failure that it leads to. -/
inductive Unnotable (c : Candidate) : NumeralError → Prop
  | large (large : c.IsTooLarge) : Unnotable c .tooLarge
  | long (long : Number.isShowable c.score = false) : Unnotable c .notShowable

end Candidate

/-! ## Scores -/

/-- A whole number fails to become a double only by its size. -/
theorem floatOfInt_eq_error {n : Int} {e : NumeralError} (failed : floatOfInt n = .error e) :
    e = .tooLarge ∧ floatBound ≤ n.natAbs := by
  unfold floatOfInt at failed
  split at failed
  case isTrue large => exact ⟨(Except.error.inj failed).symm, large⟩
  case isFalse => exact nomatch failed

/-- Weighting a score fails only when the score is too large. -/
theorem weightedScore_eq_error {before after : String} {score : Int} {e : NumeralError}
    (failed : weightedScore before after score = .error e) :
    e = .tooLarge ∧ (floatBound : Int) ≤ score := by
  unfold weightedScore at failed
  split at failed
  case h_1 closeness close =>
    obtain ⟨same, positive⟩ := Closeness.score_of? close
    rw [Closeness.toFloat, same, bind_eq_error] at failed
    rcases failed with large | ⟨_, _, done⟩
    · obtain ⟨rfl, bound⟩ := floatOfInt_eq_error large
      exact ⟨rfl, by omega⟩
    · exact nomatch done
  case h_2 => exact nomatch failed

/-! ## Stages -/

/-- Comparing with the threshold fails only when the score is too large. -/
theorem exceedsThreshold_eq_error {c : Candidate} {considered : String} {threshold : Float}
    {e : NumeralError} (failed : exceedsThreshold (some c) considered threshold = .error e) :
    e = .tooLarge ∧ c.IsTooLarge := by
  simp only [exceedsThreshold] at failed
  split at failed
  case isTrue => exact nomatch failed
  case isFalse =>
    rcases bind_eq_error.mp failed with large | ⟨_, _, done⟩
    · exact weightedScore_eq_error large
    · exact nomatch done

/-- The decision fails only when the best candidate's score is too large. -/
theorem Situation.judge_eq_error {s : Situation} {limits : SpaceLimits} {threshold : Float}
    {e : NumeralError} (failed : s.judge limits threshold = .error e) :
    e = .tooLarge ∧ ∃ top, s.top = some top ∧ top.IsTooLarge := by
  unfold judge at failed
  split at failed
  case h_1 => exact nomatch failed
  case h_2 top passed =>
    rcases bind_eq_error.mp failed with unscored | ⟨exceeds, _, decided⟩
    · obtain ⟨rfl, large⟩ := exceedsThreshold_eq_error unscored
      exact ⟨rfl, top, (passGates_eq_ok.mp passed).best, large⟩
    -- behind the threshold the decision only answers
    · cases exceeds <;> cases allowed : limits.allows top <;> simp [allowed, pure, Except.pure] at decided

/-- A note fails only when the score is too large to be weighed or too long to be written. -/
theorem scoreNote_eq_error {typed : String} {c : Candidate} {e : NumeralError}
    (failed : scoreNote typed c = .error e) : c.Unnotable e := by
  rcases bind_eq_error.mp failed with unweighed | ⟨weighted, _, further⟩
  · obtain ⟨rfl, large⟩ := weightedScore_eq_error unweighed
    exact .large large
  · rcases bind_eq_error.mp further with unwritten | ⟨score, _, noted⟩
    · obtain ⟨long, rfl⟩ := showWhole_eq_error.mp unwritten
      exact .long long
    · split at noted <;> exact nomatch noted

/-- Annotating fails only when some candidate fails to get its note. -/
theorem annotateRest_eq_error {typed : String} {cs : List Candidate} {e : NumeralError}
    (failed : annotateRest typed cs = .error e) : ∃ c ∈ cs, c.Unnotable e := by
  induction cs with
  | nil => exact nomatch failed
  | cons c rest ih =>
    rcases bind_eq_error.mp failed with unnoted | ⟨_, _, further⟩
    · exact ⟨c, List.mem_cons_self, scoreNote_eq_error unnoted⟩
    · rcases bind_eq_error.mp further with behind | ⟨_, _, done⟩
      · obtain ⟨d, mem, unnotable⟩ := ih behind
        exact ⟨d, List.mem_cons_of_mem c mem, unnotable⟩
      · exact nomatch done

/-- The first suggestion is not scored. -/
theorem annotate_eq_error {typed : String} {cs : List Candidate} {e : NumeralError}
    (failed : annotate typed cs = .error e) : ∃ c ∈ cs.tail, c.Unnotable e := by
  cases cs with
  | nil => exact nomatch failed
  | cons c rest =>
    rcases bind_eq_error.mp failed with behind | ⟨_, _, done⟩
    · exact annotateRest_eq_error behind
    · exact nomatch done

/-! ## Requests -/

namespace Request

variable {r : Request} {settings : Settings} {threshold : Float} {lookup : Lookup}

/-- What stands behind the first suggestion survives: the entry of the word is the first one, if there
is one. -/
theorem tail_suggestions_subset (r : Request) (lookup : Lookup) :
    (r.word.entry ++ r.survivors lookup).tail ⊆ r.survivors lookup := by
  unfold TypedWord.entry
  split
  · exact List.Subset.refl _
  · exact (List.tail_sublist _).subset

/-- What can stand in the way of a request while the user types, by the failure that it leads to. -/
inductive Obstacle (r : Request) (settings : Settings) (lookup : Lookup) : NumeralError → Prop
  /-- A candidate of the lookup has a score that is too large. -/
  | largeScore {c : Candidate} (known : c ∈ lookup.results.candidates) (large : c.IsTooLarge) :
    Obstacle r settings lookup .tooLarge
  /-- Notes are asked for, and a candidate of the lookup has a score with too many digits. -/
  | longScore {c : Candidate} (annotates : settings.annotates = true)
    (known : c ∈ lookup.results.candidates) (long : isShowable c.score = false) :
    Obstacle r settings lookup .notShowable
  /-- The number of the request has too many digits. -/
  | longNumber (long : isShowable r.sequence = false) : Obstacle r settings lookup .notShowable

/-- The suggestions fail only because of a candidate of the lookup: a shape leaves the score as it is. -/
theorem shown_eq_error {e : NumeralError} (failed : r.shown settings lookup = .error e) :
    r.Obstacle settings lookup e := by
  simp only [shown] at failed
  split at failed
  case isTrue annotates =>
    obtain ⟨c, behind, unnotable⟩ := annotate_eq_error failed
    obtain ⟨origin, known, rfl⟩ := origin_of_mem_survivors (tail_suggestions_subset r lookup behind)
    cases unnotable with
    | large large => exact .largeScore known large
    | long long => exact .longScore annotates known long
  case isFalse => cases failed

/-- A request fails only while the user types, and because of an obstacle. -/
theorem outcome_eq_error {e : NumeralError}
    (failed : (r.answer settings threshold lookup).outcome = .error e) :
    r.word.isGesture = false ∧ r.Obstacle settings lookup e := by
  cases mode : r.word.isGesture with
  | true =>
    rw [outcome_gesture mode] at failed
    exact nomatch failed
  | false =>
    refine ⟨rfl, ?_⟩
    rw [outcome_typing_eq mode] at failed
    rcases bind_eq_error.mp failed with undecided | ⟨verdict, _, further⟩
    · obtain ⟨rfl, top, best, large⟩ := Situation.judge_eq_error undecided
      exact .largeScore (List.mem_of_head? best) large
    rcases bind_eq_error.mp further with unshown | ⟨suggestions, _, closing⟩
    · exact shown_eq_error unshown
    rcases bind_eq_error.mp closing with unnumbered | ⟨_, _, done⟩
    · obtain ⟨long, rfl⟩ := showWhole_eq_error.mp unnumbered
      exact .longNumber long
    · exact nomatch done

/-- When scores have 32 bits, the one obstacle is the number of the request. -/
theorem Obstacle.of_scoreFits (fits : ∀ c ∈ lookup.results.candidates, c.ScoreFits) {e : NumeralError}
    (obstacle : r.Obstacle settings lookup e) : isShowable r.sequence = false ∧ e = .notShowable := by
  cases obstacle with
  | largeScore known large => exact absurd large (fits _ known).not_isTooLarge
  | longScore _ known long => exact absurd (fits _ known).isShowable (by simp [long])
  | longNumber long => exact ⟨long, rfl⟩

/-- What a request writes of its number can be written: the number can be shown, or the request is a
gesture, which does not write it. -/
def IsRecordable (r : Request) : Prop := r.word.isGesture = false → isShowable r.sequence = true

instance decidableIsRecordable : DecidablePred IsRecordable := fun _ => inferInstanceAs (Decidable (_ → _))

/-- A request that is given no number has zero for it. -/
theorem isRecordable_of_zero (unnumbered : r.sequence = 0) : r.IsRecordable := by
  have showable : isShowable 0 = true := by decide +kernel
  exact fun _ => unnumbered ▸ showable

/-- When its scores have 32 bits, a request fails exactly if it has to write a number that it cannot. -/
theorem outcome_eq_error_iff (fits : ∀ c ∈ lookup.results.candidates, c.ScoreFits) {e : NumeralError} :
    (r.answer settings threshold lookup).outcome = .error e ↔ ¬ r.IsRecordable ∧ e = .notShowable := by
  constructor
  · intro failed
    obtain ⟨typing, obstacle⟩ := outcome_eq_error failed
    obtain ⟨long, rfl⟩ := obstacle.of_scoreFits fits
    exact ⟨fun recordable => by simp [recordable typing] at long, rfl⟩
  · rintro ⟨unrecordable, rfl⟩
    obtain ⟨typing, long⟩ := Classical.not_imp.mp unrecordable
    cases answered : (r.answer settings threshold lookup).outcome with
    | error e => rw [((outcome_eq_error answered).2.of_scoreFits fits).2]
    | ok strip =>
      obtain ⟨_, _, -, -, showable, -⟩ := (outcome_typing typing).mp answered
      exact absurd showable long

/-- When its scores have 32 bits, a request is answered exactly if what it writes of its number can be
written. -/
theorem exists_answer_iff (settings : Settings) (threshold : Float)
    (fits : ∀ c ∈ lookup.results.candidates, c.ScoreFits) :
    (∃ strip, (r.answer settings threshold lookup).outcome = .ok strip) ↔ r.IsRecordable := by
  have fails (e : NumeralError) : (r.answer settings threshold lookup).outcome = .error e ↔
      ¬ r.IsRecordable ∧ e = .notShowable := outcome_eq_error_iff fits
  cases answered : (r.answer settings threshold lookup).outcome with
  | error e => simp [((fails e).mp answered).1]
  | ok strip =>
    refine iff_of_true ⟨strip, rfl⟩ (Classical.not_not.mp fun unrecordable => ?_)
    exact nomatch answered.symm.trans ((fails _).mpr ⟨unrecordable, rfl⟩)

end Request

end WordStrip
