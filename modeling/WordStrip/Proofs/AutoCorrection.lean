import WordStrip.AutoCorrection
import WordStrip.Proofs.Basic

/-!
# Laws of auto-correction

The decision runs through gates, a threshold and a limit. Each of the three has one law that says
when it lets a candidate through, in terms of what it was given: `Situation.passGates_eq_ok` for the
gates, `exceedsThreshold_eq_ok_true` for the threshold and `SpaceLimits.allows_iff` for the limit.
`Situation.Judged` puts them together, with what each verdict says, and proofs about a decision open it
through `Situation.judged_of_judge` only.

What these laws judge is the candidate that the situation names as the best. Whether that candidate
is the one that is put in place of the typed word is not decided here.
-/

namespace WordStrip

/-! ## The limit -/

namespace SpaceLimits

/-- The limit that a candidate stands under: that of the language of its dictionary, if there is
one. -/
def limitOf? (limits : SpaceLimits) (c : Candidate) : Option Int :=
  c.locale.bind fun locale => limits.limit? locale.language

/-- A candidate is allowed when a limit that it stands under and a space in it leave it short. -/
theorem allows_iff {limits : SpaceLimits} {c : Candidate} :
    limits.allows c = true ↔
      ∀ limit, limits.limitOf? c = some limit → ' ' ∈ c.text.toList →
        (c.text.length : Int) ≤ limit := by
  cases home : c.locale with
  | none => simp [allows, limitOf?, home]
  | some locale =>
    cases known : limits.limit? locale.language with
    | none => simp [allows, limitOf?, home, known]
    | some limit =>
      by_cases space : ' ' ∈ c.text.toList
      · simp [allows, limitOf?, home, known, space]
      · simp [allows, limitOf?, home, known, space]

end SpaceLimits

/-! ## The threshold -/

/-- A candidate reaches a threshold: it is a listed replacement, or its score weighted by its
closeness to what was typed is not below. -/
def Candidate.Reaches (c : Candidate) (considered : String) (threshold : Float) : Prop :=
  c.kind = .whitelist ∨
    ∃ score, weightedScore considered c.text c.score = .ok score ∧ threshold ≤ score

theorem exceedsThreshold_eq_ok_true {c : Candidate} {considered : String} {threshold : Float} :
    exceedsThreshold (some c) considered threshold = .ok true ↔ c.Reaches considered threshold := by
  unfold exceedsThreshold Candidate.Reaches
  by_cases listed : c.kind = .whitelist
  · simp [Candidate.isWhitelisted, listed]
  · have unlisted : c.isWhitelisted = false := by simpa [Candidate.isWhitelisted] using listed
    simp only [unlisted, Bool.false_eq_true, if_false, listed, false_or, bind_eq_ok, pure_eq_ok,
      decide_eq_true_eq]

/-! ## The gates -/

namespace Situation

/-- A candidate passes the gates: it is the best one, and no gate is closed. -/
structure Passes (s : Situation) (top : Candidate) : Prop where
  enabled : s.correctionEnabled = true
  eligible : s.isEligible = true
  composing : s.isPrediction = false
  best : s.top = some top
  noDigits : s.hasDigits = false
  fewCaps : s.isMostlyCaps = false
  fresh : s.isResumed = false
  mainDictionary : s.hasMainDictionary = true
  noShortcut : top.kind ≠ .shortcut

/-- The gates let through exactly the candidate that passes them all. -/
theorem passGates_eq_ok {s : Situation} {top : Candidate} :
    s.passGates = .ok top ↔ s.Passes top := by
  cases best : s.top with
  | none =>
    refine ⟨fun passed => ?_, fun passes => (nomatch best.symm.trans passes.best)⟩
    simp only [passGates, best, ite_error_eq_ok] at passed
    exact nomatch passed.2.2.2
  | some first =>
    simp only [passGates, best, ite_error_eq_ok, Except.ok.injEq, Bool.not_eq_true',
      Bool.not_eq_false, Bool.not_eq_true, beq_eq_false_iff_ne]
    constructor
    · rintro ⟨enabled, eligible, composing, noDigits, fewCaps, fresh, mainDictionary, noShortcut, rfl⟩
      exact ⟨enabled, eligible, composing, best, noDigits, fewCaps, fresh, mainDictionary, noShortcut⟩
    · intro h
      obtain rfl : first = top := Option.some.inj (best.symm.trans h.best)
      exact ⟨h.enabled, h.eligible, h.composing, h.noDigits, h.fewCaps, h.fresh, h.mainDictionary,
        h.noShortcut, rfl⟩

/-- What a verdict says about the situation: which gate is closed, or how the candidate fares that passes
them all. -/
inductive Judged (s : Situation) (limits : SpaceLimits) (threshold : Float) : Verdict → Prop
  | denied {denial : Denial} (closed : s.passGates = .error denial) :
      Judged s limits threshold (.denied denial)
  | underThreshold {top : Candidate} (passes : s.Passes top)
      (low : ¬ top.Reaches s.considered threshold) : Judged s limits threshold (.underThreshold top)
  | overSpaceLimit {top : Candidate} (passes : s.Passes top) (reaches : top.Reaches s.considered threshold)
      (long : limits.allows top = false) : Judged s limits threshold (.overSpaceLimit top)
  | accepted {top : Candidate} (passes : s.Passes top) (reaches : top.Reaches s.considered threshold)
      (allowed : limits.allows top = true) : Judged s limits threshold (.accepted top)

variable {s : Situation} {limits : SpaceLimits} {threshold : Float} {verdict : Verdict}

theorem judged_of_judge (judged : s.judge limits threshold = .ok verdict) :
    s.Judged limits threshold verdict := by
  unfold judge at judged
  cases passed : s.passGates with
  | error denial =>
    rw [passed] at judged
    obtain rfl := Except.ok.inj judged
    exact .denied passed
  | ok top =>
    have passes : s.Passes top := passGates_eq_ok.mp passed
    simp only [passed, bind_eq_ok] at judged
    obtain ⟨exceeds, scored, answer⟩ := judged
    cases exceeds with
    | false =>
      cases answer
      refine .underThreshold passes fun reaches => ?_
      rw [← exceedsThreshold_eq_ok_true, scored] at reaches
      cases reaches
    | true =>
      have reaches := exceedsThreshold_eq_ok_true.mp scored
      cases allowed : limits.allows top with
      | false =>
        simp only [allowed] at answer
        cases answer
        exact .overSpaceLimit passes reaches allowed
      | true =>
        simp only [allowed] at answer
        cases answer
        exact .accepted passes reaches allowed

/-- A verdict accepts exactly when the best candidate passes the gates, reaches the threshold and is
allowed by the limits. -/
theorem judge_isAccepted (judged : s.judge limits threshold = .ok verdict) :
    verdict.isAccepted = true ↔
      ∃ top, s.Passes top ∧ top.Reaches s.considered threshold ∧ limits.allows top = true := by
  have only {top other : Candidate} (passes : s.Passes top) (also : s.Passes other) : other = top :=
    Option.some.inj (also.best.symm.trans passes.best)
  cases judged_of_judge judged with
  | denied closed =>
    refine ⟨nofun, fun ⟨top, passes, _⟩ => ?_⟩
    exact nomatch closed.symm.trans (passGates_eq_ok.mpr passes)
  | underThreshold passes low =>
    refine ⟨nofun, fun ⟨other, also, reaches, _⟩ => ?_⟩
    exact absurd (only passes also ▸ reaches) low
  | overSpaceLimit passes _ long =>
    refine ⟨nofun, fun ⟨other, also, _, allowed⟩ => ?_⟩
    obtain rfl := only passes also
    exact nomatch long.symm.trans allowed
  | accepted passes reaches allowed => exact ⟨fun _ => ⟨_, passes, reaches, allowed⟩, fun _ => rfl⟩

end Situation

end WordStrip
