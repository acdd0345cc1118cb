import WordStrip.Proofs.Failure
import WordStrip.Proofs.Number.Order

/-!
# What permits auto-correction

Three things outside a word bear on whether it is replaced: the threshold, the switch for corrections,
and whether a main dictionary is there. Together they are a `Permission`. A permission decides the flag
and nothing else: two strips for one word that were made under two permissions show the same suggestions
and agree in every other field. And a wider permission, one with a threshold that is no higher and
without a gate that was open before, replaces whatever the narrower one replaced.

Thresholds may be infinite. A threshold that is no number is not at most any other, so the law says
nothing of it.
-/

namespace WordStrip

/-- What permits the replacement of a word from outside it. -/
structure Permission where
  threshold : Float
  correctionEnabled : Bool
  hasMainDictionary : Bool

/-- A permission is as wide as another: its threshold is no higher, and it opens every gate that the
other one opens. -/
structure Permission.Covers (wide narrow : Permission) : Prop where
  threshold : wide.threshold ≤ narrow.threshold
  correctionEnabled : narrow.correctionEnabled = true → wide.correctionEnabled = true
  hasMainDictionary : narrow.hasMainDictionary = true → wide.hasMainDictionary = true

/-- A candidate that reaches a threshold reaches every lower one. -/
theorem Candidate.Reaches.mono {c : Candidate} {considered : String} {high low : Float}
    (lower : low ≤ high) (reaches : c.Reaches considered high) : c.Reaches considered low := by
  rcases reaches with listed | ⟨score, scored, above⟩
  · exact .inl listed
  · exact .inr ⟨score, scored, Number.floatLE_trans lower above⟩

/-- The lookup with or without a main dictionary. -/
def Lookup.under (lookup : Lookup) (p : Permission) : Lookup :=
  { lookup with hasMainDictionary := p.hasMainDictionary }

namespace Request

variable {r : Request} {settings : Settings} {lookup : Lookup} {strip other : Strip}
  {wide narrow p q : Permission}

/-- The request with corrections on or off. -/
def under (r : Request) (p : Permission) : Request :=
  { r with correctionEnabled := p.correctionEnabled }

/-- The reply to a request under a permission. -/
def answerUnder (r : Request) (settings : Settings) (lookup : Lookup) (p : Permission) : Reply :=
  (r.under p).answer settings p.threshold (lookup.under p)

/-- A word that is replaced under a permission is replaced under every wider one: all other conditions
are the same. -/
theorem Replaced.widen (covers : wide.Covers narrow)
    (replaced : (r.under narrow).Replaced settings narrow.threshold (lookup.under narrow)) :
    (r.under wide).Replaced settings wide.threshold (lookup.under wide) := by
  obtain ⟨top, best, noShortcut, reaches, within⟩ := replaced.best
  exact {
    enabled := covers.correctionEnabled replaced.enabled
    composing := replaced.composing
    correctable := replaced.correctable
    noDigits := replaced.noDigits
    fewCaps := replaced.fewCaps
    fresh := replaced.fresh
    mainDictionary := covers.hasMainDictionary replaced.mainDictionary
    best := ⟨top, best, noShortcut, reaches.mono covers.threshold, within⟩ }

/-- Two strips for one word under two permissions are the same but for the flag that says that the word
is replaced, and a permission that covers another one sets the flag wherever that one does. -/
theorem permission_only_gates (typing : r.word.isGesture = false)
    (answered : (r.answerUnder settings lookup p).outcome = .ok strip)
    (reanswered : (r.answerUnder settings lookup q).outcome = .ok other) :
    other = { strip with willAutoCorrect := other.willAutoCorrect } ∧
      (q.Covers p → strip.willAutoCorrect = true → other.willAutoCorrect = true) := by
  have still (p : Permission) : (r.under p).word.isGesture = false := typing
  constructor
  · obtain ⟨_, suggestions, -, showed, -, rfl⟩ := (outcome_typing (still p)).mp answered
    obtain ⟨_, others, -, reshown, -, rfl⟩ := (outcome_typing (still q)).mp reanswered
    -- the suggestions do not depend on the permission
    have same : (r.under p).shown settings (lookup.under p) =
        (r.under q).shown settings (lookup.under q) := rfl
    obtain rfl : suggestions = others := Except.ok.inj (showed.symm.trans (same.trans reshown))
    rfl
  · intro covers corrects
    rw [willAutoCorrect_iff (still p) answered] at corrects
    rw [willAutoCorrect_iff (still q) reanswered]
    exact corrects.widen covers

end Request

/-- The permission of a fresh keyboard. -/
def Permission.modest : Permission where
  threshold := 0.185
  correctionEnabled := true
  hasMainDictionary := true

/-- The widest permission: every candidate reaches the threshold. -/
def Permission.widest : Permission := { Permission.modest with threshold := -Number.infinity }

/-- A compound that is replaced at a modest threshold is replaced under the widest permission, and the
strip is the same. -/
theorem Request.compound_under_widest :
    (Request.quotedCompound.answerUnder .default .ofQuotedCompound .modest).outcome =
        .ok .ofQuotedCompound ∧
      Permission.widest.Covers .modest ∧ Strip.ofQuotedCompound.willAutoCorrect = true ∧
      (Request.quotedCompound.answerUnder .default .ofQuotedCompound .widest).outcome =
        .ok .ofQuotedCompound := by
  have answered : (Request.quotedCompound.answerUnder .default .ofQuotedCompound .modest).outcome =
      .ok .ofQuotedCompound := by
    decide +kernel
  have covers : Permission.widest.Covers .modest := ⟨by decide +kernel, id, id⟩
  have fits : ∀ c ∈ Lookup.ofQuotedCompound.results.candidates, c.ScoreFits := by decide +kernel
  obtain ⟨other, reanswered⟩ : ∃ other,
      (Request.quotedCompound.answerUnder .default .ofQuotedCompound .widest).outcome = .ok other :=
    (Request.exists_answer_iff _ _ fits).mpr (Request.isRecordable_of_zero rfl)
  obtain ⟨same, wider⟩ := Request.permission_only_gates rfl answered reanswered
  rw [wider covers rfl] at same
  obtain rfl : other = .ofQuotedCompound := same
  exact ⟨answered, covers, rfl, reanswered⟩

end WordStrip
