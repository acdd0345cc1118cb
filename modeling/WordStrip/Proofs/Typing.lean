import WordStrip.Engine
import WordStrip.Proofs.AutoCorrection
import WordStrip.Proofs.Distinct
import WordStrip.Proofs.Shape

/-!
# Laws of typing

A request while the user types takes a decision, shows suggestions and leaves a record at its end, and
succeeds when all three do (`Request.outcome_typing`). The laws here read them off the request alone.

The decision: whether the typed word may be corrected at all is `Request.Correctable`, a question to
the shaped candidates, and whether it is replaced is `Request.Replaced`, which lists every condition.
`Request.typing_flags` says that the two flags of a strip are these two questions, and that they
exclude each other.

The suggestions: up to their notes they are the entry of the word and the survivors
(`Request.bare_shown`), and the first survivor is the first candidate of the lookup whose shaped text
is not the typed word (`Request.replacement?`).

What the score of a candidate amounts to is not opened here: the laws hold for any score.
-/

namespace WordStrip

open WordStrip.Number

/-! ## Candidates without notes -/

namespace Candidate

/-- The candidate without its note. -/
def bare (c : Candidate) : Candidate := c.withNote ""

@[simp] theorem text_bare (c : Candidate) : c.bare.text = c.text := rfl

@[simp] theorem kind_bare (c : Candidate) : c.bare.kind = c.kind := rfl

@[simp] theorem source_bare (c : Candidate) : c.bare.source = c.source := rfl

theorem same_iff {a b : Candidate} : a.same b = true ↔ a.bare = b.bare := by
  simp [same, bare]

theorem bare_withNote (c : Candidate) (note : String) : (c.withNote note).bare = c.bare := rfl

/-- Candidates that are the same up to notes have the same texts. -/
theorem map_text_of_bare {cs ds : List Candidate} (same : cs.map bare = ds.map bare) :
    cs.map (·.text) = ds.map (·.text) := by
  have texts := congrArg (List.map (·.text)) same
  simpa only [List.map_map, Function.comp_def, text_bare] using texts

end Candidate

/-- Notes are all that an annotation changes behind the first suggestion. -/
theorem bare_annotateRest {typed : String} {cs out : List Candidate}
    (annotated : annotateRest typed cs = .ok out) :
    out.map Candidate.bare = cs.map Candidate.bare := by
  induction cs generalizing out with
  | nil =>
    cases annotated
    rfl
  | cons c rest ih =>
    obtain ⟨note, -, further⟩ := bind_eq_ok.mp annotated
    obtain ⟨tail, walked, answer⟩ := bind_eq_ok.mp further
    obtain rfl := pure_eq_ok.mp answer
    rw [List.map_cons, List.map_cons, ih walked, Candidate.bare_withNote]

/-- Notes are all that an annotation changes. -/
theorem bare_annotate {typed : String} {cs out : List Candidate}
    (annotated : annotate typed cs = .ok out) :
    out.map Candidate.bare = cs.map Candidate.bare := by
  cases cs with
  | nil =>
    cases annotated
    rfl
  | cons c rest =>
    obtain ⟨tail, walked, answer⟩ := bind_eq_ok.mp annotated
    obtain rfl := pure_eq_ok.mp answer
    rw [List.map_cons, List.map_cons, bare_annotateRest walked, Candidate.bare_withNote]

namespace TypedWord

theorem isComposing_iff {w : TypedWord} : w.isComposing = true ↔ w.text ≠ "" := by
  simp [isComposing, chars]

theorem entry_of_composing {w : TypedWord} (composing : w.text ≠ "") :
    w.entry = [.ofTyped w.text] := by
  rw [entry, if_pos (isComposing_iff.mpr composing)]

theorem entry_of_blank {w : TypedWord} (blank : w.text = "") : w.entry = [] := by
  rw [entry, if_neg fun composing => isComposing_iff.mp composing blank]

theorem hasDigits_eq_false {w : TypedWord} :
    w.hasDigits = false ↔ ∀ c ∈ w.text.toList, Text.isDigit c = false := by
  simp [hasDigits, chars]

theorem isMostlyCaps_eq_false {w : TypedWord} :
    w.isMostlyCaps = false ↔ w.text.toList.countP Text.isUpperCase ≤ 1 := by
  rw [isMostlyCaps, decide_eq_false_iff_not, Nat.not_lt, capsCount, chars]

end TypedWord

namespace Request

variable {r : Request} {settings : Settings} {threshold : Float} {lookup : Lookup} {strip : Strip}

/-- The shape that the suggestions for a request take over. -/
def shape (r : Request) : Shape :=
  if r.word.isGesture then r.word.gestureShape else r.word.typingShape

/-! ## Outcomes -/

/-- The record at the end, with the number of the request written out. -/
def closingRecord (r : Request) (suggestions : List Candidate) (verdict : Verdict) : Record where
  topic := "pipeline"
  message := s!"#{r.sequence} {Text.quoted r.word.text}: {suggestions.length} suggestions, " ++
    s!"auto-correct={Text.shownBool verdict.isAccepted}"

/-- It is left exactly when the number of the request can be shown. -/
theorem closingTrace_eq_ok {suggestions : List Candidate} {verdict : Verdict} {closing : List Record} :
    r.closingTrace suggestions verdict = .ok closing ↔
      isShowable r.sequence = true ∧ closing = [r.closingRecord suggestions verdict] := by
  rw [closingTrace, bind_eq_ok]
  constructor
  · rintro ⟨sequence, written, record⟩
    obtain ⟨showable, rfl⟩ := showWhole_eq_ok.mp written
    exact ⟨showable, (pure_eq_ok.mp record).symm⟩
  · rintro ⟨showable, rfl⟩
    exact ⟨_, showWhole_eq_ok.mpr ⟨showable, rfl⟩, rfl⟩

/-- How a request while the user types ends: with the failure of the decision or else that of the
suggestions, or else that of its number to be shown, and if there is none, with the strip of both. -/
theorem outcome_typing_eq (typing : r.word.isGesture = false) :
    (r.answer settings threshold lookup).outcome = (do
      let verdict ← (r.situation lookup).judge settings.spaceLimits threshold
      let suggestions ← r.shown settings lookup
      let _ ← showWhole r.sequence
      return r.typingStrip lookup suggestions verdict) := by
  simp only [answer, typing, Bool.false_eq_true, if_false, typingReply]
  cases (r.situation lookup).judge settings.spaceLimits threshold with
  | error e => rfl
  | ok verdict =>
    cases r.shown settings lookup with
    | error e => rfl
    | ok suggestions =>
      cases written : showWhole r.sequence <;> simp only [closingTrace, written] <;> rfl

/-- A request while the user types succeeds when the decision and the suggestions do and its number can
be shown, with the strip of the decision and the suggestions. -/
theorem outcome_typing (typing : r.word.isGesture = false) :
    (r.answer settings threshold lookup).outcome = .ok strip ↔
      ∃ verdict suggestions, (r.situation lookup).judge settings.spaceLimits threshold = .ok verdict ∧
        r.shown settings lookup = .ok suggestions ∧ isShowable r.sequence = true ∧
        strip = r.typingStrip lookup suggestions verdict := by
  simp only [outcome_typing_eq typing, bind_eq_ok, pure_eq_ok, showWhole_eq_ok]
  grind

/-- Without notes, a request while the user types is answered by its decision, if its number can be
shown: the entry of the word and the candidates that stay are shown. -/
theorem outcome_unannotated (typing : r.word.isGesture = false) (plain : settings.annotates = false) :
    (r.answer settings threshold lookup).outcome = (do
      let verdict ← (r.situation lookup).judge settings.spaceLimits threshold
      let _ ← showWhole r.sequence
      return r.typingStrip lookup (r.word.entry ++ r.survivors lookup) verdict) := by
  have showed : r.shown settings lookup = .ok (r.word.entry ++ r.survivors lookup) := by
    rw [shown, if_neg (by simp [plain])]
  simp only [outcome_typing_eq typing, showed, ok_bind]

/-- Up to notes, the suggestions are the entry of the word and the candidates that stay. -/
theorem bare_shown {suggestions : List Candidate}
    (showed : r.shown settings lookup = .ok suggestions) :
    suggestions.map Candidate.bare = (r.word.entry ++ r.survivors lookup).map Candidate.bare := by
  unfold shown at showed
  split at showed
  · exact bare_annotate showed
  · cases showed
    rfl

/-! ## The decision -/

/-- The typed word is among the shaped candidates. -/
def Found (r : Request) (lookup : Lookup) : Prop :=
  r.word.text ≠ "" ∧ ∃ c ∈ r.shaped lookup, c.text = r.word.text

/-- The first shaped candidate that is not the typed word is a listed replacement. -/
def Listed (r : Request) (lookup : Lookup) : Prop :=
  ∃ c, (r.shaped lookup).find? (fun c => r.word.text = "" ∨ c.text ≠ r.word.text) = some c ∧
    c.kind = .whitelist

/-- The typed word may be corrected: there is a listed replacement for it, or it is longer than one
letter without the apostrophes behind it and the lookup did not return it. -/
def Correctable (r : Request) (lookup : Lookup) : Prop :=
  r.Listed lookup ∨ (1 < (Apostrophes.stem r.word.text).length ∧ ¬ r.Found lookup)

/-- The typed word is replaced: every condition on the request, and on the best candidate of the
lookup as it came. -/
structure Replaced (r : Request) (settings : Settings) (threshold : Float) (lookup : Lookup) :
    Prop where
  enabled : r.correctionEnabled = true
  composing : r.word.text ≠ ""
  correctable : r.Correctable lookup
  noDigits : ∀ c ∈ r.word.text.toList, Text.isDigit c = false
  fewCaps : r.word.text.toList.countP Text.isUpperCase ≤ 1
  fresh : r.word.isResumed = false
  mainDictionary : lookup.hasMainDictionary = true
  best : ∃ top, lookup.results.candidates.head? = some top ∧ top.kind ≠ .shortcut ∧
    top.Reaches (Apostrophes.stem r.word.text) threshold ∧
    ∀ limit, settings.spaceLimits.limitOf? top = some limit → ' ' ∈ top.text.toList →
      (top.text.length : Int) ≤ limit

theorem find?_untyped (word : String) (cs : List Candidate) :
    (cs.find? fun c => !Distinct.isTyped (some word) c) =
      cs.find? fun c => word = "" ∨ c.text ≠ word := by
  congr 1
  funext c
  rw [Bool.eq_iff_iff, Bool.not_eq_true', ← Bool.not_eq_true, Distinct.isTyped_some,
    decide_eq_true_eq]
  grind

/-- The first survivor is the first shaped candidate that is not the typed word. -/
theorem head?_survivors (r : Request) (lookup : Lookup) :
    (r.survivors lookup).head? =
      (r.shaped lookup).find? fun c => r.word.text = "" ∨ c.text ≠ r.word.text := by
  rw [survivors, Distinct.head?_distinct, find?_untyped]

theorem isSome_listed : (r.listed lookup).isSome = true ↔ r.Listed lookup := by
  rw [listed, Option.isSome_map, head?_survivors, Listed, Option.isSome_iff_exists]
  simp only [Option.filter_eq_some_iff, Candidate.isWhitelisted, beq_iff_eq]

theorem typedFound_situation : (r.situation lookup).typedFound = true ↔ r.Found lookup := by
  simp only [situation, Distinct.hasTyped, List.any_eq_true, Distinct.isTyped_some, Found]
  grind

/-- The situation of a request is eligible when the typed word may be corrected. -/
theorem isEligible_situation : (r.situation lookup).isEligible = true ↔ r.Correctable lookup := by
  have found : (r.situation lookup).typedFound = true ↔ r.Found lookup := typedFound_situation
  rw [Situation.isEligible, WordStrip.isEligible, Bool.or_eq_true, Bool.and_eq_true,
    Bool.not_eq_true', ← Bool.not_eq_true, found, decide_eq_true_eq]
  exact or_congr_left isSome_listed

/-- The best candidate passes the gates, reaches the threshold and is allowed by the limits exactly
when the typed word is replaced. -/
theorem replaced_iff :
    (∃ top, (r.situation lookup).Passes top ∧
      top.Reaches (r.situation lookup).considered threshold ∧
      settings.spaceLimits.allows top = true) ↔ r.Replaced settings threshold lookup := by
  constructor
  · rintro ⟨top, passes, reaches, allowed⟩
    have composing : r.word.isComposing = true := by simpa [situation] using passes.composing
    exact {
      enabled := passes.enabled
      composing := TypedWord.isComposing_iff.mp composing
      correctable := isEligible_situation.mp passes.eligible
      noDigits := TypedWord.hasDigits_eq_false.mp passes.noDigits
      fewCaps := TypedWord.isMostlyCaps_eq_false.mp passes.fewCaps
      fresh := passes.fresh
      mainDictionary := passes.mainDictionary
      best := ⟨top, passes.best, passes.noShortcut, reaches, SpaceLimits.allows_iff.mp allowed⟩ }
  · intro h
    obtain ⟨top, best, noShortcut, reaches, within⟩ := h.best
    have composing := TypedWord.isComposing_iff.mpr h.composing
    refine ⟨top, ?_, reaches, SpaceLimits.allows_iff.mpr within⟩
    exact {
      enabled := h.enabled
      eligible := isEligible_situation.mpr h.correctable
      composing := by simp [situation, composing]
      best
      noDigits := TypedWord.hasDigits_eq_false.mpr h.noDigits
      fewCaps := TypedWord.isMostlyCaps_eq_false.mpr h.fewCaps
      fresh := h.fresh
      mainDictionary := h.mainDictionary
      noShortcut }

/-- A strip says that the typed word is replaced exactly when every condition holds. -/
theorem willAutoCorrect_iff (typing : r.word.isGesture = false)
    (answered : (r.answer settings threshold lookup).outcome = .ok strip) :
    strip.willAutoCorrect = true ↔ r.Replaced settings threshold lookup := by
  obtain ⟨verdict, suggestions, judged, -, -, rfl⟩ := (outcome_typing typing).mp answered
  exact (Situation.judge_isAccepted judged).trans replaced_iff

/-- A strip says that the typed word is valid exactly when something is typed that may not be
corrected. -/
theorem typedWordValid_iff (typing : r.word.isGesture = false)
    (answered : (r.answer settings threshold lookup).outcome = .ok strip) :
    strip.typedWordValid = true ↔ r.word.text ≠ "" ∧ ¬ r.Correctable lookup := by
  obtain ⟨verdict, suggestions, -, -, -, rfl⟩ := (outcome_typing typing).mp answered
  rw [typingStrip, Bool.and_eq_true, TypedWord.isComposing_iff, Bool.not_eq_true',
    ← Bool.not_eq_true, isEligible_situation]

/-- The two flags of a strip while the user types, read off the request: the typed word is valid when
it may not be corrected, and it is replaced when every condition on it and on the best candidate
holds. Since a word that is replaced may be corrected, the flags exclude each other. -/
theorem typing_flags (typing : r.word.isGesture = false)
    (answered : (r.answer settings threshold lookup).outcome = .ok strip) :
    (strip.typedWordValid = true ↔ r.word.text ≠ "" ∧ ¬ r.Correctable lookup) ∧
      (strip.willAutoCorrect = true ↔ r.Replaced settings threshold lookup) ∧
      ¬ (strip.typedWordValid = true ∧ strip.willAutoCorrect = true) := by
  have valid := typedWordValid_iff typing answered
  have corrects := willAutoCorrect_iff typing answered
  refine ⟨valid, corrects, ?_⟩
  rintro ⟨isValid, isReplaced⟩
  exact (valid.mp isValid).2 (corrects.mp isReplaced).correctable

end Request

/-! ### A compound that the lookup returns and replaces -/

/-- A compound typed in one word. -/
def Request.compound : Request := { word := { text := "zweidreivie" } }

/-- A lookup that returns the compound, and with it the same in three words as its replacement. -/
def Lookup.ofCompound : Lookup where
  results := { candidates := [
    { text := "zweidreivie", score := 1000000, source := .main { language := "de" } },
    { text := "zwei drei vie", score := 10, kind := .whitelist, source := .main { language := "de" } }] }
  locale := { language := "de" }

/-- What the compound is answered with. -/
def Strip.ofCompound : Strip where
  suggestions := .ofTyped "zweidreivie" :: Lookup.ofCompound.results.candidates.tail
  raw := Lookup.ofCompound.results.candidates
  typedWordValid := false
  willAutoCorrect := true
  style := .typing
  sequence := 0

/-- The compound is found and yet replaced, because a listed replacement comes first behind it. -/
theorem Request.typing_flags_compound :
    (Request.compound.answer .default 0.185 .ofCompound).outcome = .ok .ofCompound ∧
      Strip.ofCompound.typedWordValid = false ∧
      Request.compound.Replaced .default 0.185 .ofCompound := by
  have answered : (Request.compound.answer .default 0.185 .ofCompound).outcome = .ok .ofCompound := by
    decide +kernel
  exact ⟨answered, rfl, (Request.typing_flags rfl answered).2.1.mp rfl⟩

end WordStrip
