import WordStrip.Proofs.Failure

/-!
# Faults that guards keep out

Some steps of a request work only where a guard has looked first: the first letter of a word, the first
entry of a list, the best candidate behind the gates, a share of a length. The definitions of a request
have no fault there, because they match on the very thing that is guarded. Here the same request is
written with its guards and with steps that know of none (`Attempt`): a step that is taken where it does
not work ends the request with a `Fault`.

Each attempt is proved equal to the definition that it spells out, stage by stage, so each guard is
where it has to be. What is left is `Request.attempt_eq`: an attempt ends as the request does, and the
faults in it are those that no guard keeps out, the conversion of a score to a double and the text of a
whole number. Scores of 32 bits lead to neither. But the record that a request leaves at its end names the
number of the request, and is put together whether or not anyone reads it: a request while the user types
whose number has too many digits runs into a fault, and no other one does (`Request.attempt_verdict`).
-/

namespace WordStrip

open WordStrip.Number

/-- What a step runs into where it does not work. -/
inductive Fault where
  | outOfRange
  | noBest
  | divisionByZero
  | number (e : NumeralError)
  deriving DecidableEq, Repr

namespace Attempt

/-! ## Steps -/

/-- The item at a position of a list. -/
def item {α : Type} (xs : List α) (i : Nat) : Except Fault α :=
  match xs[i]? with
  | some x => .ok x
  | none => .error .outOfRange

/-- The best candidate, which has to be there. -/
def present (best : Option Candidate) : Except Fault Candidate :=
  match best with
  | some c => .ok c
  | none => .error .noBest

/-- A part of a whole. -/
def share (part whole : Nat) : Except Fault Float :=
  if whole = 0 then .error .divisionByZero else .ok (Float.ofNat part / Float.ofNat whole)

/-- A score as a double. -/
def toFloat (score : Int) : Except Fault Float := (floatOfInt score).mapError .number

/-- A whole number as a text. -/
def written (n : Int) : Except Fault String := (showWhole n).mapError .number

/-! ## Shapes -/

/-- Whether the first letter alone is in upper case, or will be when typing begins. -/
def isCapitalized (w : TypedWord) : Except Fault Bool :=
  if w.isComposing then do
    let first ← item w.chars 0
    return Text.isUpperCase first && w.capsCount == 1
  else .ok (w.caps != .off)

theorem isCapitalized_eq (w : TypedWord) : isCapitalized w = .ok w.isCapitalized := by
  unfold isCapitalized TypedWord.isCapitalized TypedWord.isComposing
  cases w.chars <;> rfl

/-- The characters with the first one in upper case. -/
def capitalize (casing : Casing) (cs : List Char) : Except Fault (List Char) :=
  if cs.length ≤ 1 then .ok (casing.upperChars cs)
  else do
    let first ← item cs 0
    return casing.upperChars [first] ++ cs.drop 1

theorem capitalize_eq (casing : Casing) (cs : List Char) :
    capitalize casing cs = .ok (casing.capitalizeChars cs) := by
  match cs with
  | [] => rfl
  | [c] => simp [capitalize, Casing.capitalizeChars, Casing.upperChars]
  | c :: d :: rest =>
    simp [capitalize, item, Casing.capitalizeChars, Casing.upperChars, pure, Except.pure, ok_bind]

/-- The characters in the case of a shape. -/
def cased (shape : Shape) (casing : Casing) (cs : List Char) : Except Fault (List Char) :=
  if shape.allUpper then .ok (casing.upperChars cs)
  else if shape.capitalized then capitalize casing cs
  else .ok cs

/-- The candidate in a shape, cased by the locale of its dictionary or else by `default`. -/
def own (shape : Shape) (default : Option Locale) (c : Candidate) : Except Fault Candidate := do
  let cs := c.text.toList
  let letters ← cased shape (.ofLocale (c.locale <|> default)) cs
  let missing := Apostrophes.missing cs shape.apostrophes
  return c.withText (String.ofList (letters ++ List.replicate missing apostrophe))

/-- The candidates in a shape. -/
def candidates (shape : Shape) (default : Option Locale) (cs : List Candidate) :
    Except Fault (List Candidate) :=
  if shape.isPlain then .ok cs else cs.mapM (own shape default)

theorem own_eq (shape : Shape) (default : Option Locale) (c : Candidate) :
    own shape default c = .ok (shape.own default c) := by
  have letters (casing : Casing) (cs : List Char) :
      cased shape casing cs = .ok (shape.casedChars casing cs) := by
    unfold cased Shape.casedChars
    rw [capitalize_eq]
    split
    · rfl
    · split <;> rfl
  rw [own, letters]
  rfl

theorem candidates_eq (shape : Shape) (default : Option Locale) (cs : List Candidate) :
    candidates shape default cs = .ok (shape.candidates default cs) := by
  have each : own shape default = fun c => pure (shape.own default c) := funext (own_eq shape default)
  unfold candidates Shape.candidates
  rw [each, List.mapM_pure]
  split <;> rfl

/-! ## Lists -/

/-- The candidates with the first two exchanged if the first is the word turned down. -/
def demote (rejected : Option String) (cs : List Candidate) : Except Fault (List Candidate) :=
  if 1 < cs.length ∧ rejected.isSome then do
    let first ← item cs 0
    if rejected = some first.text then do
      let second ← item cs 1
      return second :: first :: cs.drop 2
    else return cs
  else .ok cs

theorem demote_eq (rejected : Option String) (cs : List Candidate) :
    demote rejected cs = .ok (Distinct.demote rejected cs) := by
  match cs with
  | [] => simp [demote, Distinct.demote]
  | [top] => simp [demote, Distinct.demote]
  | top :: next :: rest =>
    cases rejected with
    | none => simp [demote, Distinct.demote]
    | some word =>
      by_cases same : word = top.text
      · simp [demote, item, Distinct.demote, same, pure, Except.pure, ok_bind]
      · simp [demote, item, Distinct.demote, same, pure, Except.pure, ok_bind]

/-- The first candidate, if there is one. -/
def first? (cs : List Candidate) : Except Fault (Option Candidate) :=
  if cs.isEmpty then .ok none
  else do
    let first ← item cs 0
    return some first

theorem first?_eq (cs : List Candidate) : first? cs = .ok cs.head? := by
  cases cs <;> rfl

/-- The text of the first candidate when it is a listed replacement. -/
def listed (cs : List Candidate) : Except Fault (Option String) :=
  if cs.isEmpty then .ok none
  else do
    let first ← item cs 0
    return if first.isWhitelisted then some first.text else none

theorem listed_eq (cs : List Candidate) :
    listed cs = .ok ((cs.head?.filter Candidate.isWhitelisted).map (·.text)) := by
  cases cs with
  | nil => rfl
  | cons c rest =>
    rw [List.head?_cons, Option.filter_some]
    cases h : c.isWhitelisted <;> simp [listed, item, h, pure, Except.pure, ok_bind]

/-! ## Scores -/

/-- The score of `after` weighted by its closeness to the typed word `before`. -/
def weightedScore (before after : String) (score : Int) : Except Fault Float :=
  if before.isEmpty || after.isEmpty then .ok 0.0
  else if after.toList.count ' ' = after.length then .ok 0.0
  else
    let distance := editDistance before after
    if score ≤ 0 ∨ after.length ≤ distance then .ok 0.0
    else do
      let edited ← share distance after.length
      let score ← toFloat score
      return score / Float.ofNat Closeness.scale * (1.0 - edited)

/-- A text is all spaces when there are as many of them as characters. -/
theorem all_spaces_iff (s : String) :
    s.toList.all (· == ' ') = true ↔ s.toList.count ' ' = s.length := by
  rw [← String.length_toList, List.count_eq_length, List.all_eq_true]
  simp only [beq_iff_eq, @eq_comm _ ' ']

/-- The length is not zero where it divides: the distance is smaller. -/
theorem weightedScore_eq (before after : String) (score : Int) :
    weightedScore before after score = (WordStrip.weightedScore before after score).mapError .number := by
  unfold weightedScore WordStrip.weightedScore Closeness.of?
  by_cases blank : before.isEmpty = true ∨ after.toList.count ' ' = after.length
  · have none : (before.isEmpty || after.toList.all (· == ' ')) = true := by
      rwa [Bool.or_eq_true, all_spaces_iff]
    rw [if_pos none]
    split
    · rfl
    · rw [if_pos (blank.resolve_left (by grind))]
      rfl
  · rw [not_or] at blank
    have some : ¬ (before.isEmpty || after.toList.all (· == ' ')) = true := by
      rw [Bool.or_eq_true, all_spaces_iff]
      exact not_or.mpr blank
    have written : after.isEmpty = false := by
      rw [Bool.eq_false_iff]
      exact fun empty => blank.2 (by simp [String.isEmpty_iff.mp empty])
    rw [if_neg some, if_neg (by simp [blank.1, written]), if_neg blank.2]
    dsimp only
    split
    · rfl
    · rename_i close
      have whole : after.length ≠ 0 := by omega
      rw [share, if_neg whole, ok_bind]
      dsimp only
      rw [Closeness.toFloat, mapError_bind]
      rfl

/-- Whether a suggestion for `considered` reaches the threshold. -/
def exceeds (c : Candidate) (considered : String) (threshold : Float) : Except Fault Bool :=
  if c.isWhitelisted then .ok true
  else do
    let score ← weightedScore considered c.text c.score
    return threshold ≤ score

theorem exceeds_eq (c : Candidate) (considered : String) (threshold : Float) :
    exceeds c considered threshold =
      (exceedsThreshold (some c) considered threshold).mapError .number := by
  rw [exceeds, exceedsThreshold]
  split
  · rfl
  · rw [weightedScore_eq, mapError_bind]
    rfl

/-- The verdict on the best candidate. -/
def judge (s : Situation) (limits : SpaceLimits) (threshold : Float) : Except Fault Verdict :=
  match s.denial? with
  | some denial => .ok (.denied denial)
  | none => do
    let top ← present s.top
    if !(← exceeds top s.considered threshold) then return .underThreshold top
    else if !limits.allows top then return .overSpaceLimit top
    else return .accepted top

/-- Behind the gates there is a best candidate. -/
theorem judge_eq (s : Situation) (limits : SpaceLimits) (threshold : Float) :
    judge s limits threshold = (s.judge limits threshold).mapError .number := by
  unfold judge Situation.judge Situation.denial?
  cases passed : s.passGates with
  | error denial => rfl
  | ok top =>
    have best : s.top = some top := (Situation.passGates_eq_ok.mp passed).best
    simp only [best, present, ok_bind, exceeds_eq, mapError_bind]
    cases exceedsThreshold (some top) s.considered threshold with
    | error e => rfl
    | ok reached => cases reached <;> cases limits.allows top <;> rfl

/-! ## Notes -/

/-- The note of a suggestion. -/
def note (typed : String) (c : Candidate) : Except Fault String := do
  let weighted ← weightedScore typed c.text c.score
  let score ← written c.score
  if 0 < weighted then return s!"{score} ({fixed 2 weighted}), {c.source.dictionary}"
  else return score

/-- The suggestions with their notes. -/
def annotateRest (typed : String) : List Candidate → Except Fault (List Candidate)
  | [] => .ok []
  | c :: rest => do
    let note ← note typed c
    return c.withNote note :: (← annotateRest typed rest)

/-- The suggestions with their notes; the first has a plus instead. -/
def annotate (typed : String) (cs : List Candidate) : Except Fault (List Candidate) := do
  let first ← item cs 0
  return first.withNote "+" :: (← annotateRest typed (cs.drop 1))

theorem annotateRest_eq (typed : String) (cs : List Candidate) :
    annotateRest typed cs = (WordStrip.annotateRest typed cs).mapError .number := by
  induction cs with
  | nil => rfl
  | cons c rest ih =>
    have noted : note typed c = (scoreNote typed c).mapError .number := by
      rw [note, scoreNote, weightedScore_eq, mapError_bind]
      refine congrArg (Bind.bind _) (funext fun weighted => ?_)
      rw [written, mapError_bind]
      refine congrArg (Bind.bind _) (funext fun score => ?_)
      split <;> rfl
    rw [annotateRest, WordStrip.annotateRest, noted, ih, mapError_bind]
    congr 1
    funext written
    rw [mapError_bind]
    rfl

/-- A list with an entry has a first one. -/
theorem annotate_eq (typed : String) {cs : List Candidate} (shown : cs ≠ []) :
    annotate typed cs = (WordStrip.annotate typed cs).mapError .number := by
  cases cs with
  | nil => exact absurd rfl shown
  | cons c rest =>
    rw [annotate, WordStrip.annotate, mapError_bind, List.drop_one, List.tail_cons, annotateRest_eq]
    rfl

/-- The suggestions, with their notes when they are asked for and there are any. -/
def noted (settings : Settings) (typed : String) (cs : List Candidate) :
    Except Fault (List Candidate) :=
  if settings.annotates && !cs.isEmpty then annotate typed cs else .ok cs

theorem noted_eq (r : Request) (settings : Settings) (lookup : Lookup) :
    noted settings r.word.text (r.word.entry ++ r.survivors lookup) =
      (r.shown settings lookup).mapError .number := by
  unfold noted Request.shown
  dsimp only
  cases settings.annotates with
  | false => rfl
  | true =>
    cases r.word.entry ++ r.survivors lookup with
    | nil => rfl
    | cons c rest => exact annotate_eq _ (List.cons_ne_nil c rest)

/-! ## Requests -/

/-- The strip for a typed word. -/
def typing (r : Request) (settings : Settings) (threshold : Float) (lookup : Lookup) :
    Except Fault Strip := do
  let capitalized ← isCapitalized r.word
  let shape := { r.word.typingShape with capitalized }
  let shaped ← candidates shape (some lookup.locale) lookup.results.candidates
  let survivors := Distinct.distinct (some r.word.text) shaped
  let listed ← listed survivors
  let top ← first? lookup.results.candidates
  let typedFound := Distinct.hasTyped (some r.word.text) shaped
  let situation := { r.situation lookup with listed, typedFound, top }
  let verdict ← judge situation settings.spaceLimits threshold
  let suggestions ← noted settings r.word.text (r.word.entry ++ survivors)
  -- the record at the end is put together, also where it is not shown
  let _ ← written r.sequence
  return {
    suggestions
    raw := lookup.results.raw
    typedWordValid := r.word.isComposing && !situation.isEligible
    willAutoCorrect := verdict.isAccepted
    style := r.stripStyle lookup
    sequence := r.sequence }

/-- The strip for a gesture. -/
def gesture (r : Request) (lookup : Lookup) : Except Fault Strip := do
  let shaped ← candidates r.word.gestureShape (some lookup.locale) lookup.results.candidates
  let moved ← demote r.word.rejected shaped
  return {
    suggestions := Distinct.aboveFloor (Distinct.distinct none moved)
    raw := lookup.results.raw
    typedWordValid := true
    willAutoCorrect := false
    style := r.style
    sequence := r.sequence }

theorem typing_eq {r : Request} (style : r.word.isGesture = false) (settings : Settings)
    (threshold : Float) (lookup : Lookup) :
    typing r settings threshold lookup =
      (r.answer settings threshold lookup).outcome.mapError .number := by
  -- what the steps before the decision give is what the decision is taken from
  have decided : typing r settings threshold lookup = (do
      let verdict ← judge (r.situation lookup) settings.spaceLimits threshold
      let suggestions ← noted settings r.word.text (r.word.entry ++ r.survivors lookup)
      let _ ← written r.sequence
      return r.typingStrip lookup suggestions verdict) := by
    simp only [typing, isCapitalized_eq, candidates_eq, listed_eq, first?_eq, ok_bind]
    rfl
  rw [decided, judge_eq, noted_eq, written, Request.outcome_typing_eq style]
  simp only [mapError_bind]
  rfl

theorem gesture_eq (r : Request) (lookup : Lookup) : gesture r lookup = .ok (r.gestureStrip lookup) := by
  simp only [gesture, candidates_eq, demote_eq, ok_bind]
  rfl

end Attempt

namespace Request

variable {settings : Settings} {threshold : Float} {lookup : Lookup}

/-- The request with its guards and with steps that know of none. -/
def attempt (r : Request) (settings : Settings) (threshold : Float) (lookup : Lookup) :
    Except Fault Strip :=
  if r.word.isGesture then Attempt.gesture r lookup else Attempt.typing r settings threshold lookup

/-- An attempt ends as the request does: of all the faults only those of numbers are left. -/
theorem attempt_eq (r : Request) (settings : Settings) (threshold : Float) (lookup : Lookup) :
    r.attempt settings threshold lookup =
      (r.answer settings threshold lookup).outcome.mapError .number := by
  unfold attempt
  cases mode : r.word.isGesture with
  | true =>
    rw [if_pos rfl, outcome_gesture mode]
    exact Attempt.gesture_eq r lookup
  | false =>
    rw [if_neg Bool.false_ne_true]
    exact Attempt.typing_eq mode settings threshold lookup

/-- Which requests run into a fault, in either mode, with any settings and any threshold. When the scores
have 32 bits, every step is taken where it works and the strip is that of the request, unless the request
is one while the user types whose number has too many digits: it ends with the fault of that number. With
other scores, no faults come in but those of numbers, and each of them has an obstacle that it is due to. -/
theorem attempt_verdict (r : Request) (settings : Settings) (threshold : Float) (lookup : Lookup) :
    ((∀ c ∈ lookup.results.candidates, c.ScoreFits) →
      ((∃ strip, r.attempt settings threshold lookup = .ok strip ∧
          (r.answer settings threshold lookup).outcome = .ok strip) ↔ r.IsRecordable) ∧
        (r.attempt settings threshold lookup = .error (.number .notShowable) ↔ ¬ r.IsRecordable)) ∧
    ∀ fault, r.attempt settings threshold lookup = .error fault →
      r.word.isGesture = false ∧ ∃ e, fault = .number e ∧ r.Obstacle settings lookup e := by
  rw [attempt_eq]
  refine ⟨fun fits => ⟨?answered, ?faults⟩, ?due⟩
  case answered =>
    simp only [mapError_eq_ok, and_self]
    exact exists_answer_iff settings threshold fits
  case faults =>
    simp only [mapError_eq_error, Fault.number.injEq, exists_eq_right, outcome_eq_error_iff fits,
      and_true]
  case due =>
    intro fault failed
    obtain ⟨e, unanswered, rfl⟩ := mapError_eq_error.mp failed
    obtain ⟨typing, obstacle⟩ := outcome_eq_error unanswered
    exact ⟨typing, e, rfl, obstacle⟩

end Request

/-- Steps that are taken where they do not work. -/
example :
    Attempt.annotate "word" [] = .error .outOfRange ∧ Attempt.present none = .error .noBest ∧
      Attempt.share 1 0 = .error .divisionByZero :=
  ⟨rfl, rfl, rfl⟩

/-- A capitalized word with an apostrophe behind it. -/
def Request.quotedAb : Request := { word := { text := "Ab'" } }

/-- A lookup whose best candidate has no text, with one of spaces and one with the lowest score behind
it. -/
def Lookup.ofBlanks : Lookup where
  results := { candidates := [
    { text := "", score := maxScore }, { text := " ", score := 1 },
    { text := "abc", score := -(maxScore + 1) }] }

/-- With notes, and with a threshold that is no number, the candidates without letters are shaped and
weighted like all others. -/
theorem Request.quotedAb_without_fault :
    (∀ c ∈ Lookup.ofBlanks.results.candidates, c.ScoreFits) ∧ quotedAb.IsRecordable ∧
      ∃ strip,
        quotedAb.attempt { Settings.default with annotates := true } noNumber .ofBlanks = .ok strip ∧
        strip.words = ["Ab'", "'", " '", "Abc'"] := by
  have fits : ∀ c ∈ Lookup.ofBlanks.results.candidates, c.ScoreFits := by decide +kernel
  have recordable : quotedAb.IsRecordable := isRecordable_of_zero rfl
  have law := (attempt_verdict quotedAb { Settings.default with annotates := true } noNumber .ofBlanks).1
  obtain ⟨strip, attempted, answered⟩ := (law fits).1.mpr recordable
  have words : (quotedAb.answer { Settings.default with annotates := true } noNumber
      .ofBlanks).delivered.map Strip.words = [["Ab'", "'", " '", "Abc'"]] := by
    decide +kernel
  exact ⟨fits, recordable, strip, attempted, by simpa [Reply.delivered, answered] using words⟩

/-- A request whose number is the least with too many digits. -/
def Request.overNumbered : Request := { word := { text := "teh" }, sequence := showableBound }

/-- It runs into a fault, though nothing was looked up and no notes are asked for. -/
theorem Request.overNumbered_faults :
    overNumbered.attempt .default 0.185 {} = .error (.number .notShowable) ∧
      (overNumbered.answer .default 0.185 {}).outcome = .error .notShowable := by
  have unrecordable : ¬ overNumbered.IsRecordable := by decide +kernel
  have failed : (overNumbered.answer .default 0.185 {}).outcome = .error .notShowable :=
    (outcome_eq_error_iff fun _ known => absurd known List.not_mem_nil).mpr ⟨unrecordable, rfl⟩
  exact ⟨(attempt_eq _ _ _ _).trans (congrArg _ failed), failed⟩

end WordStrip
