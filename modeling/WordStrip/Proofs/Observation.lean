import WordStrip.Proofs.Annotation
import WordStrip.Proofs.Provenance
import WordStrip.Proofs.TrailingApostrophes

/-!
# Notes only observe

Settings may ask for notes. `Request.annotation_observes` says that this is all that the request does
on it: the strips with and without notes are the same in every field once the notes are taken off
(`Strip.bare`), and asking for notes makes no request fail that did not fail without.

What the notes are is said by `Strip.Noted`. Where notes are asked for while the user types, the first
suggestion has a plus, and every other one has a note that is written from the typed word and from its
own text, score and dictionary, and from nothing else: these four are all that `writtenNote` is given.
Without, and for gestures, a suggestion has the note that its candidate came with.

The scores are taken to have 32 bits. A score that is too large for a double, or too long for a text,
fails only a request that weighs or writes it, and notes do so to candidates that the decision leaves alone.
-/

namespace WordStrip

open WordStrip.Number

/-! ## What a note is written from -/

/-- The note for a text with a score from a dictionary, when a word is typed. -/
def writtenNote (typed text : String) (score : Int) (dictionary : String) :
    Except NumeralError String := do
  let weighted ← weightedScore typed text score
  let written ← showWhole score
  if 0 < weighted then return s!"{written} ({fixed 2 weighted}), {dictionary}"
  else return written

/-- Every suggestion behind the first has the note that is written for it. -/
theorem note_of_mem_annotateRest {typed : String} {cs out : List Candidate}
    (annotated : annotateRest typed cs = .ok out) :
    ∀ c ∈ out, writtenNote typed c.text c.score c.source.dictionary = .ok c.note := by
  induction cs generalizing out with
  | nil =>
    cases annotated
    exact fun _ mem => (nomatch mem)
  | cons c rest ih =>
    obtain ⟨note, noted, further⟩ := bind_eq_ok.mp annotated
    obtain ⟨tail, walked, answer⟩ := bind_eq_ok.mp further
    obtain rfl := pure_eq_ok.mp answer
    intro d mem
    rcases List.mem_cons.mp mem with rfl | behind
    -- a note is not written from the note that was there before
    · exact noted
    · exact ih walked d behind

theorem note_of_annotate {typed : String} {cs out : List Candidate}
    (annotated : annotate typed cs = .ok out) :
    (∀ c ∈ out.head?, c.note = "+") ∧
      ∀ c ∈ out.tail, writtenNote typed c.text c.score c.source.dictionary = .ok c.note := by
  cases cs with
  | nil =>
    cases annotated
    exact ⟨fun _ mem => (nomatch mem), fun _ mem => (nomatch mem)⟩
  | cons c rest =>
    obtain ⟨tail, walked, answer⟩ := bind_eq_ok.mp annotated
    obtain rfl := pure_eq_ok.mp answer
    refine ⟨?_, note_of_mem_annotateRest walked⟩
    rintro d ⟨⟩
    rfl

/-! ## Strips -/

namespace Strip

/-- The strip without the notes of its suggestions. -/
def bare (strip : Strip) : Strip := { strip with suggestions := strip.suggestions.map Candidate.bare }

/-- The notes of a strip. -/
structure Noted (strip : Strip) (r : Request) (settings : Settings) (lookup : Lookup) : Prop where
  /-- With notes, the first suggestion has a plus. -/
  first : r.word.isGesture = false → settings.annotates = true →
    ∀ c ∈ strip.suggestions.head?, c.note = "+"
  /-- With notes, every suggestion behind it has the note that is written for it. -/
  behind : r.word.isGesture = false → settings.annotates = true →
    ∀ c ∈ strip.suggestions.tail,
      writtenNote r.word.text c.text c.score c.source.dictionary = .ok c.note
  /-- Without notes, and for a gesture, a candidate of the lookup keeps the note that it came with. -/
  kept : r.word.isGesture = true ∨ settings.annotates = false → ∀ c ∈ strip.suggestions,
    (r.word.isGesture = false ∧ c ∈ r.word.entry) ∨
      ∃ origin ∈ lookup.results.candidates,
        c = r.shape.own (some lookup.locale) origin ∧ c.note = origin.note

end Strip

namespace Request

variable {r : Request} {settings : Settings} {threshold : Float} {lookup : Lookup} {strip other : Strip}

/-- The notes of a strip while the user types. -/
theorem noted_typing (typing : r.word.isGesture = false)
    (answered : (r.answer settings threshold lookup).outcome = .ok strip) :
    strip.Noted r settings lookup := by
  obtain ⟨verdict, suggestions, -, showed, -, rfl⟩ := (outcome_typing typing).mp answered
  have annotated (annotates : settings.annotates = true) :
      annotate r.word.text (r.word.entry ++ r.survivors lookup) = .ok suggestions := by
    rwa [shown, if_pos annotates] at showed
  exact {
    first := fun _ annotates => (note_of_annotate (annotated annotates)).1
    behind := fun _ annotates => (note_of_annotate (annotated annotates)).2
    kept := by
      rintro (gesture | plain) c mem
      · exact absurd (typing.symm.trans gesture) Bool.false_ne_true
      · rw [shown, if_neg (by simp [plain])] at showed
        obtain rfl := Except.ok.inj showed
        refine (List.mem_append.mp mem).imp (fun typed => ⟨typing, typed⟩) fun survives => ?_
        obtain ⟨origin, known, rfl⟩ := origin_of_mem_survivors survives
        refine ⟨origin, known, ?_, rfl⟩
        rw [shape, if_neg (by simp [typing]), fitted] }

/-- The notes of the strip of a gesture. -/
theorem noted_gesture (gesture : r.word.isGesture = true) :
    (r.gestureStrip lookup).Noted r settings lookup := by
  have away : r.word.isGesture ≠ false := by simp [gesture]
  exact {
    first := fun typing => absurd typing away
    behind := fun typing => absurd typing away
    kept := by
      intro _ c mem
      obtain ⟨-, origin, known, rfl⟩ := origin_of_mem_gesture mem
      refine .inr ⟨origin, known, ?_, rfl⟩
      rw [shape, if_pos gesture] }

/-- Two strips for one word, with notes or without, are the same without the notes: the decision does
not look at them, and up to notes the same is shown. -/
theorem bare_of_annotates {annotates : Bool} (typing : r.word.isGesture = false)
    (answered : (r.answer settings threshold lookup).outcome = .ok strip)
    (reanswered : (r.answer { settings with annotates } threshold lookup).outcome = .ok other) :
    other.bare = strip.bare := by
  obtain ⟨verdict, suggestions, judged, showed, -, rfl⟩ := (outcome_typing typing).mp answered
  obtain ⟨again, others, rejudged, reshowed, -, rfl⟩ := (outcome_typing typing).mp reanswered
  obtain rfl : verdict = again := Except.ok.inj (judged.symm.trans rejudged)
  have same : others.map Candidate.bare = suggestions.map Candidate.bare :=
    (bare_shown reshowed).trans (bare_shown showed).symm
  simp only [Strip.bare, typingStrip, same]

/-- The strips for one word with notes and without, in either mode. -/
theorem bare_and_noted {annotates : Bool}
    (answered : (r.answer settings threshold lookup).outcome = .ok strip)
    (reanswered : (r.answer { settings with annotates } threshold lookup).outcome = .ok other) :
    other.bare = strip.bare ∧ strip.Noted r settings lookup := by
  cases mode : r.word.isGesture with
  | false => exact ⟨bare_of_annotates mode answered reanswered, noted_typing mode answered⟩
  | true =>
    rw [outcome_gesture mode] at answered reanswered
    obtain rfl := Except.ok.inj answered
    obtain rfl := Except.ok.inj reanswered
    exact ⟨rfl, noted_gesture mode⟩

/-- A request whose scores have 32 bits is answered whether notes are asked for or not. The two strips
are the same once the notes are taken off, and the notes are those of `Strip.Noted`. A request that fails
has to write a number that it cannot, and it fails alike with notes and without. -/
theorem annotation_observes (r : Request) (settings : Settings) (annotates : Bool) (threshold : Float)
    {lookup : Lookup} (fits : ∀ c ∈ lookup.results.candidates, c.ScoreFits) :
    (∃ strip other, (r.answer settings threshold lookup).outcome = .ok strip ∧
        (r.answer { settings with annotates } threshold lookup).outcome = .ok other ∧
        other.bare = strip.bare ∧ strip.Noted r settings lookup) ∨
      ¬ r.IsRecordable ∧ (r.answer settings threshold lookup).outcome = .error .notShowable ∧
        (r.answer { settings with annotates } threshold lookup).outcome = .error .notShowable := by
  by_cases recordable : r.IsRecordable
  · obtain ⟨strip, answered⟩ := (exists_answer_iff settings threshold fits).mpr recordable
    obtain ⟨other, reanswered⟩ :=
      (exists_answer_iff { settings with annotates } threshold fits).mpr recordable
    exact .inl ⟨strip, other, answered, reanswered, bare_and_noted answered reanswered⟩
  · refine .inr ⟨recordable, ?_, ?_⟩
    all_goals exact (outcome_eq_error_iff fits).mpr ⟨recordable, rfl⟩

end Request

/-- A lookup for a slip whose candidates come with notes, the last one from the bottom. -/
def Lookup.ofTehNoted : Lookup where
  results := { candidates := [
    { text := "the", score := 1000000, note := "common" },
    { text := "teach", score := 0, note := "rare" }] }

/-- With notes, the slip has a plus, the word that is meant has its score and the same weighted and in
millions, and a word from the bottom has its bare score. Without, the words have the notes that they came
with. The rest is the same. -/
theorem Request.teh_noted :
    (∀ c ∈ Lookup.ofTehNoted.results.candidates, c.ScoreFits) ∧
      ∃ noted plain,
        (teh.answer { Settings.default with annotates := true } 0.185 .ofTehNoted).outcome =
          .ok noted ∧
        (teh.answer .default 0.185 .ofTehNoted).outcome = .ok plain ∧ plain.bare = noted.bare ∧
        noted.suggestions.map (·.note) = ["+", "1000000 (0.67), user_typed", "0"] ∧
        plain.suggestions.map (·.note) = ["", "common", "rare"] := by
  have fits : ∀ c ∈ Lookup.ofTehNoted.results.candidates, c.ScoreFits := by decide +kernel
  obtain ⟨noted, plain, answered, reanswered, same, -⟩ :=
    (annotation_observes teh { Settings.default with annotates := true } false 0.185 fits).resolve_right
      fun failed => failed.1 (isRecordable_of_zero rfl)
  have written : (teh.answer { Settings.default with annotates := true } 0.185
      .ofTehNoted).delivered.map (·.suggestions.map (·.note)) =
        [["+", "1000000 (0.67), user_typed", "0"]] := by
    decide +kernel
  have kept : (teh.answer .default 0.185 .ofTehNoted).delivered.map (·.suggestions.map (·.note)) =
      [["", "common", "rare"]] := by
    decide +kernel
  refine ⟨fits, noted, plain, answered, reanswered, same, ?_, ?_⟩
  · simpa [Reply.delivered, answered] using written
  · have again : (teh.answer .default 0.185 .ofTehNoted).outcome = .ok plain := reanswered
    simpa [Reply.delivered, again] using kept

end WordStrip
