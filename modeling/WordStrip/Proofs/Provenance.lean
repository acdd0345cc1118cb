import WordStrip.Proofs.Failure
import WordStrip.Proofs.Gesture
import WordStrip.Proofs.Replacement

/-!
# Where suggestions come from

`Strip.Provenance` says of a strip which candidates of the lookup it shows, in which order and how
changed. It speaks of positions in the lookup and of a shape applied to each candidate, and neither of
the walk that drops repetitions nor of the short cut for a shape that changes nothing.

While the user types the strip is determined by that, up to notes: `Request.offered` is the entry of
the word and the candidates at the positions whose shaped text is new. For a gesture it is said that
suggestions are distinct, come from the lookup and are above the floor; which words they are is
`Request.gesture_words_iff`.

Every request is answered by such a strip, unless an obstacle stands in its way: a score of its lookup, or
its own number (`Request.answer_provenance`).
-/

namespace WordStrip

namespace TypedWord

/-- The text of the entry is that of the word, if anything is typed. -/
theorem text_entry (w : TypedWord) :
    w.entry.map (·.text) = if w.text = "" then [] else [w.text] := by
  by_cases blank : w.text = ""
  · rw [entry_of_blank blank, if_pos blank, List.map_nil]
  · rw [entry_of_composing blank, if_neg blank]
    rfl

/-- The entry has no note. -/
theorem bare_entry (w : TypedWord) : w.entry.map Candidate.bare = w.entry := by
  unfold entry
  split <;> rfl

end TypedWord

namespace Request

variable {r : Request} {settings : Settings} {threshold : Float} {lookup : Lookup} {strip : Strip}

/-- What is shown while the user types: the entry of the word and, in the order of the lookup, the
candidates in the shape of the word, at the positions whose text is neither that of the entry nor
stands at an earlier position. -/
def offered (r : Request) (lookup : Lookup) : List Candidate :=
  let cs := lookup.results.candidates.map (r.fitted lookup)
  r.word.entry ++
    ((List.finRange cs.length).filter (Distinct.IsNew (r.word.entry.map (·.text)) cs)).map cs.get

/-- The survivors are what the walk leaves with the text of the entry met. -/
theorem survivors_eq_keepFirst (r : Request) (lookup : Lookup) :
    r.survivors lookup =
      Distinct.keepFirst (r.word.entry.map (·.text)) (lookup.results.candidates.map (r.fitted lookup)) := by
  rw [survivors, Distinct.distinct_some, ← TypedWord.text_entry, shaped_eq_map]

theorem offered_eq (r : Request) (lookup : Lookup) :
    r.offered lookup = r.word.entry ++ r.survivors lookup := by
  rw [offered, survivors_eq_keepFirst, Distinct.keepFirst_eq_map_isNew]

/-- No text is offered twice: the survivors are distinct, and none of them has the text of the
entry. -/
theorem nodup_offered (r : Request) (lookup : Lookup) :
    ((r.offered lookup).map (·.text)).Nodup := by
  rw [offered_eq, survivors_eq_keepFirst, List.map_append, List.nodup_append]
  refine ⟨?_, Distinct.nodup_keepFirst _ _, ?_⟩
  · rw [TypedWord.text_entry]
    split <;> simp
  · intro word typed other mem same
    obtain ⟨c, left, rfl⟩ := List.mem_map.mp mem
    exact (Distinct.mem_keepFirst.mp left).1 (same ▸ typed)

/-- What is offered is the entry or a candidate of the lookup in the shape of the word. -/
theorem origin_of_mem_offered {c : Candidate} (mem : c ∈ r.offered lookup) :
    c ∈ r.word.entry ∨ ∃ origin ∈ lookup.results.candidates, c = r.fitted lookup origin := by
  rw [offered_eq, List.mem_append] at mem
  exact mem.imp_right origin_of_mem_survivors

/-- What a gesture suggests is above the floor and a candidate of the lookup in the shape of the
gesture. -/
theorem origin_of_mem_gesture {c : Candidate} (mem : c ∈ r.gestureSuggestions lookup) :
    Distinct.floorScore < c.score ∧
      ∃ origin ∈ lookup.results.candidates, c = r.word.gestureShape.own (some lookup.locale) origin := by
  rw [gestureSuggestions_eq, Distinct.aboveFloor, List.mem_filter, decide_eq_true_eq] at mem
  obtain ⟨left, above⟩ := mem
  refine ⟨above, ?_⟩
  have first := (Distinct.mem_keepFirst.mp left).2
  have known := Distinct.mem_demote.mp (List.mem_of_find?_eq_some first)
  obtain ⟨origin, listed, rfl⟩ := List.mem_map.mp known
  exact ⟨origin, listed, rfl⟩

end Request

/-- What a strip shows comes from the lookup. -/
structure Strip.Provenance (strip : Strip) (r : Request) (settings : Settings) (lookup : Lookup) :
    Prop where
  /-- No text is shown twice. -/
  distinct : strip.words.Nodup
  /-- The candidates kept for inspection are those of the lookup. -/
  raw : strip.raw = lookup.results.raw
  /-- A suggestion is the entry of the typed word or a candidate of the lookup, of which only the
  text and the note have changed, the text into the shape of the request. -/
  origin : ∀ c ∈ strip.suggestions, (r.word.isGesture = false ∧ c.bare ∈ r.word.entry) ∨
    ∃ origin ∈ lookup.results.candidates, c.bare = (r.shape.own (some lookup.locale) origin).bare
  /-- While the user types, exactly the offered suggestions are shown, up to notes. -/
  typing : r.word.isGesture = false →
    strip.suggestions.map Candidate.bare = (r.offered lookup).map Candidate.bare
  /-- Without notes for debugging, they are shown with the notes that they came with. -/
  unannotated : r.word.isGesture = false → settings.annotates = false →
    strip.suggestions = r.offered lookup
  /-- What a gesture suggests is no distraction. -/
  gesture : r.word.isGesture = true → ∀ c ∈ strip.suggestions, Distinct.floorScore < c.score

namespace Request

variable {r : Request} {settings : Settings} {threshold : Float} {lookup : Lookup} {strip : Strip}

/-- The strip of a request while the user types comes from its lookup. -/
theorem provenance_typing (typing : r.word.isGesture = false)
    (answered : (r.answer settings threshold lookup).outcome = .ok strip) :
    strip.Provenance r settings lookup := by
  obtain ⟨verdict, suggestions, -, showed, -, rfl⟩ := (outcome_typing typing).mp answered
  have bare : suggestions.map Candidate.bare = (r.offered lookup).map Candidate.bare := by
    rw [offered_eq]
    exact bare_shown showed
  exact {
    distinct := by
      rw [Strip.words, typingStrip, Candidate.map_text_of_bare bare]
      exact nodup_offered r lookup
    raw := rfl
    origin := by
      intro c mem
      have same : c.bare ∈ (r.offered lookup).map Candidate.bare := bare ▸ List.mem_map_of_mem mem
      obtain ⟨d, offered, eq⟩ := List.mem_map.mp same
      rw [← eq]
      rcases origin_of_mem_offered offered with typed | ⟨origin, known, rfl⟩
      · refine .inl ⟨typing, ?_⟩
        rw [← TypedWord.bare_entry]
        exact List.mem_map_of_mem typed
      · refine .inr ⟨origin, known, ?_⟩
        rw [shape, if_neg (by simp [typing]), fitted]
    typing := fun _ => bare
    unannotated := by
      intro _ plain
      rw [shown, if_neg (by simp [plain])] at showed
      rw [offered_eq]
      exact (Except.ok.inj showed).symm
    gesture := fun gesture => absurd (typing.symm.trans gesture) nofun }

/-- The strip of a gesture comes from its lookup. -/
theorem provenance_gesture (gesture : r.word.isGesture = true) :
    (r.gestureStrip lookup).Provenance r settings lookup := by
  have away : r.word.isGesture ≠ false := by simp [gesture]
  exact {
    distinct := by
      rw [Strip.words, gestureStrip, gestureSuggestions_eq]
      exact (Distinct.nodup_keepFirst _ _).sublist (List.filter_sublist.map _)
    raw := rfl
    origin := by
      intro c mem
      obtain ⟨-, origin, known, rfl⟩ := origin_of_mem_gesture mem
      refine .inr ⟨origin, known, ?_⟩
      rw [shape, if_pos gesture]
    typing := fun typing => absurd typing away
    unannotated := fun typing => absurd typing away
    gesture := fun _ c mem => (origin_of_mem_gesture mem).1 }

/-- A request in either mode is answered by a strip that comes from its lookup. It fails only while
the user types, and with the failure that an obstacle leads to: a candidate of the lookup has a score that
is too large, or one too long for a note, or the number of the request is too long for its record. -/
theorem answer_provenance (r : Request) (settings : Settings) (threshold : Float) (lookup : Lookup) :
    (∃ strip, (r.answer settings threshold lookup).outcome = .ok strip ∧
        strip.Provenance r settings lookup) ∨
      ∃ e, (r.answer settings threshold lookup).outcome = .error e ∧ r.word.isGesture = false ∧
        r.Obstacle settings lookup e := by
  cases answered : (r.answer settings threshold lookup).outcome with
  | error e =>
    obtain ⟨typing, obstacle⟩ := outcome_eq_error answered
    exact .inr ⟨e, rfl, typing, obstacle⟩
  | ok strip =>
    refine .inl ⟨strip, rfl, ?_⟩
    cases mode : r.word.isGesture with
    | false => exact provenance_typing mode answered
    | true =>
      rw [outcome_gesture mode] at answered
      obtain rfl := Except.ok.inj answered
      exact provenance_gesture mode

/-- Behind a name with an apostrophe, what becomes the name itself goes, and so does what becomes a
repetition; a candidate with an apostrophe of its own takes no other. -/
example :
    (answer { word := { text := "Can'" } } .default 0.185 { results := { candidates := [
      { text := "can", score := 90 }, { text := "cannot", score := 80 },
      { text := "Cannot", score := 70 }, { text := "can't", score := 60 }] } }).delivered.map
        Strip.words = [["Can'", "Cannot'", "Can't"]] := by
  decide +kernel

end Request

end WordStrip
