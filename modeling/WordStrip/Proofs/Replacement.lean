import WordStrip.Proofs.Typing

/-!
# What replaces the typed word

The decision judges the best candidate of the lookup as it came, `lookup.results.first?`. What is
put in place of the typed word is the second entry of the strip, and that is, in the shape of the
typed word, the first candidate whose shaped text is not the word itself: `Request.replacement?`
(`Request.autoCorrection_eq_some`). The two questions are asked of different things, and the laws
here say exactly when that shows.

`Request.replacement_judged_iff`: the replacement is the judged candidate unless the judged
candidate becomes the typed word. Then the word is found among the candidates, so it is replaced
only because a listed replacement comes first behind it, and that one was not judged.

`Request.replacement_allowed_iff`: the text that replaces the word is within the limit of its
language exactly when the candidate that it comes from would be at the length that it has in its
shape. The judged candidate is within the limit at the length that it came with, which casing and
apostrophes may exceed; a candidate that was not judged need not be within it at all.
-/

namespace WordStrip

namespace Request

variable {r : Request} {settings : Settings} {threshold : Float} {lookup : Lookup} {strip : Strip}

/-! ## The candidate behind the replacement -/

/-- The candidate in the shape of the typed word, cased by the locale of its dictionary or else by
that of the lookup. -/
def fitted (r : Request) (lookup : Lookup) (c : Candidate) : Candidate :=
  r.word.typingShape.own (some lookup.locale) c

/-- The candidate that stands behind the typed word: the first one whose text in the shape of the
word is not the word itself. -/
def replacement? (r : Request) (lookup : Lookup) : Option Candidate :=
  lookup.results.candidates.find? fun c => (r.fitted lookup c).text ≠ r.word.text

theorem shaped_eq_map (r : Request) (lookup : Lookup) :
    r.shaped lookup = lookup.results.candidates.map (r.fitted lookup) :=
  Shape.candidates_eq_map _ _ _

/-- A survivor is a candidate of the lookup in the shape of the word. -/
theorem origin_of_mem_survivors {c : Candidate} (survives : c ∈ r.survivors lookup) :
    ∃ origin ∈ lookup.results.candidates, c = r.fitted lookup origin := by
  have first := (Distinct.mem_keepFirst.mp survives).2
  have shaped := (List.mem_filter.mp (List.mem_of_find?_eq_some first)).1
  rw [shaped_eq_map] at shaped
  obtain ⟨origin, known, rfl⟩ := List.mem_map.mp shaped
  exact ⟨origin, known, rfl⟩

/-- Behind a typed word, the first survivor is the replacement in the shape of the word. -/
theorem head?_survivors_of_composing (composing : r.word.text ≠ "") :
    (r.survivors lookup).head? = (r.replacement? lookup).map (r.fitted lookup) := by
  rw [head?_survivors, shaped_eq_map, List.find?_map, replacement?]
  simp only [composing, false_or]
  rfl

/-- A listed replacement is a replacement that the lookup lists. -/
theorem listed_iff (composing : r.word.text ≠ "") :
    r.Listed lookup ↔ ∃ origin, r.replacement? lookup = some origin ∧ origin.kind = .whitelist := by
  rw [Listed, ← head?_survivors, head?_survivors_of_composing composing]
  constructor
  · rintro ⟨c, first, listed⟩
    obtain ⟨origin, behind, rfl⟩ := Option.map_eq_some_iff.mp first
    exact ⟨origin, behind, listed⟩
  · rintro ⟨origin, behind, listed⟩
    exact ⟨r.fitted lookup origin, by rw [behind, Option.map_some], listed⟩

/-- The best candidate is the replacement unless it becomes the typed word. -/
theorem replacement?_of_best {top : Candidate} (best : lookup.results.candidates.head? = some top)
    (differs : (r.fitted lookup top).text ≠ r.word.text) : r.replacement? lookup = some top := by
  obtain ⟨rest, cons⟩ := List.head?_eq_some_iff.mp best
  rw [replacement?, cons, List.find?_cons_of_pos (by simpa using differs)]

/-- When the best candidate becomes the typed word, a word that is replaced has a listed
replacement. -/
theorem listed_of_best {top : Candidate} (replaced : r.Replaced settings threshold lookup)
    (best : lookup.results.candidates.head? = some top)
    (becomes : (r.fitted lookup top).text = r.word.text) :
    ∃ origin, r.replacement? lookup = some origin ∧ origin.kind = .whitelist := by
  rcases replaced.correctable with listed | ⟨-, absent⟩
  · exact (listed_iff replaced.composing).mp listed
  -- otherwise the word would not be found, and the best candidate is the word
  · have mem : r.fitted lookup top ∈ r.shaped lookup := by
      rw [shaped_eq_map]
      exact List.mem_map_of_mem (List.mem_of_head? best)
    exact absurd ⟨replaced.composing, r.fitted lookup top, mem, becomes⟩ absent

/-- A word that is replaced has a replacement. -/
theorem exists_replacement (replaced : r.Replaced settings threshold lookup) :
    ∃ origin, r.replacement? lookup = some origin := by
  obtain ⟨top, best, -⟩ := replaced.best
  by_cases becomes : (r.fitted lookup top).text = r.word.text
  · obtain ⟨origin, behind, -⟩ := listed_of_best replaced best becomes
    exact ⟨origin, behind⟩
  · exact ⟨top, replacement?_of_best best becomes⟩

/-- What is put in place of the typed word is its replacement, in the shape of the word and up to
the note. -/
theorem autoCorrection_eq_some (typing : r.word.isGesture = false)
    (answered : (r.answer settings threshold lookup).outcome = .ok strip)
    (corrects : strip.willAutoCorrect = true) :
    ∃ origin committed, r.replacement? lookup = some origin ∧
      strip.autoCorrection? = some committed ∧ committed.bare = (r.fitted lookup origin).bare := by
  have replaced := (willAutoCorrect_iff typing answered).mp corrects
  obtain ⟨origin, behind⟩ := exists_replacement replaced
  have first : (r.survivors lookup).head? = some (r.fitted lookup origin) := by
    rw [head?_survivors_of_composing replaced.composing, behind, Option.map_some]
  obtain ⟨rest, survivors⟩ := List.head?_eq_some_iff.mp first
  obtain ⟨verdict, suggestions, -, showed, -, rfl⟩ := (outcome_typing typing).mp answered
  have second : (suggestions.map Candidate.bare)[1]? = some (r.fitted lookup origin).bare := by
    rw [bare_shown showed, TypedWord.entry_of_composing replaced.composing, survivors]
    rfl
  rw [List.getElem?_map, Option.map_eq_some_iff] at second
  obtain ⟨committed, behindWord, same⟩ := second
  refine ⟨origin, committed, behind, ?_, same⟩
  rw [Strip.autoCorrection?, if_pos corrects]
  exact behindWord

/-! ## The judged candidate -/

/-- Whenever the typed word is replaced, the replacement is the judged candidate in the shape of the
word, up to the note, exactly when that is not the word itself; otherwise it is a listed
replacement. -/
theorem replacement_judged_iff (typing : r.word.isGesture = false)
    (answered : (r.answer settings threshold lookup).outcome = .ok strip)
    (corrects : strip.willAutoCorrect = true) :
    ∃ top committed, lookup.results.first? = some top ∧ strip.autoCorrection? = some committed ∧
      (committed.same (r.fitted lookup top) = true ↔ (r.fitted lookup top).text ≠ r.word.text) ∧
      ((r.fitted lookup top).text = r.word.text → committed.kind = .whitelist) := by
  have replaced := (willAutoCorrect_iff typing answered).mp corrects
  obtain ⟨top, best, -⟩ := replaced.best
  obtain ⟨origin, committed, behind, puts, same⟩ := autoCorrection_eq_some typing answered corrects
  refine ⟨top, committed, best, puts, ⟨?_, ?_⟩, ?_⟩
  · intro judged becomes
    have text : (r.fitted lookup origin).text = (r.fitted lookup top).text := by
      simpa using congrArg Candidate.text (same.symm.trans (Candidate.same_iff.mp judged))
    have differs : (r.fitted lookup origin).text ≠ r.word.text := by
      simpa using List.find?_some behind
    exact differs (text.trans becomes)
  · intro differs
    obtain rfl : top = origin := Option.some.inj ((replacement?_of_best best differs).symm.trans behind)
    exact Candidate.same_iff.mpr same
  · intro becomes
    obtain ⟨other, found, listed⟩ := listed_of_best replaced best becomes
    obtain rfl : origin = other := Option.some.inj (behind.symm.trans found)
    have kind : committed.kind = origin.kind := by
      simpa [fitted] using congrArg Candidate.kind same
    rw [kind, listed]

/-- The compound itself is judged, and another candidate is put in its place. -/
theorem replacement_of_compound_not_judged :
    (compound.answer .default 0.185 .ofCompound).outcome = .ok .ofCompound ∧
      Strip.ofCompound.willAutoCorrect = true ∧
      ∃ top committed, Lookup.ofCompound.results.first? = some top ∧
        Strip.ofCompound.autoCorrection? = some committed ∧
        committed.same (compound.fitted .ofCompound top) = false ∧ committed.kind = .whitelist := by
  have answered : (compound.answer .default 0.185 .ofCompound).outcome = .ok .ofCompound := by
    decide +kernel
  obtain ⟨top, committed, best, puts, judged, listed⟩ := replacement_judged_iff rfl answered rfl
  have becomes : (compound.fitted .ofCompound top).text = compound.word.text := by
    obtain rfl := Option.some.inj best
    decide +kernel
  refine ⟨answered, rfl, top, committed, best, puts, ?_, listed becomes⟩
  rw [← Bool.not_eq_true]
  exact fun same => judged.mp same becomes

/-! ## The limit on words with spaces -/

/-- The length of a candidate in the shape of the typed word: that of its cased text and of the
apostrophes that it lacks. -/
def fittedLength (r : Request) (lookup : Lookup) (c : Candidate) : Nat :=
  (r.word.typingShape.casedChars (.ofLocale (c.locale <|> some lookup.locale)) c.text.toList).length +
    Apostrophes.missing c.text.toList (Apostrophes.count r.word.text)

theorem length_fitted (r : Request) (lookup : Lookup) (c : Candidate) :
    (r.fitted lookup c).text.length = r.fittedLength lookup c := by
  rw [← String.length_toList, fitted, Shape.own, Shape.candidate, Candidate.text_withText,
    Shape.toList_text, Shape.length_chars]
  rfl

theorem space_mem_fitted (r : Request) (lookup : Lookup) (c : Candidate) :
    ' ' ∈ (r.fitted lookup c).text.toList ↔ ' ' ∈ c.text.toList := by
  rw [fitted, Shape.own, Shape.candidate, Candidate.text_withText, Shape.toList_text,
    Shape.space_mem_chars]

/-- Whenever the typed word is replaced, the text that replaces it is within the limit exactly when
the candidate that it comes from would be at its length in the shape of the word. That candidate is
within the limit at its own length when it is the judged one. -/
theorem replacement_allowed_iff (typing : r.word.isGesture = false)
    (answered : (r.answer settings threshold lookup).outcome = .ok strip)
    (corrects : strip.willAutoCorrect = true) :
    ∃ origin committed, r.replacement? lookup = some origin ∧
      strip.autoCorrection? = some committed ∧
      (settings.spaceLimits.allows committed = true ↔
        ∀ limit, settings.spaceLimits.limitOf? origin = some limit → ' ' ∈ origin.text.toList →
          (r.fittedLength lookup origin : Int) ≤ limit) ∧
      (lookup.results.first? = some origin → settings.spaceLimits.allows origin = true) := by
  obtain ⟨origin, committed, behind, puts, same⟩ := autoCorrection_eq_some typing answered corrects
  have text : committed.text = (r.fitted lookup origin).text := by
    simpa using congrArg Candidate.text same
  have limit : settings.spaceLimits.limitOf? committed = settings.spaceLimits.limitOf? origin := by
    have source : committed.source = origin.source := by
      simpa [fitted] using congrArg Candidate.source same
    simp only [SpaceLimits.limitOf?, Candidate.locale, source]
  refine ⟨origin, committed, behind, puts, ?_, ?_⟩
  · rw [SpaceLimits.allows_iff, limit, text, length_fitted, space_mem_fitted]
  · intro judged
    obtain ⟨top, best, -, -, within⟩ := ((willAutoCorrect_iff typing answered).mp corrects).best
    obtain rfl : top = origin := Option.some.inj (best.symm.trans judged)
    exact SpaceLimits.allows_iff.mpr within

end Request

/-- A compound typed in one word, with an apostrophe behind it. -/
def Request.quotedCompound : Request := { word := { text := "zweidreivi'" } }

/-- A lookup that returns the compound in three words, which are as long as the limit. -/
def Lookup.ofQuotedCompound : Lookup where
  results := { candidates := [
    { text := "zwei drei vi", score := 1000000, source := .main { language := "de" } }] }
  locale := { language := "de" }

/-- What the compound is answered with: the apostrophe makes the three words longer. -/
def Strip.ofQuotedCompound : Strip where
  suggestions := [
    .ofTyped "zweidreivi'",
    { text := "zwei drei vi'", score := 1000000, source := .main { language := "de" } }]
  raw := Lookup.ofQuotedCompound.results.candidates
  typedWordValid := false
  willAutoCorrect := true
  style := .typing
  sequence := 0

/-- The three words pass the limit and are put in place of the typed word longer than it. -/
theorem Request.replacement_of_quoted_not_allowed :
    (Request.quotedCompound.answer .default 0.185 .ofQuotedCompound).outcome = .ok .ofQuotedCompound ∧
      Strip.ofQuotedCompound.willAutoCorrect = true ∧
      ∃ committed, Strip.ofQuotedCompound.autoCorrection? = some committed ∧
        Settings.default.spaceLimits.allows committed = false := by
  have answered : (Request.quotedCompound.answer .default 0.185 .ofQuotedCompound).outcome =
      .ok .ofQuotedCompound := by
    decide +kernel
  obtain ⟨origin, committed, behind, puts, allowed, -⟩ :=
    Request.replacement_allowed_iff rfl answered rfl
  refine ⟨answered, rfl, committed, puts, ?_⟩
  have grown : Request.quotedCompound.replacement? .ofQuotedCompound =
      Lookup.ofQuotedCompound.results.first? := by
    decide +kernel
  obtain rfl := Option.some.inj (grown.symm.trans behind)
  rw [← Bool.not_eq_true, allowed]
  intro within
  have twelve := within 12 (by decide +kernel) (by decide +kernel)
  exact absurd twelve (by decide +kernel)

end WordStrip
