import WordStrip.Proofs.Gesture
import WordStrip.Proofs.Replacement

/-!
# What a strip commits to

A strip that says that the typed word is replaced leaves it to its caller to take the second entry.
Nothing checks that there is one, or that it differs from the word: it follows from the conditions of
`Request.Replaced` together. Either the best candidate does not become the typed word, and then it is
the second entry; or it does, so that the word is found, and then only a listed replacement opens the
gates, which is the second entry.

`Strip.Commits` is what the caller may rely on, and `Request.commits_of_willAutoCorrect` that it may.
-/

namespace WordStrip

/-- A strip commits to a candidate: the entry of the typed word comes first, the candidate behind it
has another text, and it is a listed replacement or the best candidate of the lookup, which reaches
the threshold as it came. -/
structure Strip.Commits (strip : Strip) (r : Request) (threshold : Float) (lookup : Lookup)
    (committed : Candidate) : Prop where
  entry : ∃ entry, strip.suggestions[0]? = some entry ∧ entry.bare = .ofTyped r.word.text
  two : 2 ≤ strip.suggestions.length
  names : strip.autoCorrection? = some committed
  differs : committed.text ≠ r.word.text
  noShortcut : committed.kind ≠ .shortcut
  notValid : strip.typedWordValid = false
  warranted : committed.kind = .whitelist ∨
    ∃ top score, lookup.results.first? = some top ∧ committed.bare = (r.fitted lookup top).bare ∧
      weightedScore (Apostrophes.stem r.word.text) top.text top.score = .ok score ∧ threshold ≤ score

namespace Request

variable {r : Request} {settings : Settings} {threshold : Float} {lookup : Lookup} {strip : Strip}

/-- While something is typed, the entry of the word comes first in the strip. -/
theorem exists_entry (typing : r.word.isGesture = false)
    (answered : (r.answer settings threshold lookup).outcome = .ok strip)
    (composing : r.word.text ≠ "") :
    ∃ entry, strip.suggestions[0]? = some entry ∧ entry.bare = .ofTyped r.word.text := by
  obtain ⟨verdict, suggestions, -, showed, -, rfl⟩ := (outcome_typing typing).mp answered
  have first : (suggestions.map Candidate.bare)[0]? = some (.ofTyped r.word.text) := by
    rw [bare_shown showed, TypedWord.entry_of_composing composing]
    rfl
  rw [List.getElem?_map, Option.map_eq_some_iff] at first
  exact first

/-- The candidate that is put in place of the typed word is a listed replacement, or it is the best
one and reaches the threshold. -/
theorem warranted_of_replaced {origin : Candidate} (replaced : r.Replaced settings threshold lookup)
    (behind : r.replacement? lookup = some origin) :
    origin.kind = .whitelist ∨ lookup.results.first? = some origin ∧ origin.kind ≠ .shortcut ∧
      ∃ score, weightedScore (Apostrophes.stem r.word.text) origin.text origin.score = .ok score ∧
        threshold ≤ score := by
  obtain ⟨top, best, noShortcut, reaches, -⟩ := replaced.best
  by_cases becomes : (r.fitted lookup top).text = r.word.text
  · obtain ⟨other, found, listed⟩ := listed_of_best replaced best becomes
    obtain rfl : origin = other := Option.some.inj (behind.symm.trans found)
    exact .inl listed
  · obtain rfl : top = origin :=
      Option.some.inj ((replacement?_of_best best becomes).symm.trans behind)
    exact reaches.imp_right fun scored => ⟨best, noShortcut, scored⟩

/-- A strip that says, while the user types, that the word is replaced commits to a candidate; the
strip of a gesture never says so. -/
theorem commits_of_willAutoCorrect :
    (r.word.isGesture = false → ∀ strip, (r.answer settings threshold lookup).outcome = .ok strip →
      strip.willAutoCorrect = true → ∃ committed, strip.Commits r threshold lookup committed) ∧
      (r.word.isGesture = true → ∃ strip, (r.answer settings threshold lookup).outcome = .ok strip ∧
        strip.willAutoCorrect = false) := by
  refine ⟨fun typing strip answered corrects => ?_, fun gesture => ⟨_, outcome_gesture gesture, rfl⟩⟩
  have replaced := (willAutoCorrect_iff typing answered).mp corrects
  obtain ⟨origin, committed, behind, puts, same⟩ := autoCorrection_eq_some typing answered corrects
  have text : committed.text = (r.fitted lookup origin).text := by
    simpa using congrArg Candidate.text same
  have kind : committed.kind = origin.kind := by
    simpa [fitted] using congrArg Candidate.kind same
  have warrant := warranted_of_replaced replaced behind
  refine ⟨committed, ?_⟩
  exact {
    entry := exists_entry typing answered replaced.composing
    two := by
      rw [Strip.autoCorrection?, if_pos corrects] at puts
      exact (List.getElem?_eq_some_iff.mp puts).1
    names := puts
    differs := by
      rw [text]
      simpa using List.find?_some behind
    noShortcut := by
      rw [kind]
      rcases warrant with listed | ⟨-, noShortcut, -⟩
      · rw [listed]
        decide
      · exact noShortcut
    notValid := by
      rw [← Bool.not_eq_true]
      intro valid
      exact ((typedWordValid_iff typing answered).mp valid).2 replaced.correctable
    warranted := by
      rw [kind]
      rcases warrant with listed | ⟨best, -, score, scored, reaches⟩
      · exact .inl listed
      · exact .inr ⟨origin, score, best, same, scored, reaches⟩ }

end Request

/-- The three words are no listed replacement: they are the best candidate and reach the threshold. A
gesture with a listed replacement is left alone. -/
theorem Request.commits_to_quotedCompound :
    (Request.quotedCompound.answer .default 0.185 .ofQuotedCompound).outcome = .ok .ofQuotedCompound ∧
      Strip.ofQuotedCompound.willAutoCorrect = true ∧
      (∃ committed, Strip.ofQuotedCompound.Commits .quotedCompound 0.185 .ofQuotedCompound committed ∧
        committed.kind = .correction) ∧
      Request.retried.word.isGesture = true ∧
      ∃ strip, (Request.retried.answer .default 0.185 .ofCompound).outcome = .ok strip ∧
        strip.willAutoCorrect = false := by
  have answered : (Request.quotedCompound.answer .default 0.185 .ofQuotedCompound).outcome =
      .ok .ofQuotedCompound := by
    decide +kernel
  obtain ⟨committed, commits⟩ := Request.commits_of_willAutoCorrect.1 rfl _ answered rfl
  refine ⟨answered, rfl, ⟨committed, commits, ?_⟩, rfl, Request.commits_of_willAutoCorrect.2 rfl⟩
  obtain rfl := Option.some.inj commits.names
  rfl

end WordStrip
