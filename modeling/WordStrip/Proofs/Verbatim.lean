import WordStrip.Proofs.Replacement

/-!
# Words that the lookup returns as they were typed

Candidates are compared with the typed word in the shape of that word, so a candidate with the very
text of the word counts as the word only because the shape that is read off a word leaves the word
itself alone. For a word of two letters or more it does (`TypedWord.text_typingShape`): the letters
that it puts in upper case are capital letters, in every locale, and a word with at most one apostrophe
behind it lacks none. With two apostrophes it would take one more.

A single letter is cased by the shift lock and may change. It is not corrected for being unknown in any
case, so that the law for requests, `Request.verbatim_stands`, holds for every word.
-/

namespace WordStrip

namespace TypedWord

/-- The case of a word of two letters or more is its own: it leaves the word as it is. -/
theorem casedChars_typingShape {w : TypedWord} (longer : 1 < w.chars.length) (casing : Casing) :
    w.typingShape.casedChars casing w.chars = w.chars := by
  unfold Shape.casedChars
  split
  case isTrue upper =>
    simp only [typingShape, isAllUpperCase, Bool.and_eq_true, if_neg (Nat.not_le.mpr longer),
      beq_iff_eq] at upper
    exact Casing.upperChars_of_capitals (List.countP_eq_length.mp upper.1) casing
  case isFalse =>
    split
    case isTrue capitalized =>
      simp only [typingShape, isCapitalized] at capitalized
      split at capitalized
      case h_1 nothing =>
        rw [nothing]
        rfl
      case h_2 first rest letters =>
        rw [Bool.and_eq_true] at capitalized
        rw [letters]
        exact Casing.capitalizeChars_of_capital capitalized.1 rest casing
    case isFalse => rfl

/-- The shape of a word of two letters or more, with at most one apostrophe behind it, leaves the
word as it is. -/
theorem text_typingShape {w : TypedWord} (longer : 1 < w.chars.length)
    (few : Apostrophes.count w.text ≤ 1) (casing : Casing) :
    w.typingShape.text casing w.text = w.text := by
  have kept : w.typingShape.chars casing w.chars = w.chars := by
    rw [Shape.chars, casedChars_typingShape longer]
    simp [typingShape, Apostrophes.count, chars, Apostrophes.missing_countChars few]
  rw [Shape.text]
  exact (congrArg String.ofList kept).trans String.ofList_toList

end TypedWord

namespace Request

variable {r : Request} {settings : Settings} {threshold : Float} {lookup : Lookup} {strip : Strip}

/-- A word of two letters or more that the lookup returns as it was typed is found. -/
theorem found_of_verbatim (longer : 1 < r.word.chars.length)
    (few : Apostrophes.count r.word.text ≤ 1)
    (verbatim : ∃ c ∈ lookup.results.candidates, c.text = r.word.text) : r.Found lookup := by
  obtain ⟨c, mem, text⟩ := verbatim
  refine ⟨fun blank => ?_, r.fitted lookup c, ?_, ?_⟩
  · simp [TypedWord.chars, blank] at longer
  · rw [shaped_eq_map]
    exact List.mem_map_of_mem mem
  · rw [fitted, Shape.own, Shape.candidate, Candidate.text_withText, text]
    exact TypedWord.text_typingShape longer few _

/-- A word that the lookup returns as it was typed may be corrected only to a listed replacement. -/
theorem correctable_of_verbatim (few : Apostrophes.count r.word.text ≤ 1)
    (verbatim : ∃ c ∈ lookup.results.candidates, c.text = r.word.text) :
    r.Correctable lookup ↔ r.Listed lookup := by
  refine or_iff_left fun ⟨longer, absent⟩ => absent ?_
  have letters : 1 < r.word.chars.length := by
    have := Apostrophes.length_stem_le r.word.text
    rw [TypedWord.chars, String.length_toList]
    omega
  exact found_of_verbatim letters few verbatim

/-- A word that the lookup returns as it was typed, whatever the candidate is beside its text, stands:
it is valid, and it is not replaced, unless a listed replacement comes first behind it. -/
theorem verbatim_stands (typing : r.word.isGesture = false) (composing : r.word.text ≠ "")
    (answered : (r.answer settings threshold lookup).outcome = .ok strip)
    (few : Apostrophes.count r.word.text ≤ 1)
    (verbatim : ∃ c ∈ lookup.results.candidates, c.text = r.word.text) :
    (strip.typedWordValid = true ↔ ¬ r.Listed lookup) ∧
      (¬ r.Listed lookup → strip.willAutoCorrect = false) := by
  have correctable := correctable_of_verbatim few verbatim
  refine ⟨?_, fun unlisted => ?_⟩
  · rw [typedWordValid_iff typing answered, correctable]
    exact and_iff_right composing
  · rw [← Bool.not_eq_true, willAutoCorrect_iff typing answered]
    exact fun replaced => unlisted (correctable.mp replaced.correctable)

end Request

/-- A name typed with an apostrophe, in a language whose capital `i` has a dot. -/
def Request.izmir : Request := { word := { text := "İzmir'" } }

/-- A lookup that returns the name as it was typed, behind a word that is close to it. -/
def Lookup.ofIzmir : Lookup where
  results := { candidates := [
    { text := "izmit", score := 1000000, source := .main { language := "tr" } },
    { text := "İzmir'", score := 10, source := .main { language := "tr" } }] }
  locale := { language := "tr" }

/-- What the name is answered with. -/
def Strip.ofIzmir : Strip where
  suggestions := [
    .ofTyped "İzmir'",
    { text := "İzmit'", score := 1000000, source := .main { language := "tr" } }]
  raw := Lookup.ofIzmir.results.candidates
  typedWordValid := true
  willAutoCorrect := false
  style := .typing
  sequence := 0

/-- The name stands although the best candidate would reach the threshold. -/
theorem Request.verbatim_izmir_stands :
    (Request.izmir.answer .default 0.185 .ofIzmir).outcome = .ok .ofIzmir ∧
      Apostrophes.count Request.izmir.word.text = 1 ∧
      (∃ c ∈ Lookup.ofIzmir.results.candidates, c.text = Request.izmir.word.text) ∧
      ¬ Request.izmir.Listed .ofIzmir ∧ Strip.ofIzmir.willAutoCorrect = false := by
  have answered : (Request.izmir.answer .default 0.185 .ofIzmir).outcome = .ok .ofIzmir := by
    decide +kernel
  have one : Apostrophes.count Request.izmir.word.text = 1 := by decide +kernel
  have verbatim : ∃ c ∈ Lookup.ofIzmir.results.candidates, c.text = Request.izmir.word.text := by
    decide +kernel
  have stands := Request.verbatim_stands rfl (by decide) answered (Nat.le_of_eq one) verbatim
  have unlisted := stands.1.mp rfl
  exact ⟨answered, one, verbatim, unlisted, stands.2 unlisted⟩

end WordStrip
