import WordStrip.Proofs.Annotation
import WordStrip.Proofs.Provenance

/-!
# Strips served again

A strip can be served back: what it shows behind the entry of the typed word becomes the list of a
lookup, and the same request is asked again. Nothing is left to be done then. The candidates have the
shape of the word already (`Request.fitted_of_same`), none of them repeats another or is the word
itself, so all of them stay (`Request.survivors_again`), and a note is written from what has not
changed. `Request.served_again` puts these together.

The word may have at most one apostrophe behind it: with two, each candidate takes one, has one, and
takes another one when it is served again.
-/

namespace WordStrip

namespace Request

variable {r : Request} {settings : Settings} {threshold : Float} {lookup again : Lookup}

/-- A candidate that has been shaped for the word is left by its shape, whatever its note. -/
theorem fitted_of_same {c origin : Candidate} (few : Apostrophes.count r.word.text ≤ 1)
    (locale : again.locale = lookup.locale) (same : c.bare = (r.fitted lookup origin).bare) :
    r.fitted again c = c := by
  have text : c.text = (r.fitted lookup origin).text := by
    simpa using congrArg Candidate.text same
  have source : c.source = origin.source := by
    simpa [fitted] using congrArg Candidate.source same
  have one : r.word.typingShape.apostrophes ≤ 1 := Int.ofNat_le.mpr few
  have twice := congrArg Candidate.text (Shape.own_own one (some lookup.locale) origin)
  have kept : r.word.typingShape.text (.ofLocale (c.locale <|> some again.locale)) c.text = c.text := by
    rw [text, locale, Candidate.locale, source]
    exact twice
  exact congrArg c.withText kept

/-- When the survivors of a request are served again, whatever their notes, all of them survive. -/
theorem survivors_again (few : Apostrophes.count r.word.text ≤ 1)
    (locale : again.locale = lookup.locale)
    (served : again.results.candidates.map Candidate.bare =
      (r.survivors lookup).map Candidate.bare) :
    r.survivors again = again.results.candidates := by
  have shaped : ∀ c ∈ again.results.candidates, r.fitted again c = c := by
    intro c mem
    have known : c.bare ∈ (r.survivors lookup).map Candidate.bare :=
      served ▸ List.mem_map_of_mem mem
    obtain ⟨d, survives, same⟩ := List.mem_map.mp known
    obtain ⟨origin, -, rfl⟩ := origin_of_mem_survivors survives
    exact fitted_of_same few locale same.symm
  have texts := Candidate.map_text_of_bare served
  have offered := nodup_offered r lookup
  rw [offered_eq, List.map_append, ← texts, List.nodup_append] at offered
  obtain ⟨-, once, apart⟩ := offered
  rw [survivors_eq_keepFirst, List.map_congr_left shaped, List.map_id']
  refine Distinct.keepFirst_eq_self (fun c mem typed => ?_) once
  exact apart _ typed _ (List.mem_map_of_mem mem) rfl

/-- What is shown behind the entry of the typed word are the survivors, with other notes. -/
theorem bare_behind {suggestions : List Candidate}
    (showed : r.shown settings lookup = .ok suggestions) :
    (suggestions.drop r.word.entry.length).map Candidate.bare =
      (r.survivors lookup).map Candidate.bare := by
  rw [List.map_drop, bare_shown showed, List.map_append, List.drop_left' (List.length_map _)]

/-- What is shown behind the entry of the typed word, served again, is shown as it was. -/
theorem shown_again {suggestions : List Candidate} (few : Apostrophes.count r.word.text ≤ 1)
    (showed : r.shown settings lookup = .ok suggestions) (locale : again.locale = lookup.locale)
    (served : again.results.candidates = suggestions.drop r.word.entry.length) :
    r.shown settings again = .ok suggestions := by
  have behind : again.results.candidates.map Candidate.bare =
      (r.survivors lookup).map Candidate.bare := by
    rw [served, bare_behind showed]
  have left := survivors_again few locale behind
  unfold shown at showed ⊢
  rw [left]
  split
  case isTrue annotates =>
    rw [if_pos annotates] at showed
    rw [annotate_congr, showed]
    rw [List.map_append, List.map_append, behind]
  case isFalse plain =>
    rw [if_neg plain] at showed
    have all := Except.ok.inj showed
    rw [served, ← all, List.drop_left]

/-- The scores that a strip shows behind the entry of the typed word are scores of the lookup. -/
theorem score_of_mem_behind {suggestions : List Candidate} {c : Candidate}
    (showed : r.shown settings lookup = .ok suggestions)
    (behind : c ∈ suggestions.drop r.word.entry.length) :
    ∃ origin ∈ lookup.results.candidates, c.score = origin.score := by
  have mem : c.bare ∈ (r.survivors lookup).map Candidate.bare :=
    bare_behind showed ▸ List.mem_map_of_mem behind
  obtain ⟨d, survives, same⟩ := List.mem_map.mp mem
  obtain ⟨origin, known, rfl⟩ := origin_of_mem_survivors survives
  exact ⟨origin, known, (congrArg Candidate.score same).symm⟩

/-- A request for a word with at most one apostrophe behind it is answered, and when what its strip
shows behind the entry of the word is served to the same request, the second strip shows the same:
the same candidates in the same order, with their notes. Only a request that cannot write its own number
has no strip. -/
theorem served_again (settings : Settings) (threshold : Float) (typing : r.word.isGesture = false)
    (few : Apostrophes.count r.word.text ≤ 1)
    (fits : ∀ c ∈ lookup.results.candidates, c.ScoreFits) :
    (∃ strip, (r.answer settings threshold lookup).outcome = .ok strip ∧
      ∀ again : Lookup, again.locale = lookup.locale →
        again.results.candidates = strip.suggestions.drop r.word.entry.length →
        ∃ second, (r.answer settings threshold again).outcome = .ok second ∧
          second.suggestions = strip.suggestions) ∨
      ¬ r.IsRecordable ∧ (r.answer settings threshold lookup).outcome = .error .notShowable := by
  by_cases recordable : r.IsRecordable
  case neg => exact .inr ⟨recordable, (outcome_eq_error_iff fits).mpr ⟨recordable, rfl⟩⟩
  obtain ⟨strip, answered⟩ := (exists_answer_iff settings threshold fits).mpr recordable
  refine .inl ⟨strip, answered, fun again locale served => ?_⟩
  obtain ⟨_, suggestions, -, showed, -, rfl⟩ := (outcome_typing typing).mp answered
  have refits : ∀ c ∈ again.results.candidates, c.ScoreFits := by
    intro c mem
    obtain ⟨origin, known, score⟩ := score_of_mem_behind showed (served ▸ mem)
    rw [Candidate.ScoreFits, score]
    exact fits origin known
  obtain ⟨second, reanswered⟩ := (exists_answer_iff settings threshold refits).mpr recordable
  refine ⟨second, reanswered, ?_⟩
  obtain ⟨_, others, -, reshown, -, rfl⟩ := (outcome_typing typing).mp reanswered
  exact Except.ok.inj (reshown.symm.trans (shown_again few showed locale served))

end Request

/-- A capitalized word with an apostrophe behind it. -/
def Request.quotedIs : Request := { word := { text := "Is'" } }

/-- A lookup with a word whose first letter has two capitals, and with one word in two languages, which
capitalize it differently. -/
def Lookup.ofIs : Lookup where
  results := { candidates := [
    { text := "ßing", score := 1000000, source := .main { language := "de" } },
    { text := "isi", score := 900000, source := .main { language := "tr" } },
    { text := "isi", score := 800000, source := .main { language := "en" } }] }

/-- The strip with notes and the strip for what it shows behind the word are the same: no letter grows
and no apostrophe is added a second time. -/
theorem Request.served_is_again :
    Apostrophes.count Request.quotedIs.word.text = 1 ∧
      (∀ c ∈ Lookup.ofIs.results.candidates, c.ScoreFits) ∧
      ∃ strip second, (Request.quotedIs.answer { Settings.default with annotates := true } 0.185
          .ofIs).outcome = .ok strip ∧
        strip.words = ["Is'", "SSing'", "İsi'", "Isi'"] ∧
        (Request.quotedIs.answer { Settings.default with annotates := true } 0.185
          { Lookup.ofIs with results := { candidates := strip.suggestions.tail } }).outcome = .ok second ∧
        second.suggestions = strip.suggestions := by
  have one : Apostrophes.count Request.quotedIs.word.text = 1 := by decide +kernel
  have fits : ∀ c ∈ Lookup.ofIs.results.candidates, c.ScoreFits := by decide +kernel
  obtain ⟨strip, answered, served⟩ :=
    (Request.served_again { Settings.default with annotates := true } 0.185 rfl (Nat.le_of_eq one)
      fits).resolve_right fun failed => failed.1 (Request.isRecordable_of_zero rfl)
  obtain ⟨second, reanswered, same⟩ := served
    { Lookup.ofIs with results := { candidates := strip.suggestions.tail } } rfl List.drop_one.symm
  refine ⟨one, fits, strip, second, answered, ?_, reanswered, same⟩
  have delivered : (Request.quotedIs.answer { Settings.default with annotates := true } 0.185
      .ofIs).delivered.map Strip.words = [["Is'", "SSing'", "İsi'", "Isi'"]] := by
    decide +kernel
  simpa [Reply.delivered, answered] using delivered

end WordStrip
