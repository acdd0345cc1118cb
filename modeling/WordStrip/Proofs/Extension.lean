import WordStrip.Proofs.Annotation
import WordStrip.Proofs.Provenance
import WordStrip.Proofs.TrailingApostrophes

/-!
# Longer lookups

A lookup may find more words behind those that it has found, of lower rank. What a strip shows already
then stays where it is, with its notes, and the new words come behind it.

Each stage by itself keeps the beginning of its list: the shape is put on one by one, the first of a
text stays whatever follows, distractions go one by one, and notes are written one by one. The
exchange of a word that was turned down looks at two candidates at once. It keeps the beginning of a
list that has these two, and of any list where no word was turned down (`Distinct.prefix_demote`). A
list with the word alone is another matter: the word is moved once there is another one.

`Request.prefix_suggestions` puts the stages together for both modes.
-/

namespace WordStrip

/-! ## Stages -/

namespace Distinct

theorem prefix_keepFirst (seen : List String) {cs ds : List Candidate} (shorter : cs <+: ds) :
    keepFirst seen cs <+: keepFirst seen ds := by
  obtain ⟨behind, rfl⟩ := shorter
  rw [keepFirst_append]
  exact List.prefix_append _ _

/-- The exchange keeps the beginning of a list that has the two exchanged candidates, and of every list
where there is nothing to exchange. -/
theorem prefix_demote {rejected : Option String} {cs ds : List Candidate}
    (settled : rejected = none ∨ 2 ≤ cs.length) (shorter : cs <+: ds) :
    demote rejected cs <+: demote rejected ds := by
  obtain ⟨behind, rfl⟩ := shorter
  match cs with
  | first :: second :: rest =>
    simp only [List.cons_append, demote]
    split
    · exact List.prefix_append (second :: first :: rest) behind
    · exact List.prefix_append (first :: second :: rest) behind
  | [top] =>
    obtain rfl : rejected = none := settled.resolve_right (by simp)
    cases behind <;> simp [demote]
  | [] => exact List.nil_prefix

end Distinct

/-- A lookup continues another one: it has the candidates of that one, and perhaps more behind them, in
the same locale. -/
structure Lookup.Continues (longer shorter : Lookup) : Prop where
  candidates : shorter.results.candidates <+: longer.results.candidates
  locale : longer.locale = shorter.locale

namespace Request

variable {r : Request} {settings : Settings} {threshold : Float} {shorter longer : Lookup}

theorem prefix_survivors (continued : longer.Continues shorter) :
    r.survivors shorter <+: r.survivors longer := by
  have fitted : r.fitted longer = r.fitted shorter := by
    funext c
    rw [Request.fitted, Request.fitted, continued.locale]
  rw [survivors_eq_keepFirst, survivors_eq_keepFirst, fitted]
  exact Distinct.prefix_keepFirst _ (continued.candidates.map _)

theorem prefix_shown {few many : List Candidate} (continued : longer.Continues shorter)
    (showed : r.shown settings shorter = .ok few) (reshowed : r.shown settings longer = .ok many) :
    few <+: many := by
  have begins : r.word.entry ++ r.survivors shorter <+: r.word.entry ++ r.survivors longer :=
    (List.prefix_append_right_inj _).mpr (prefix_survivors continued)
  unfold shown at showed reshowed
  split at reshowed
  case isTrue annotates =>
    rw [if_pos annotates] at showed
    obtain ⟨front, annotated, prefixed⟩ := prefix_annotate begins reshowed
    obtain rfl : front = few := Except.ok.inj (annotated.symm.trans showed)
    exact prefixed
  case isFalse plain =>
    rw [if_neg plain] at showed
    obtain rfl := Except.ok.inj showed
    obtain rfl := Except.ok.inj reshowed
    exact begins

theorem prefix_gestureSuggestions (continued : longer.Continues shorter)
    (settled : r.word.rejected = none ∨ 2 ≤ shorter.results.candidates.length) :
    r.gestureSuggestions shorter <+: r.gestureSuggestions longer := by
  rw [gestureSuggestions_eq, gestureSuggestions_eq, gestured, gestured, continued.locale]
  refine List.IsPrefix.filter _ (Distinct.prefix_keepFirst _ (Distinct.prefix_demote ?_ ?_))
  · rwa [List.length_map]
  · exact continued.candidates.map _

/-- The strip of a request begins with what the strip for a shorter lookup shows: the same entries in
the same order, with their notes. For a gesture whose word was turned down, the shorter lookup has two
candidates or more. -/
theorem prefix_suggestions {strip further : Strip} (continued : longer.Continues shorter)
    (settled : r.word.isGesture = true →
      r.word.rejected = none ∨ 2 ≤ shorter.results.candidates.length)
    (answered : (r.answer settings threshold shorter).outcome = .ok strip)
    (reanswered : (r.answer settings threshold longer).outcome = .ok further) :
    strip.suggestions <+: further.suggestions := by
  cases mode : r.word.isGesture with
  | false =>
    obtain ⟨_, few, -, showed, -, rfl⟩ := (outcome_typing mode).mp answered
    obtain ⟨_, many, -, reshowed, -, rfl⟩ := (outcome_typing mode).mp reanswered
    exact prefix_shown continued showed reshowed
  | true =>
    rw [outcome_gesture mode] at answered reanswered
    obtain rfl := Except.ok.inj answered
    obtain rfl := Except.ok.inj reanswered
    exact prefix_gestureSuggestions continued (settled mode)

end Request

/-- A lookup that goes on behind the words for a slip: with another word, with the slip itself, and with
a word that was there already. -/
def Lookup.ofTehFurther : Lookup where
  results := { candidates := Lookup.ofTeh.results.candidates ++ [
    { text := "ten", score := 300000 }, { text := "teh", score := 200000 },
    { text := "tech", score := 100000 }] }

/-- The strip with notes for the longer lookup shows one more word, behind what was shown with its
notes. -/
theorem Request.teh_further :
    Lookup.ofTehFurther.Continues .ofTeh ∧
      ∃ strip further,
        (teh.answer { Settings.default with annotates := true } 0.185 .ofTeh).outcome = .ok strip ∧
        (teh.answer { Settings.default with annotates := true } 0.185 .ofTehFurther).outcome =
          .ok further ∧
        strip.suggestions <+: further.suggestions ∧ strip.words = ["Teh", "The", "Tech"] ∧
        further.words = ["Teh", "The", "Tech", "Ten"] := by
  have continued : Lookup.ofTehFurther.Continues .ofTeh := ⟨List.prefix_append _ _, rfl⟩
  have fits : ∀ c ∈ Lookup.ofTehFurther.results.candidates, c.ScoreFits := by decide +kernel
  have recordable : teh.IsRecordable := isRecordable_of_zero rfl
  obtain ⟨strip, answered⟩ := (exists_answer_iff { Settings.default with annotates := true } 0.185
    fun c known => fits c (continued.candidates.subset known)).mpr recordable
  obtain ⟨further, reanswered⟩ :=
    (exists_answer_iff { Settings.default with annotates := true } 0.185 fits).mpr recordable
  have words : (teh.answer { Settings.default with annotates := true } 0.185 .ofTeh).delivered.map
      Strip.words = [["Teh", "The", "Tech"]] := by
    decide +kernel
  have more : (teh.answer { Settings.default with annotates := true } 0.185
      .ofTehFurther).delivered.map Strip.words = [["Teh", "The", "Tech", "Ten"]] := by
    decide +kernel
  refine ⟨continued, strip, further, answered, reanswered,
    prefix_suggestions continued (fun gesture => absurd gesture (by decide)) answered reanswered, ?_, ?_⟩
  · simpa [Reply.delivered, answered] using words
  · simpa [Reply.delivered, reanswered] using more

/-- Alone, a word that was turned down is shown. It moves back when another word stands behind it. -/
example :
    Distinct.demote (some "cat") [{ text := "cat", score := 300 }] = [{ text := "cat", score := 300 }] ∧
      Distinct.demote (some "cat") [{ text := "cat", score := 300 }, { text := "car", score := 200 }] =
        [{ text := "car", score := 200 }, { text := "cat", score := 300 }] := by
  decide

end WordStrip
