import WordStrip.Proofs.Apostrophes
import WordStrip.Proofs.Provenance

/-!
# Apostrophes behind a typed word

A word may be typed with apostrophes behind it, and its suggestions take them over. The law here is that
this is all that they change: whatever a request answers for a word, the request for the word with `n`
apostrophes more answers with `n` apostrophes more behind every text, and with the same flags
(`Request.outcome_trailed`).

Each part of a request answers to the apostrophes in its own way. The decision is taken from the stem of
the word, which they are no part of (`Request.situation_trailed`). The questions to the letters of the
word do not see them, since an apostrophe is neither a digit nor a capital letter. Candidates are
compared with the whole word, but they have taken the apostrophes too, and texts differ before exactly
when they differ behind (`Distinct.keepFirst_map`).

Three things are needed. The word has no apostrophe at its end, and no candidate has one anywhere: a
candidate with one takes one less. And the word is not in upper case throughout: with an apostrophe it
would no longer be, and the candidates would keep their case. Notes are left out, since they are written
from the distance to the whole word.
-/

namespace WordStrip

/-! ## Texts and candidates -/

/-- The candidate with `n` apostrophes behind its text. -/
def Candidate.trailed (n : Nat) (c : Candidate) : Candidate := c.withText (Apostrophes.trail n c.text)

/-- The walk over renamed candidates, with the renamed texts met, leaves what it left before, renamed:
it asks only which texts are equal. -/
theorem Distinct.keepFirst_map {rename : String → String} (inj : Function.Injective rename)
    {f : Candidate → Candidate} (renames : ∀ c, (f c).text = rename c.text) (seen : List String)
    (cs : List Candidate) :
    keepFirst (seen.map rename) (cs.map f) = (keepFirst seen cs).map f := by
  induction cs generalizing seen with
  | nil => rfl
  | cons c rest ih =>
    have met : rename c.text ∈ seen.map rename ↔ c.text ∈ seen := by
      refine ⟨fun mem => ?_, List.mem_map_of_mem⟩
      obtain ⟨s, known, same⟩ := List.mem_map.mp mem
      exact inj same ▸ known
    simp only [List.map_cons, keepFirst, renames, List.contains_iff_mem, met]
    split
    · exact ih seen
    · exact congrArg (f c :: ·) (ih (c.text :: seen))

/-! ## The word -/

namespace TypedWord

variable {w : TypedWord} {n : Nat}

/-- The word with `n` apostrophes behind it. -/
def trailed (n : Nat) (w : TypedWord) : TypedWord := { w with text := Apostrophes.trail n w.text }

theorem chars_trailed (n : Nat) (w : TypedWord) :
    (w.trailed n).chars = w.chars ++ List.replicate n apostrophe :=
  Apostrophes.toList_trail n w.text

theorem text_trailed_ne (composing : w.text ≠ "") (n : Nat) : (w.trailed n).text ≠ "" := by
  intro blank
  have chars := congrArg String.toList blank
  rw [trailed, Apostrophes.toList_trail, String.toList_empty, List.append_eq_nil_iff] at chars
  exact composing (String.toList_eq_nil_iff.mp chars.1)

theorem isComposing_trailed (composing : w.text ≠ "") (n : Nat) :
    (w.trailed n).isComposing = w.isComposing := by
  rw [isComposing_iff.mpr composing, isComposing_iff.mpr (text_trailed_ne composing n)]

/-- An apostrophe is no digit. -/
theorem hasDigits_trailed (n : Nat) (w : TypedWord) : (w.trailed n).hasDigits = w.hasDigits := by
  have plain : Text.isDigit apostrophe = false := by decide +kernel
  simp [hasDigits, chars_trailed, plain]

/-- An apostrophe is no capital letter. -/
theorem capsCount_trailed (n : Nat) (w : TypedWord) : (w.trailed n).capsCount = w.capsCount := by
  have small : Text.isUpperCase apostrophe = false := by decide +kernel
  rw [capsCount, chars_trailed, List.countP_append, List.countP_replicate, small]
  rfl

theorem isMostlyCaps_trailed (n : Nat) (w : TypedWord) :
    (w.trailed n).isMostlyCaps = w.isMostlyCaps := by
  rw [isMostlyCaps, isMostlyCaps, capsCount_trailed]

theorem isCapitalized_trailed (composing : w.text ≠ "") (n : Nat) :
    (w.trailed n).isCapitalized = w.isCapitalized := by
  have letters : w.chars ≠ [] := fun none => composing (String.toList_eq_nil_iff.mp none)
  obtain ⟨first, rest, split⟩ := List.exists_cons_of_ne_nil letters
  simp only [isCapitalized, chars_trailed, capsCount_trailed, split, List.cons_append]

/-- A word that is not in upper case throughout is not so with apostrophes behind it. -/
theorem isAllUpperCase_trailed (composing : w.text ≠ "") (mixed : w.isAllUpperCase = false)
    (n : Nat) : (w.trailed n).isAllUpperCase = false := by
  cases n with
  | zero => simpa [trailed, Apostrophes.trail] using mixed
  | succ n =>
    have letters : 0 < w.chars.length :=
      List.length_pos_iff.mpr fun none => composing (String.toList_eq_nil_iff.mp none)
    have most : w.capsCount ≤ w.chars.length := List.countP_le_length
    have length : (w.trailed (n + 1)).chars.length = w.chars.length + (n + 1) := by
      rw [chars_trailed, List.length_append, List.length_replicate]
    have many : ¬ (w.trailed (n + 1)).chars.length ≤ 1 := by omega
    rw [isAllUpperCase, if_neg many, capsCount_trailed, length, beq_eq_false_iff_ne]
    omega

/-- The shape of the word with apostrophes differs in their count only. -/
theorem typingShape_trailed (composing : w.text ≠ "") (ends : Apostrophes.count w.text = 0)
    (mixed : w.isAllUpperCase = false) (n : Nat) :
    (w.trailed n).typingShape = { w.typingShape with apostrophes := n } := by
  have count : Apostrophes.count (w.trailed n).text = n := by
    rw [trailed, Apostrophes.count_trail, ends, Nat.zero_add]
  simp [typingShape, count, isCapitalized_trailed composing, isAllUpperCase_trailed composing mixed,
    mixed]

theorem entry_trailed (composing : w.text ≠ "") (n : Nat) :
    (w.trailed n).entry = w.entry.map (Candidate.trailed n) := by
  rw [entry_of_composing (text_trailed_ne composing n), entry_of_composing composing]
  rfl

end TypedWord

/-! ## Shapes -/

/-- A text without apostrophes takes as many as its shape has. -/
theorem Shape.text_trailed {shape : Shape} {s : String} (none : shape.apostrophes = 0)
    (plain : apostrophe ∉ s.toList) (n : Nat) (casing : Casing) :
    { shape with apostrophes := (n : Int) }.text casing s = Apostrophes.trail n (shape.text casing s) := by
  rw [← String.toList_inj, Apostrophes.toList_trail, toList_text, toList_text, chars, chars, none,
    Apostrophes.missing_of_not_mem plain, Apostrophes.missing_of_not_mem plain, Int.toNat_zero,
    List.replicate_zero, List.append_nil]
  rfl

/-! ## Requests -/

namespace Situation

variable {s : Situation} {listed : Option String}

/-- Whether a word may be corrected depends on whether there is a listed replacement, not on which. -/
theorem isEligible_relisted (same : listed.isSome = s.listed.isSome) :
    { s with listed }.isEligible = s.isEligible := by
  simp only [isEligible, WordStrip.isEligible, same]

theorem judge_relisted (same : listed.isSome = s.listed.isSome) (limits : SpaceLimits)
    (threshold : Float) : { s with listed }.judge limits threshold = s.judge limits threshold := by
  have gates : { s with listed }.passGates = s.passGates := by
    rw [passGates, isEligible_relisted same, passGates]
  rw [judge, gates, judge]

end Situation

/-- The strip with `n` apostrophes behind every text. -/
def Strip.trailed (n : Nat) (strip : Strip) : Strip :=
  { strip with suggestions := strip.suggestions.map (Candidate.trailed n) }

namespace Request

variable {r : Request} {settings : Settings} {threshold : Float} {lookup : Lookup}

/-- The request for the word with `n` apostrophes behind it. -/
def trailed (n : Nat) (r : Request) : Request := { r with word := r.word.trailed n }

section Trailed

variable (composing : r.word.text ≠ "") (ends : Apostrophes.count r.word.text = 0)
  (mixed : r.word.isAllUpperCase = false)
  (plain : ∀ c ∈ lookup.results.candidates, apostrophe ∉ c.text.toList)

include composing ends mixed

/-- A candidate without apostrophes takes over those behind the word. -/
theorem fitted_trailed {c : Candidate} (none : apostrophe ∉ c.text.toList) (n : Nat) :
    (r.trailed n).fitted lookup c = (r.fitted lookup c).trailed n := by
  have unquoted : r.word.typingShape.apostrophes = 0 := congrArg Nat.cast ends
  have shape : (r.trailed n).word.typingShape = { r.word.typingShape with apostrophes := n } :=
    TypedWord.typingShape_trailed composing ends mixed n
  rw [fitted, shape, Shape.own, Shape.candidate, Shape.text_trailed unquoted none]
  rfl

include plain

theorem shaped_trailed (n : Nat) :
    (r.trailed n).shaped lookup = (r.shaped lookup).map (Candidate.trailed n) := by
  rw [shaped_eq_map, shaped_eq_map, List.map_map]
  exact List.map_congr_left fun c known => fitted_trailed composing ends mixed (plain c known) n

/-- The candidates that stay take over the apostrophes, and no others stay. -/
theorem survivors_trailed (n : Nat) :
    (r.trailed n).survivors lookup = (r.survivors lookup).map (Candidate.trailed n) := by
  have entry : (r.trailed n).word.entry.map (·.text) =
      (r.word.entry.map (·.text)).map (Apostrophes.trail n) := by
    rw [trailed, TypedWord.entry_trailed composing, List.map_map, List.map_map]
    rfl
  rw [survivors_eq_keepFirst, survivors_eq_keepFirst, ← shaped_eq_map, ← shaped_eq_map,
    shaped_trailed composing ends mixed plain, entry]
  exact Distinct.keepFirst_map (Apostrophes.trail_injective n) (fun _ => rfl) _ _

theorem found_trailed (n : Nat) : (r.trailed n).Found lookup ↔ r.Found lookup := by
  have blank : (r.trailed n).word.text ≠ "" := TypedWord.text_trailed_ne composing n
  rw [Found, Found, shaped_trailed composing ends mixed plain]
  refine and_congr (iff_of_true blank composing) ?_
  constructor
  · rintro ⟨_, mem, text⟩
    obtain ⟨c, shaped, rfl⟩ := List.mem_map.mp mem
    exact ⟨c, shaped, Apostrophes.trail_injective n text⟩
  · rintro ⟨c, shaped, text⟩
    exact ⟨c.trailed n, List.mem_map_of_mem shaped, congrArg (Apostrophes.trail n) text⟩

theorem listed_trailed (n : Nat) :
    (r.trailed n).listed lookup = (r.listed lookup).map (Apostrophes.trail n) := by
  rw [listed, listed, survivors_trailed composing ends mixed plain, List.head?_map]
  cases (r.survivors lookup).head? with
  | none => rfl
  | some c =>
    have kind : (c.trailed n).isWhitelisted = c.isWhitelisted := rfl
    rw [Option.map_some, Option.filter_some, Option.filter_some, kind]
    split <;> rfl

/-- The decision is taken from the same situation, but for the text of a listed replacement. -/
theorem situation_trailed (n : Nat) :
    (r.trailed n).situation lookup =
      { r.situation lookup with listed := (r.listed lookup).map (Apostrophes.trail n) } := by
  have stem : Apostrophes.stem (r.trailed n).word.text = Apostrophes.stem r.word.text :=
    Apostrophes.stem_trail n r.word.text
  have found : ((r.trailed n).situation lookup).typedFound = (r.situation lookup).typedFound := by
    rw [Bool.eq_iff_iff, typedFound_situation, typedFound_situation,
      found_trailed composing ends mixed plain]
  have typed : (r.trailed n).word.isComposing = r.word.isComposing :=
    TypedWord.isComposing_trailed composing n
  have digits : (r.trailed n).word.hasDigits = r.word.hasDigits := TypedWord.hasDigits_trailed n r.word
  have caps : (r.trailed n).word.isMostlyCaps = r.word.isMostlyCaps :=
    TypedWord.isMostlyCaps_trailed n r.word
  simp only [situation] at found ⊢
  rw [listed_trailed composing ends mixed plain, stem, found, typed, digits, caps]
  rfl

/-- The strip of a verdict takes over the apostrophes. -/
theorem typingStrip_trailed (n : Nat) (verdict : Verdict) :
    (r.trailed n).typingStrip lookup
        ((r.trailed n).word.entry ++ (r.trailed n).survivors lookup) verdict =
      (r.typingStrip lookup (r.word.entry ++ r.survivors lookup) verdict).trailed n := by
  have entry : (r.trailed n).word.entry = r.word.entry.map (Candidate.trailed n) :=
    TypedWord.entry_trailed composing n
  have typed : (r.trailed n).word.isComposing = r.word.isComposing :=
    TypedWord.isComposing_trailed composing n
  have eligible : ((r.trailed n).situation lookup).isEligible = (r.situation lookup).isEligible := by
    rw [situation_trailed composing ends mixed plain]
    exact Situation.isEligible_relisted Option.isSome_map
  rw [typingStrip, typingStrip, Strip.trailed, survivors_trailed composing ends mixed plain, entry,
    typed, eligible, List.map_append, stripStyle, stripStyle, typed]
  rfl

/-- Apostrophes behind a word that ends in none commute with the request for it: with `n` of them, the
request has the outcome that it had without, with `n` apostrophes behind the word and behind every
suggestion. The flags and the style are the same, and so is a failure. -/
theorem outcome_trailed (typing : r.word.isGesture = false) (unannotated : settings.annotates = false)
    (n : Nat) :
    ((r.trailed n).answer settings threshold lookup).outcome =
      (r.answer settings threshold lookup).outcome.map (Strip.trailed n) := by
  have judged : ((r.trailed n).situation lookup).judge settings.spaceLimits threshold =
      (r.situation lookup).judge settings.spaceLimits threshold := by
    rw [situation_trailed composing ends mixed plain]
    exact Situation.judge_relisted Option.isSome_map _ _
  have still : (r.trailed n).word.isGesture = false := typing
  have numbered : (r.trailed n).sequence = r.sequence := rfl
  rw [outcome_unannotated typing unannotated, outcome_unannotated still unannotated, judged, numbered]
  cases (r.situation lookup).judge settings.spaceLimits threshold with
  | error e => rfl
  | ok verdict =>
    cases Number.showWhole r.sequence with
    | error e => rfl
    | ok _ => exact congrArg Except.ok (typingStrip_trailed composing ends mixed plain n verdict)

end Trailed

end Request

/-- A capitalized word with a slip. -/
def Request.teh : Request := { word := { text := "Teh" } }

/-- A lookup with the word that is meant, which it returns a second time with a capital letter. -/
def Lookup.ofTeh : Lookup where
  results := { candidates := [
    { text := "the", score := 1000000 }, { text := "tech", score := 500000 },
    { text := "The", score := 400000 }] }

/-- What the word is answered with. -/
def Strip.ofTeh : Strip where
  suggestions := [
    .ofTyped "Teh", { text := "The", score := 1000000 }, { text := "Tech", score := 500000 }]
  raw := Lookup.ofTeh.results.candidates
  typedWordValid := false
  willAutoCorrect := true
  style := .typing
  sequence := 0

/-- With two apostrophes behind it, the word is replaced as it was, by the same word with two
apostrophes. -/
theorem Request.teh_trailed :
    (Request.teh.answer .default 0.185 .ofTeh).outcome = .ok .ofTeh ∧
      Request.teh.word.isAllUpperCase = false ∧
      (∀ c ∈ Lookup.ofTeh.results.candidates, apostrophe ∉ c.text.toList) ∧
      (Request.teh.trailed 2).word.text = "Teh''" ∧
      ((Request.teh.trailed 2).answer .default 0.185 .ofTeh).outcome = .ok (Strip.ofTeh.trailed 2) ∧
      (Strip.ofTeh.trailed 2).words = ["Teh''", "The''", "Tech''"] := by
  have answered : (Request.teh.answer .default 0.185 .ofTeh).outcome = .ok .ofTeh := by
    decide +kernel
  have mixed : Request.teh.word.isAllUpperCase = false := by decide +kernel
  have plain : ∀ c ∈ Lookup.ofTeh.results.candidates, apostrophe ∉ c.text.toList := by
    decide +kernel
  have quoted : ((Request.teh.trailed 2).answer .default 0.185 .ofTeh).outcome =
      (Request.teh.answer .default 0.185 .ofTeh).outcome.map (Strip.trailed 2) :=
    Request.outcome_trailed (by decide) (by decide +kernel) mixed plain rfl rfl 2
  rw [answered] at quoted
  exact ⟨answered, mixed, plain, by decide +kernel, quoted, by decide +kernel⟩

end WordStrip
