import WordStrip.Engine
import WordStrip.Proofs.Distinct
import WordStrip.Proofs.Shape

/-!
# Laws of gestures

A gesture is always answered (`Request.outcome_gesture`). Its strip is what is left of the shaped
candidates when the word that the user turned down has moved behind the next one, repetitions are
gone and distractions are gone, in this order.

`Distinct.Leads` says which word such a strip begins with, without the walk: of every text before
the word, the first candidate is a distraction, and the first candidate of the word is none.

A word that was turned down is moved by one place, and only from the first to the second, before the
repetitions and the distractions go. So it can come first again although there are other words, in
three ways, `Distinct.Reoffered`; `Request.rejected_first_iff` says that there is no fourth.

A lookup gives its candidates best first. The exchange breaks that order, and the repetition that
stays is then not the best one: a word that stands twice at the top goes altogether when its second
candidate is a distraction, `Distinct.Lost`. `Request.gesture_words_iff` says that no other word with
a candidate above the floor is lost.
-/

namespace WordStrip

namespace Distinct

/-- A word leads the strip: its first candidate is above the floor, and of every text before it the
first candidate is not. -/
def Leads (word : String) (cs : List Candidate) : Prop :=
  ∃ before c after, cs = before ++ c :: after ∧ c.text = word ∧ (∀ d ∈ before, d.text ≠ word) ∧
    floorScore < c.score ∧ ∀ d, IsFirst before d → d.score ≤ floorScore

/-- What is left without repetitions and distractions begins with the word that leads. -/
theorem head?_words_iff {word : String} {cs : List Candidate} :
    ((aboveFloor (keepFirst [] cs)).map (·.text)).head? = some word ↔ Leads word cs := by
  rw [List.head?_map, Option.map_eq_some_iff]
  constructor
  · rintro ⟨c, first, rfl⟩
    obtain ⟨before, after, split, differ, above, floor⟩ := head?_aboveFloor.mp first
    exact ⟨before, c, after, split, rfl, differ, above, floor⟩
  · rintro ⟨before, c, after, split, rfl, differ, above, floor⟩
    exact ⟨c, head?_aboveFloor.mpr ⟨before, after, split, differ, above, floor⟩, rfl⟩

/-- A word at the top leads when it is above the floor. -/
theorem leads_cons {word : String} {top : Candidate} (first : top.text = word)
    (rest : List Candidate) : Leads word (top :: rest) ↔ floorScore < top.score := by
  constructor
  · rintro ⟨before, c, after, split, -, differ, above, -⟩
    cases before with
    | nil =>
      obtain ⟨rfl, -⟩ := List.cons.inj split
      exact above
    | cons d before =>
      obtain ⟨rfl, -⟩ := List.cons.inj split
      exact absurd first (differ top List.mem_cons_self)
  · intro above
    refine ⟨[], top, rest, rfl, first, ?_, above, ?_⟩
    · intro d mem
      cases mem
    · intro d isFirst
      cases isFirst

/-- A word in the second place, behind another one, leads when it is above the floor and the other
one is not. -/
theorem leads_cons_cons {word : String} {top next : Candidate} (other : top.text ≠ word)
    (second : next.text = word) (rest : List Candidate) :
    Leads word (top :: next :: rest) ↔ top.score ≤ floorScore ∧ floorScore < next.score := by
  constructor
  · rintro ⟨before, c, after, split, text, differ, above, floor⟩
    match before with
    | [] =>
      obtain ⟨rfl, -⟩ := List.cons.inj split
      exact absurd text other
    | [d] =>
      obtain ⟨rfl, tail⟩ := List.cons.inj split
      obtain ⟨rfl, -⟩ := List.cons.inj tail
      exact ⟨floor top (by simp [IsFirst]), above⟩
    | d :: e :: before =>
      obtain ⟨rfl, tail⟩ := List.cons.inj split
      obtain ⟨rfl, -⟩ := List.cons.inj tail
      exact absurd second (differ next (by simp))
  · rintro ⟨low, above⟩
    refine ⟨[top], next, rest, rfl, second, ?_, above, ?_⟩
    · intro d mem
      rw [List.mem_singleton.mp mem]
      exact other
    · intro d isFirst
      rw [List.mem_singleton.mp (List.mem_of_find?_eq_some isFirst)]
      exact low

/-- A word that was turned down comes first again: it stands twice at the top, so that it is moved
behind itself; or it is moved behind a distraction, which goes; or it is not at the top, so that it
is not moved, and leads once the distractions before it are gone. -/
inductive Reoffered (word : String) : List Candidate → Prop
  | twice {top next : Candidate} {rest : List Candidate} (first : top.text = word)
      (second : next.text = word) (above : floorScore < next.score) :
      Reoffered word (top :: next :: rest)
  | behindDistraction {top next : Candidate} {rest : List Candidate} (first : top.text = word)
      (other : next.text ≠ word) (low : next.score ≤ floorScore) (above : floorScore < top.score) :
      Reoffered word (top :: next :: rest)
  | notMoved {top : Candidate} {rest : List Candidate} (other : top.text ≠ word)
      (leads : Leads word (top :: rest)) : Reoffered word (top :: rest)

theorem demote_of_ne {word : String} {top : Candidate} (other : top.text ≠ word)
    (rest : List Candidate) : demote (some word) (top :: rest) = top :: rest := by
  cases rest with
  | nil => rfl
  | cons next rest => rw [demote, if_neg fun h => other (Option.some.inj h).symm]

theorem demote_of_eq {word : String} {top : Candidate} (first : top.text = word)
    (next : Candidate) (rest : List Candidate) :
    demote (some word) (top :: next :: rest) = next :: top :: rest := by
  rw [demote, if_pos (congrArg some first.symm)]

/-- The exchange keeps the candidates. -/
theorem mem_demote {rejected : Option String} {cs : List Candidate} {c : Candidate} :
    c ∈ demote rejected cs ↔ c ∈ cs := by
  unfold demote
  split
  case h_1 first second rest =>
    split
    · simp only [List.mem_cons]
      exact or_left_comm
    · rfl
  case h_2 => rfl

/-- When there are other words, the word that was turned down leads behind its exchange exactly when
it is offered again in one of the three ways. -/
theorem leads_demote_iff {word : String} {cs : List Candidate}
    (another : ∃ c ∈ aboveFloor (keepFirst [] (demote (some word) cs)), c.text ≠ word) :
    Leads word (demote (some word) cs) ↔ Reoffered word cs := by
  match cs with
  | [] =>
    obtain ⟨c, mem, -⟩ := another
    exact nomatch mem
  | top :: rest =>
    by_cases first : top.text = word
    -- the exchange takes place, unless the word stands alone
    · match rest with
      | [] =>
        obtain ⟨c, mem, differs⟩ := another
        obtain rfl : c = top := List.mem_singleton.mp (List.mem_filter.mp mem).1
        exact absurd first differs
      | next :: rest =>
        rw [demote_of_eq first]
        by_cases second : next.text = word
        · rw [leads_cons second]
          refine ⟨fun above => .twice first second above, fun again => ?_⟩
          cases again with
          | twice _ _ above => exact above
          | behindDistraction _ other => exact absurd second other
          | notMoved other => exact absurd first other
        · rw [leads_cons_cons second first]
          refine ⟨fun ⟨low, above⟩ => .behindDistraction first second low above, fun again => ?_⟩
          cases again with
          | twice _ same => exact absurd same second
          | behindDistraction _ _ low above => exact ⟨low, above⟩
          | notMoved other => exact absurd first other
    · rw [demote_of_ne first]
      refine ⟨.notMoved first, fun again => ?_⟩
      cases again with
      | twice same => exact absurd same first
      | behindDistraction same => exact absurd same first
      | notMoved _ leads => exact leads

/-! ## Words that an exchange leaves -/

/-- The exchange does not change which candidate of a word comes first, unless both of the
exchanged ones have the word. -/
theorem find?_demote {rejected : Option String} {word : String} {top next : Candidate}
    {rest : List Candidate} (apart : ¬ (top.text = word ∧ next.text = word)) :
    (demote rejected (top :: next :: rest)).find? (·.text == word) =
      (top :: next :: rest).find? (·.text == word) := by
  rw [demote]
  split
  · by_cases first : top.text = word
    · have second : next.text ≠ word := fun second => apart ⟨first, second⟩
      simp [first, second]
    · simp [List.find?_cons, first]
  · rfl

/-- A word that was turned down is lost: it stands twice at the top, so that it is moved behind
itself, and the candidate that moves up is a distraction. -/
inductive Lost (word : String) : List Candidate → Prop
  | behindItself {top next : Candidate} {rest : List Candidate} (first : top.text = word)
      (second : next.text = word) (low : next.score ≤ floorScore) : Lost word (top :: next :: rest)

/-- Where scores do not rise, the words that are left behind an exchange are those of the candidates
above the floor, but for a word that is turned down and lost. -/
theorem mem_words_demote_iff {rejected : Option String} {word : String} {cs : List Candidate}
    (falling : cs.Pairwise fun a b => b.score ≤ a.score) :
    word ∈ (aboveFloor (keepFirst [] (demote rejected cs))).map (·.text) ↔
      (∃ c ∈ cs, c.text = word ∧ floorScore < c.score) ∧ ¬ (rejected = some word ∧ Lost word cs) := by
  rw [mem_words_iff, ← first_above_iff falling]
  match cs with
  | [] => simp [demote]
  | [top] =>
    have kept : ¬ Lost word [top] := nofun
    simp [demote, kept]
  | top :: next :: rest =>
    by_cases twice : top.text = word ∧ next.text = word
    -- both have the word: after an exchange the second one stays, and it is not the better one
    · obtain ⟨first, second⟩ := twice
      have lost : Lost word (top :: next :: rest) ↔ next.score ≤ floorScore :=
        ⟨fun | .behindItself _ _ low => low, .behindItself first second⟩
      have best : next.score ≤ top.score := (List.pairwise_cons.mp falling).1 next List.mem_cons_self
      by_cases moved : rejected = some word
      · subst moved
        rw [demote_of_eq first, lost]
        simp only [List.find?_cons, first, second, beq_self_eq_true, Option.some.injEq,
          exists_eq_left', true_and]
        omega
      · rw [demote, if_neg (by rwa [first])]
        simp [moved]
    -- otherwise each word keeps its first candidate
    · have kept : ¬ Lost word (top :: next :: rest) := by
        rintro ⟨first, second⟩
        exact twice ⟨first, second⟩
      rw [find?_demote twice]
      exact (and_iff_left fun ⟨_, lost⟩ => kept lost).symm

end Distinct

namespace Request

variable {r : Request} {settings : Settings} {threshold : Float} {lookup : Lookup}

/-- A gesture is answered with its strip. -/
theorem outcome_gesture (gesture : r.word.isGesture = true) :
    (r.answer settings threshold lookup).outcome = .ok (r.gestureStrip lookup) := by
  rw [answer, if_pos gesture, gestureReply]

/-- The candidates in the shape of a gesture, each cased by the locale of its dictionary or else by
that of the lookup. -/
def gestured (r : Request) (lookup : Lookup) : List Candidate :=
  lookup.results.candidates.map (r.word.gestureShape.own (some lookup.locale))

theorem gestureSuggestions_eq (r : Request) (lookup : Lookup) :
    r.gestureSuggestions lookup =
      Distinct.aboveFloor (Distinct.keepFirst [] (Distinct.demote r.word.rejected (r.gestured lookup))) := by
  rw [gestureSuggestions, Shape.candidates_eq_map, Distinct.distinct_none, gestured]

/-- A gesture with a word that was turned down is answered, and if its strip has another word, it
begins with the one that was turned down exactly when the shaped candidates offer it again in one of
the three ways. -/
theorem rejected_first_iff {word : String} (gesture : r.word.isGesture = true)
    (rejected : r.word.rejected = some word) :
    ∃ strip, (r.answer settings threshold lookup).outcome = .ok strip ∧
      ((∃ c ∈ strip.suggestions, c.text ≠ word) →
        (strip.words.head? = some word ↔ Distinct.Reoffered word (r.gestured lookup))) := by
  refine ⟨_, outcome_gesture gesture, ?_⟩
  rw [Strip.words, gestureStrip, gestureSuggestions_eq, rejected]
  intro another
  exact Distinct.head?_words_iff.trans (Distinct.leads_demote_iff another)

end Request

/-- A gesture that began with shift, after the word that it gave was turned down. -/
def Request.retried : Request where
  word := { caps := .shifted, isGesture := true, rejected := some "Cat" }
  style := .tailBatch

/-- A lookup with a word and a name that shift makes the same. -/
def Lookup.ofRetried : Lookup where
  results := { candidates := [
    { text := "cat", score := 300 }, { text := "Cat", score := 200 }, { text := "car", score := 100 }] }

/-- The word that was turned down has moved behind itself and comes first again. -/
theorem Request.rejected_cat_first :
    (Request.retried.answer .default 0.185 .ofRetried).delivered.map Strip.words = [["Cat", "Car"]] ∧
      Distinct.Reoffered "Cat" (Request.retried.gestured .ofRetried) := by
  have delivered : (Request.retried.answer .default 0.185 .ofRetried).delivered.map Strip.words =
      [["Cat", "Car"]] := by
    decide +kernel
  refine ⟨delivered, ?_⟩
  obtain ⟨strip, answered, law⟩ :=
    @Request.rejected_first_iff .retried .default 0.185 .ofRetried "Cat" rfl rfl
  have words : strip.words = ["Cat", "Car"] := by
    simpa [Reply.delivered, answered] using delivered
  have mem : "Car" ∈ strip.words := by simp [words]
  obtain ⟨c, shown, text⟩ := List.mem_map.mp mem
  have another : ∃ c ∈ strip.suggestions, c.text ≠ "Cat" := ⟨c, shown, by simp [text]⟩
  exact (law another).mp (by rw [words]; rfl)

namespace Request

variable {r : Request} {settings : Settings} {threshold : Float} {lookup : Lookup}

/-- A shape keeps the order of scores. -/
theorem falling_gestured (falling : lookup.results.candidates.Pairwise fun a b => b.score ≤ a.score) :
    (r.gestured lookup).Pairwise fun a b => b.score ≤ a.score :=
  List.pairwise_map.mpr falling

/-- A gesture is answered, and when the scores of the lookup do not rise, its strip has exactly the
words of shaped candidates above the floor, but for a word that was turned down and is lost. -/
theorem gesture_words_iff (gesture : r.word.isGesture = true)
    (falling : lookup.results.candidates.Pairwise fun a b => b.score ≤ a.score) :
    ∃ strip, (r.answer settings threshold lookup).outcome = .ok strip ∧
      ∀ word, word ∈ strip.words ↔
        (∃ c ∈ r.gestured lookup, c.text = word ∧ Distinct.floorScore < c.score) ∧
          ¬ (r.word.rejected = some word ∧ Distinct.Lost word (r.gestured lookup)) := by
  refine ⟨_, outcome_gesture gesture, fun word => ?_⟩
  rw [Strip.words, gestureStrip, gestureSuggestions_eq]
  exact Distinct.mem_words_demote_iff (falling_gestured falling)

end Request

/-- A lookup with a word and the same as a name, which is a distraction. -/
def Lookup.ofDistraction : Lookup where
  results := { candidates := [{ text := "cat", score := 300 }, { text := "Cat", score := -2000000000 }] }

/-- The word that was turned down is a candidate far above the floor, and the strip is empty. -/
theorem Request.gesture_cat_lost :
    (Request.retried.answer .default 0.185 .ofDistraction).delivered.map Strip.words = [[]] ∧
      (∃ c ∈ Request.retried.gestured .ofDistraction, c.text = "Cat" ∧ Distinct.floorScore < c.score) ∧
      Distinct.Lost "Cat" (Request.retried.gestured .ofDistraction) := by
  have delivered : (Request.retried.answer .default 0.185 .ofDistraction).delivered.map Strip.words =
      [[]] := by
    decide +kernel
  have above : ∃ c ∈ Request.retried.gestured .ofDistraction,
      c.text = "Cat" ∧ Distinct.floorScore < c.score := by
    decide +kernel
  refine ⟨delivered, above, ?_⟩
  have falling : Lookup.ofDistraction.results.candidates.Pairwise fun a b => b.score ≤ a.score := by
    decide
  obtain ⟨strip, answered, words⟩ :=
    @Request.gesture_words_iff .retried .default 0.185 .ofDistraction rfl falling
  have empty : strip.words = [] := by
    simpa [Reply.delivered, answered] using delivered
  have absent : "Cat" ∉ strip.words := by simp [empty]
  rw [words] at absent
  exact Classical.byContradiction fun kept => absent ⟨above, fun lost => kept lost.2⟩

end WordStrip
