import WordStrip.Distinct

/-!
# Laws of distinct suggestions

`keepFirst` walks over the candidates once and carries the texts that it has met. The laws here say
what the walk leaves without the walk: a candidate stays exactly when it is the first of its text
(`mem_keepFirst`), and the walk over two lists is the walk over the first and then over the second
with the texts of the first already met (`keepFirst_append`). Both are inductions on the candidates
with any texts met before, because the walk changes what it carries.

From these follow the two questions that a strip asks. Behind a typed word, the first candidate that
stays is the first one that is not the typed word (`head?_distinct`). For a gesture, the first
candidate above the floor is reached only over candidates on the floor (`head?_aboveFloor`).

What is left as a whole: no text twice (`nodup_keepFirst`), the candidates at the positions whose
text is new (`keepFirst_eq_map_isNew`), and above the floor the words whose first candidate is
(`mem_words_iff`), which is the best one where scores do not rise (`first_above_iff`).
-/

namespace WordStrip.Distinct

/-- A candidate is the first of its text. -/
def IsFirst (cs : List Candidate) (c : Candidate) : Prop :=
  cs.find? (·.text == c.text) = some c

/-- A word that some candidate has has a first candidate. -/
theorem exists_first {word : String} {cs : List Candidate} (offered : ∃ c ∈ cs, c.text = word) :
    ∃ c, cs.find? (·.text == word) = some c ∧ c.text = word := by
  have known : (cs.find? (·.text == word)).isSome := by
    obtain ⟨c, mem, text⟩ := offered
    rw [List.find?_isSome]
    exact ⟨c, mem, by simpa using text⟩
  obtain ⟨c, found⟩ := Option.isSome_iff_exists.mp known
  exact ⟨c, found, by simpa using List.find?_some found⟩

/-- A candidate is the typed word when something is typed and the candidate has its text. -/
theorem isTyped_some {word : String} {c : Candidate} :
    isTyped (some word) c = true ↔ word ≠ "" ∧ c.text = word := by
  simp [isTyped]

theorem distinct_none (cs : List Candidate) : distinct none cs = keepFirst [] cs := by
  rw [distinct, List.filter_eq_self.mpr]
  intro c _
  rfl

/-! ## The walk -/

theorem keepFirst_cons_of_mem {seen : List String} {c : Candidate} (met : c.text ∈ seen)
    (rest : List Candidate) : keepFirst seen (c :: rest) = keepFirst seen rest :=
  if_pos (List.contains_iff_mem.mpr met)

theorem keepFirst_cons_of_not_mem {seen : List String} {c : Candidate} (fresh : c.text ∉ seen)
    (rest : List Candidate) : keepFirst seen (c :: rest) = c :: keepFirst (c.text :: seen) rest :=
  if_neg (mt List.contains_iff_mem.mp fresh)

/-- The walk asks only which texts were met, not in which order. -/
theorem keepFirst_congr {seen met : List String} (same : ∀ s, s ∈ seen ↔ s ∈ met)
    (cs : List Candidate) : keepFirst seen cs = keepFirst met cs := by
  induction cs generalizing seen met with
  | nil => rfl
  | cons c rest ih =>
    have further : ∀ s, s ∈ c.text :: seen ↔ s ∈ c.text :: met := by
      intro s
      rw [List.mem_cons, List.mem_cons, same s]
    simp only [keepFirst, List.contains_iff_mem, same, ih same, ih further]

/-- A candidate stays exactly when its text was not met before and it is the first of it. -/
theorem mem_keepFirst {seen : List String} {cs : List Candidate} {c : Candidate} :
    c ∈ keepFirst seen cs ↔ c.text ∉ seen ∧ IsFirst cs c := by
  induction cs generalizing seen with
  | nil => simp [keepFirst, IsFirst]
  | cons d rest ih =>
    by_cases met : d.text ∈ seen
    -- `d` goes, and a text that was not met is not that of `d`
    · rw [keepFirst_cons_of_mem met, ih]
      refine and_congr_right fun fresh => ?_
      have differs : (d.text == c.text) = false := by
        rw [beq_eq_false_iff_ne]
        exact fun same => fresh (same ▸ met)
      rw [IsFirst, IsFirst, List.find?_cons_of_neg (by simp [differs])]
    · rw [keepFirst_cons_of_not_mem met, List.mem_cons, ih]
      by_cases same : d.text = c.text
      · have head : IsFirst (d :: rest) c ↔ c = d := by simp [IsFirst, same, eq_comm]
        rw [head, same, List.mem_cons]
        grind
      · have tail : IsFirst (d :: rest) c ↔ IsFirst rest c := by simp [IsFirst, same]
        rw [tail, List.mem_cons]
        grind

/-- Walking on over a second list, with the texts of the first met. -/
theorem keepFirst_append (seen : List String) (before after : List Candidate) :
    keepFirst seen (before ++ after) =
      keepFirst seen before ++ keepFirst (before.map (·.text) ++ seen) after := by
  induction before generalizing seen with
  | nil => rfl
  | cons c before ih =>
    by_cases met : c.text ∈ seen
    · have known : ∀ s, s ∈ before.map (·.text) ++ seen ↔ s ∈ (c :: before).map (·.text) ++ seen := by
        intro s
        simp only [List.map_cons, List.cons_append, List.mem_cons, List.mem_append]
        grind
      rw [List.cons_append, keepFirst_cons_of_mem met, ih, keepFirst_cons_of_mem met,
        keepFirst_congr known]
    · have known : ∀ s, s ∈ before.map (·.text) ++ c.text :: seen ↔
          s ∈ (c :: before).map (·.text) ++ seen := by
        intro s
        simp only [List.map_cons, List.cons_append, List.mem_cons, List.mem_append]
        grind
      rw [List.cons_append, keepFirst_cons_of_not_mem met, ih, keepFirst_cons_of_not_mem met,
        keepFirst_congr known, List.cons_append]

/-- The first candidate stays whatever follows. -/
theorem head?_keepFirst (cs : List Candidate) : (keepFirst [] cs).head? = cs.head? := by
  cases cs with
  | nil => rfl
  | cons c rest => simp [keepFirst]

/-- Behind a typed word stands the first candidate that is not the word itself. -/
theorem head?_distinct (typed : Option String) (cs : List Candidate) :
    (distinct typed cs).head? = cs.find? fun c => !isTyped typed c := by
  rw [distinct, head?_keepFirst, List.head?_filter]

/-- No text is left twice. -/
theorem nodup_keepFirst (seen : List String) (cs : List Candidate) :
    ((keepFirst seen cs).map (·.text)).Nodup := by
  induction cs generalizing seen with
  | nil => exact List.nodup_nil
  | cons c rest ih =>
    rw [keepFirst]
    split
    · exact ih seen
    · rw [List.map_cons, List.nodup_cons]
      refine ⟨fun again => ?_, ih (c.text :: seen)⟩
      obtain ⟨d, mem, same⟩ := List.mem_map.mp again
      exact (mem_keepFirst.mp mem).1 (same ▸ List.mem_cons_self)

/-- The walk leaves everything where no text was met and none stands twice. -/
theorem keepFirst_eq_self {seen : List String} {cs : List Candidate}
    (fresh : ∀ c ∈ cs, c.text ∉ seen) (once : (cs.map (·.text)).Nodup) : keepFirst seen cs = cs := by
  induction cs generalizing seen with
  | nil => rfl
  | cons c rest ih =>
    rw [List.map_cons, List.nodup_cons] at once
    have behind : ∀ d ∈ rest, d.text ∉ c.text :: seen := by
      intro d mem met
      rcases List.mem_cons.mp met with same | earlier
      · exact once.1 (same ▸ List.mem_map_of_mem mem)
      · exact fresh d (List.mem_cons_of_mem c mem) earlier
    rw [keepFirst_cons_of_not_mem (fresh c List.mem_cons_self), ih behind once.2]

/-- Leaving out a word before the walk is having met it. -/
theorem keepFirst_filter (word : String) (seen : List String) (cs : List Candidate) :
    keepFirst seen (cs.filter fun c => c.text != word) = keepFirst (word :: seen) cs := by
  induction cs generalizing seen with
  | nil => rfl
  | cons c rest ih =>
    by_cases same : c.text = word
    · rw [List.filter_cons_of_neg (by simpa using same), ih,
        keepFirst_cons_of_mem (same ▸ List.mem_cons_self)]
    · have met : c.text ∈ word :: seen ↔ c.text ∈ seen := List.mem_cons.trans (or_iff_right same)
      have swap : ∀ s, s ∈ word :: c.text :: seen ↔ s ∈ c.text :: word :: seen := by
        intro s
        simp only [List.mem_cons]
        exact or_left_comm
      rw [List.filter_cons_of_pos (by simpa using same)]
      simp only [keepFirst, List.contains_iff_mem, met, ih, keepFirst_congr swap]

/-- Behind a typed word, the walk begins with the word met. -/
theorem distinct_some (word : String) (cs : List Candidate) :
    distinct (some word) cs = keepFirst (if word = "" then [] else [word]) cs := by
  by_cases blank : word = ""
  · subst blank
    exact distinct_none cs
  · rw [if_neg blank, ← keepFirst_filter, distinct]
    congr 1
    apply List.filter_congr
    intro c _
    simp [isTyped, blank, bne]

/-! ## Positions -/

/-- The text at a position is new: it was not met, and it stands at no earlier position. -/
def IsNew (seen : List String) (cs : List Candidate) (i : Fin cs.length) : Prop :=
  cs[i].text ∉ seen ∧ ∀ j < i, cs[j].text ≠ cs[i].text

instance decidableIsNew (seen : List String) (cs : List Candidate) :
    DecidablePred (IsNew seen cs) :=
  fun _ => inferInstanceAs (Decidable (_ ∧ _))

/-- The first position is new when its text was not met. -/
theorem isNew_zero (seen : List String) (c : Candidate) (rest : List Candidate) :
    IsNew seen (c :: rest) (0 : Fin (rest.length + 1)) ↔ c.text ∉ seen := by
  refine and_iff_left_of_imp fun _ j before => ?_
  exact absurd before (Nat.not_lt_zero j)

/-- A later position is new when it is so without the first one and has another text. -/
theorem isNew_succ (seen : List String) (c : Candidate) (rest : List Candidate)
    (i : Fin rest.length) :
    IsNew seen (c :: rest) i.succ ↔ c.text ≠ rest[i].text ∧ IsNew seen rest i := by
  have earlier : (∀ j < i.succ, (c :: rest)[j].text ≠ rest[i].text) ↔
      c.text ≠ rest[i].text ∧ ∀ j < i, rest[j].text ≠ rest[i].text := by
    constructor
    · intro all
      exact ⟨all (0 : Fin (rest.length + 1)) (Fin.succ_pos i),
        fun j before => all j.succ (Fin.succ_lt_succ_iff.mpr before)⟩
    · rintro ⟨first, others⟩ j before
      cases j using Fin.cases with
      | zero => exact first
      | succ j => exact others j (Fin.succ_lt_succ_iff.mp before)
  exact (and_congr_right' earlier).trans and_left_comm

/-- The walk leaves the candidates at the positions whose text is new. -/
theorem keepFirst_eq_map_isNew (seen : List String) (cs : List Candidate) :
    keepFirst seen cs = ((List.finRange cs.length).filter (IsNew seen cs)).map cs.get := by
  induction cs generalizing seen with
  | nil => rfl
  | cons c rest ih =>
    have positions : List.finRange (c :: rest).length =
        (0 : Fin (rest.length + 1)) :: (List.finRange rest.length).map Fin.succ :=
      List.finRange_succ
    -- the walk over the rest meets more texts or not; either way it leaves the later positions that are
    -- new for it
    have behind (met : List String) (agree : ∀ i, IsNew seen (c :: rest) i.succ ↔ IsNew met rest i) :
        (((List.finRange rest.length).map Fin.succ).filter (IsNew seen (c :: rest))).map
          (c :: rest).get = keepFirst met rest := by
      rw [List.filter_map, List.map_map, ih]
      congr 1
      apply List.filter_congr
      intro i _
      exact decide_eq_decide.mpr (agree i)
    rw [positions]
    by_cases met : c.text ∈ seen
    · rw [keepFirst_cons_of_mem met, List.filter_cons_of_neg, behind seen]
      · intro i
        rw [isNew_succ]
        refine and_iff_right_of_imp fun fresh same => ?_
        exact fresh.1 (same ▸ met)
      · simpa [isNew_zero] using met
    · rw [keepFirst_cons_of_not_mem met, List.filter_cons_of_pos, List.map_cons,
        behind (c.text :: seen)]
      · rfl
      · intro i
        rw [isNew_succ]
        simp only [IsNew, List.mem_cons, not_or, ne_comm, and_assoc]
      · simpa [isNew_zero] using met

/-! ## Above the floor -/

/-- The walk up to a candidate that is the first of its text keeps that candidate. -/
theorem keepFirst_append_cons {before : List Candidate} {c : Candidate}
    (first : ∀ d ∈ before, d.text ≠ c.text) (after : List Candidate) :
    ∃ more, keepFirst [] (before ++ c :: after) = keepFirst [] before ++ c :: more := by
  have fresh : c.text ∉ before.map (·.text) ++ [] := by
    rw [List.append_nil, List.mem_map]
    rintro ⟨d, mem, same⟩
    exact first d mem same
  rw [keepFirst_append, keepFirst_cons_of_not_mem fresh]
  exact ⟨_, rfl⟩

/-- A strip without distractions begins with a candidate above the floor that is the first of its
text, and of every text before it the first candidate is on the floor. -/
theorem head?_aboveFloor {cs : List Candidate} {c : Candidate} :
    (aboveFloor (keepFirst [] cs)).head? = some c ↔
      ∃ before after, cs = before ++ c :: after ∧ (∀ d ∈ before, d.text ≠ c.text) ∧
        floorScore < c.score ∧ ∀ d, IsFirst before d → d.score ≤ floorScore := by
  rw [aboveFloor, List.head?_filter]
  constructor
  -- `c` stays, so the walk splits at it; an earlier candidate above the floor would come first
  · intro found
    obtain ⟨-, first⟩ := mem_keepFirst.mp (List.mem_of_find?_eq_some found)
    obtain ⟨-, before, after, rfl, others⟩ := List.find?_eq_some_iff_append.mp first
    have differ : ∀ d ∈ before, d.text ≠ c.text := by
      intro d mem
      simpa using others d mem
    obtain ⟨more, walk⟩ := keepFirst_append_cons differ after
    refine ⟨before, after, rfl, differ, by simpa using List.find?_some found, ?_⟩
    intro d isFirst
    have mem : d ∈ keepFirst [] before := mem_keepFirst.mpr ⟨List.not_mem_nil, isFirst⟩
    rw [walk, List.find?_append, Option.or_eq_some_iff] at found
    rcases found with earlier | ⟨none, -⟩
    · obtain ⟨-, isFirst⟩ := mem_keepFirst.mp (List.mem_of_find?_eq_some earlier)
      exact absurd rfl (differ c (List.mem_of_find?_eq_some isFirst))
    · simpa using List.find?_eq_none.mp none d mem
  · rintro ⟨before, after, rfl, differ, above, floor⟩
    obtain ⟨more, walk⟩ := keepFirst_append_cons differ after
    have low : (keepFirst [] before).find? (fun d => floorScore < d.score) = none := by
      rw [List.find?_eq_none]
      intro d mem
      have := floor d (mem_keepFirst.mp mem).2
      simpa using this
    rw [walk, List.find?_append, low, Option.none_or, List.find?_cons_of_pos (by simpa using above)]

/-! ## Words above the floor -/

/-- A word is left without repetitions and distractions when its first candidate is none. -/
theorem mem_words_iff {word : String} {cs : List Candidate} :
    word ∈ (aboveFloor (keepFirst [] cs)).map (·.text) ↔
      ∃ c, cs.find? (·.text == word) = some c ∧ floorScore < c.score := by
  simp only [aboveFloor, List.mem_map, List.mem_filter, mem_keepFirst, decide_eq_true_eq]
  constructor
  · rintro ⟨c, ⟨⟨-, first⟩, above⟩, rfl⟩
    exact ⟨c, first, above⟩
  · rintro ⟨c, found, above⟩
    obtain rfl : c.text = word := by simpa using List.find?_some found
    exact ⟨c, ⟨⟨List.not_mem_nil, found⟩, above⟩, rfl⟩

/-- Where scores do not rise, the first candidate of a word is its best: it is above a score exactly
when some candidate of the word is. -/
theorem first_above_iff {word : String} {low : Int} {cs : List Candidate}
    (falling : cs.Pairwise fun a b => b.score ≤ a.score) :
    (∃ c, cs.find? (·.text == word) = some c ∧ low < c.score) ↔
      ∃ c ∈ cs, c.text = word ∧ low < c.score := by
  constructor
  · rintro ⟨c, found, above⟩
    exact ⟨c, List.mem_of_find?_eq_some found, by simpa using List.find?_some found, above⟩
  · rintro ⟨c, mem, text, above⟩
    obtain ⟨d, found, -⟩ := exists_first ⟨c, mem, text⟩
    refine ⟨d, found, Int.lt_of_lt_of_le above ?_⟩
    obtain ⟨-, before, after, rfl, others⟩ := List.find?_eq_some_iff_append.mp found
    rcases List.mem_append.mp mem with earlier | later
    · exact absurd text (by simpa using others c earlier)
    · rcases List.mem_cons.mp later with rfl | behind
      · exact Int.le_refl _
      · exact (List.pairwise_cons.mp (List.pairwise_append.mp falling).2.1).1 c behind

end WordStrip.Distinct
