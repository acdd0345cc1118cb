import WordStrip.Text.Case

/-!
# Laws of the case tables

A table is read in one place, `imageOf`, and `imageOf_cases` says all that an image can be: the code
point itself, an expansion that the table lists, or the code point moved by a run that covers it.
What holds of every image is then a check over the entries of the table, which are few, and not over
the code points, which are many.

There are three such checks. `yields` is whether some entry has a code point in its image: a code point
that no entry yields stands in no image but its own (`eq_of_mem_imageOf`), so no letter turns into it.
`CasePage.moves` is whether a page has an entry for a code point of a run: a letter of a run that its
page does not move is its own image (`imageOf_of_covers`). The runs of capital letters are such runs,
so a capital letter is its own capital form (`upperOf_of_isUpperCase`). `isSettled` is whether a table
sends no code point further than one step: whatever stands in an image is its own image
(`imageOf_of_mem_imageOf`), so a capital form is its own capital form (`upperOf_of_mem_upperOf`) and a
small form its own small form. So what is in upper case stays as it is (`upper_upper`). The table of small
letters is not all there is to lower-casing, which looks around a capital sigma; but no small form is one,
so what is in lower case stays as well (`lower_lower`).
-/

namespace WordStrip.Text

/-- The page that a table holds for a code point is one of its pages. -/
theorem mem_of_page? {α : Type} {pages : List (Nat × α)} {n : Nat} {page : α}
    (found : page? pages n = some page) : (n / 256, page) ∈ pages := by
  obtain ⟨front, back, split, -⟩ := List.lookup_eq_some_iff.mp found
  simp [split]

/-- An image is the code point itself, an expansion of the table, or the code point moved by a run
that covers it. -/
theorem imageOf_cases (pages : List (Nat × CasePage)) (n : Nat) :
    imageOf pages n = [n] ∨
      (∃ page ∈ pages, (n, imageOf pages n) ∈ page.2.expansions) ∨
      ∃ page ∈ pages, ∃ run ∈ page.2.runs,
        run.covers n = true ∧ imageOf pages n = [(n + run.offset).toNat] := by
  cases found : page? pages n with
  | none => exact .inl (by simp only [imageOf, found])
  | some page =>
    have mem := mem_of_page? found
    cases listed : page.expansions.lookup n with
    | some image =>
      obtain ⟨before, after, entries, -⟩ := List.lookup_eq_some_iff.mp listed
      have expanded : imageOf pages n = image := by simp only [imageOf, found, listed]
      exact .inr (.inl ⟨_, mem, by simp [expanded, entries]⟩)
    | none =>
      cases covering : page.runs.find? fun run => run.covers n with
      | none => exact .inl (by simp only [imageOf, found, listed, covering])
      | some run =>
        have covers := List.find?_some covering
        have moved : imageOf pages n = [(n + run.offset).toNat] := by
          simp only [imageOf, found, listed, covering]
        exact .inr (.inr ⟨_, mem, run, List.mem_of_find?_eq_some covering, covers, moved⟩)

/-- Whether some entry of a table has a code point in its image. -/
def yields (pages : List (Nat × CasePage)) (n : Nat) : Bool :=
  pages.any fun page =>
    (page.2.expansions.any fun entry => entry.2.contains n) ||
      page.2.runs.any fun run => run.covers ((n : Int) - run.offset).toNat

/-- A code point other than zero that no entry yields stands in no image but its own. Zero is left
out because a run that moved a code point below zero would end there. -/
theorem eq_of_mem_imageOf {pages : List (Nat × CasePage)} {m n : Nat}
    (unlisted : yields pages m = false) (positive : m ≠ 0) (mem : m ∈ imageOf pages n) : n = m := by
  have absent : ∀ page ∈ pages, (∀ entry ∈ page.2.expansions, m ∉ entry.2) ∧
      ∀ run ∈ page.2.runs, run.covers ((m : Int) - run.offset).toNat = false := by
    simpa [yields] using unlisted
  rcases imageOf_cases pages n with
    same | ⟨page, hpage, listed⟩ | ⟨page, hpage, run, hrun, covers, moved⟩
  · rw [same, List.mem_singleton] at mem
    exact mem.symm
  · exact absurd mem ((absent page hpage).1 _ listed)
  · rw [moved, List.mem_singleton] at mem
    have origin : ((m : Int) - run.offset).toNat = n := by omega
    have := (absent page hpage).2 run hrun
    rw [origin, covers] at this
    exact absurd this (by simp)

theorem toNat_ofNat {n : Nat} (valid : n.isValidChar) : (Char.ofNat n).toNat = n := by
  rw [Char.ofNat, dif_pos valid]
  rfl

/-- A character that is not the zero character comes from its own code point only. -/
theorem eq_toNat_of_ofNat {n : Nat} {c : Char} (h : Char.ofNat n = c) (nonzero : c.toNat ≠ 0) :
    n = c.toNat := by
  by_cases valid : n.isValidChar
  · rw [← h, toNat_ofNat valid]
  -- what is no code point becomes the zero character
  · rw [Char.ofNat, dif_neg valid] at h
    subst h
    exact absurd rfl nonzero

/-- A character that no entry of a table yields comes from itself only. -/
theorem eq_of_mem_ofNat_imageOf {pages : List (Nat × CasePage)} {c d : Char}
    (unlisted : yields pages d.toNat = false) (nonzero : d.toNat ≠ 0)
    (mem : d ∈ (imageOf pages c.toNat).map Char.ofNat) : c = d := by
  obtain ⟨n, listed, code⟩ := List.mem_map.mp mem
  have own : n = d.toNat := eq_toNat_of_ofNat code nonzero
  have same : c.toNat = d.toNat := eq_of_mem_imageOf unlisted nonzero (own ▸ listed)
  exact Char.toNat_inj.mp same

/-! ## Capital letters -/

/-- Whether two runs share a code point: only where their ranges overlap can they. -/
def CodeRun.meets (r s : CodeRun) : Bool :=
  let first := max r.first s.first
  (List.range' first (min r.last s.last + 1 - first)).any fun n => r.covers n && s.covers n

theorem CodeRun.meets_of_covers {r s : CodeRun} {n : Nat} (left : r.covers n = true)
    (right : s.covers n = true) : r.meets s = true := by
  have bounds (t : CodeRun) (h : t.covers n = true) : t.first ≤ n ∧ n ≤ t.last := by
    simp only [covers, Bool.and_eq_true, decide_eq_true_eq] at h
    exact h.1
  have := bounds r left
  have := bounds s right
  rw [meets, List.any_eq_true]
  refine ⟨n, ?_, by simp [left, right]⟩
  rw [List.mem_range'_1]
  omega

/-- Whether a page has an image for a code point of a run. -/
def CasePage.moves (page : CasePage) (run : CodeRun) : Bool :=
  (page.runs.any fun other => run.meets other.toCodeRun) ||
    page.expansions.any fun entry => run.covers entry.1

/-- A code point of a run that its page does not move is its own image. -/
theorem imageOf_of_covers {pages : List (Nat × CasePage)} {run : CodeRun} {n : Nat}
    (unmoved : ∀ page, page? pages n = some page → page.moves run = false)
    (covers : run.covers n = true) : imageOf pages n = [n] := by
  cases found : page? pages n with
  | none => simp only [imageOf, found]
  | some page =>
    have still := unmoved page found
    simp only [CasePage.moves, Bool.or_eq_false_iff, List.any_eq_false] at still
    have unlisted : page.expansions.lookup n = none := by
      rw [List.lookup_eq_none_iff]
      intro entry mem
      rw [bne_iff_ne]
      rintro rfl
      exact still.2 entry mem covers
    have uncovered : page.runs.find? (fun other => other.covers n) = none := by
      rw [List.find?_eq_none]
      exact fun other mem moved => still.1 other mem (CodeRun.meets_of_covers covers moved)
    simp only [imageOf, found, unlisted, uncovered]

/-- No page moves a capital letter. -/
theorem capitals_unmoved : ∀ page ∈ upperCasePages, ∀ run ∈ page.2,
    ((upperPages.lookup page.1).any fun small => small.moves run) = false := by
  decide +kernel

/-- A capital letter is its own capital form. -/
theorem upperOf_of_isUpperCase {c : Char} (capital : isUpperCase c = true) : upperOf c = [c] := by
  rw [isUpperCase, List.any_eq_true] at capital
  obtain ⟨run, mem, covers⟩ := capital
  cases found : page? upperCasePages c.toNat with
  | none => simp [found] at mem
  | some runs =>
    rw [found, Option.getD_some] at mem
    have unmoved := capitals_unmoved _ (mem_of_page? found) run mem
    have own : imageOf upperPages c.toNat = [c.toNat] := by
      refine imageOf_of_covers (fun page small => ?_) covers
      rw [page?] at small
      simpa [small] using unmoved
    simp [upperOf, own]

/-! ## Capital forms of capital forms -/

/-- The code points that the letters of a run map to, as a run. -/
def CaseRun.images (run : CaseRun) : CodeRun where
  first := (run.first + run.offset).toNat
  last := (run.last + run.offset).toNat
  step := run.step

/-- Whether a table has no image for the code points of a run: no page that the run reaches into moves
it. -/
def leaves (pages : List (Nat × CasePage)) (run : CodeRun) : Bool :=
  pages.all fun page => page.1 < run.first / 256 || run.last / 256 < page.1 || !page.2.moves run

/-- Whether every image of a table is its own image: an expansion is not empty and holds such code
points only, and the table leaves what a run maps to. -/
def isSettled (pages : List (Nat × CasePage)) : Bool :=
  pages.all fun page =>
    (page.2.expansions.all fun entry =>
      !entry.2.isEmpty && entry.2.all fun m => imageOf pages m == [m]) &&
    page.2.runs.all fun run => 0 ≤ run.first + run.offset && leaves pages run.images

theorem covers_images {run : CaseRun} {n : Nat} (above : 0 ≤ run.first + run.offset)
    (covers : run.covers n = true) : run.images.covers (n + run.offset).toNat = true := by
  simp only [CodeRun.covers, Bool.and_eq_true, decide_eq_true_eq, beq_iff_eq] at covers
  obtain ⟨⟨lower, upper⟩, steps⟩ := covers
  have first : (run.first + run.offset).toNat ≤ (n + run.offset).toNat := by omega
  have last : (n + run.offset).toNat ≤ (run.last + run.offset).toNat := by omega
  have distance : (n + run.offset).toNat - (run.first + run.offset).toNat = n - run.first := by omega
  simp [CaseRun.images, CodeRun.covers, first, last, distance, steps]

theorem imageOf_of_leaves {pages : List (Nat × CasePage)} {run : CodeRun} {n : Nat}
    (left : leaves pages run = true) (covers : run.covers n = true) : imageOf pages n = [n] := by
  refine imageOf_of_covers (fun page found => ?_) covers
  have page_unmoved := List.all_eq_true.mp left _ (mem_of_page? found)
  simp only [CodeRun.covers, Bool.and_eq_true, decide_eq_true_eq] at covers
  obtain ⟨⟨lower, upper⟩, -⟩ := covers
  have below : ¬ n / 256 < run.first / 256 := Nat.not_lt.mpr (Nat.div_le_div_right lower)
  have above : ¬ run.last / 256 < n / 256 := Nat.not_lt.mpr (Nat.div_le_div_right upper)
  simpa [below, above] using page_unmoved

/-- In a settled table, what stands in an image is its own image. -/
theorem imageOf_of_mem_imageOf {pages : List (Nat × CasePage)} {m n : Nat}
    (settled : isSettled pages = true) (mem : m ∈ imageOf pages n) : imageOf pages m = [m] := by
  rcases imageOf_cases pages n with
    same | ⟨page, hpage, listed⟩ | ⟨page, hpage, run, hrun, covers, moved⟩
  · rw [same, List.mem_singleton] at mem
    rw [mem, same]
  all_goals
    have entries := List.all_eq_true.mp settled page hpage
    rw [Bool.and_eq_true, List.all_eq_true, List.all_eq_true] at entries
  · have image := entries.1 _ listed
    rw [Bool.and_eq_true, List.all_eq_true] at image
    exact beq_iff_eq.mp (image.2 m mem)
  · have ⟨above, left⟩ := Bool.and_eq_true_iff.mp (entries.2 run hrun)
    rw [moved, List.mem_singleton] at mem
    rw [mem]
    exact imageOf_of_leaves left (covers_images (of_decide_eq_true above) covers)

/-- In a settled table no image is empty. -/
theorem imageOf_ne_nil {pages : List (Nat × CasePage)} (settled : isSettled pages = true) (n : Nat) :
    imageOf pages n ≠ [] := by
  rcases imageOf_cases pages n with same | ⟨page, hpage, listed⟩ | ⟨_, _, _, _, _, moved⟩
  · simp [same]
  · have entries := List.all_eq_true.mp settled page hpage
    rw [Bool.and_eq_true, List.all_eq_true] at entries
    have image := entries.1 _ listed
    rw [Bool.and_eq_true] at image
    simpa using image.1
  · simp [moved]

/-- In a settled table without the zero character, a character of an image is its own image. -/
theorem ofNat_imageOf_of_mem {pages : List (Nat × CasePage)} {c d : Char}
    (settled : isSettled pages = true) (zero : imageOf pages 0 = [0])
    (mem : d ∈ (imageOf pages c.toNat).map Char.ofNat) :
    (imageOf pages d.toNat).map Char.ofNat = [d] := by
  obtain ⟨n, listed, code⟩ := List.mem_map.mp mem
  have own : imageOf pages d.toNat = [d.toNat] := by
    by_cases null : d.toNat = 0
    -- a code point that is none becomes the zero character
    · rw [null, zero]
    · rw [eq_toNat_of_ofNat code null] at listed
      exact imageOf_of_mem_imageOf settled listed
  simp [own]

theorem upperPages_settled : isSettled upperPages = true := by
  decide +kernel

/-- A capital form is its own capital form. -/
theorem upperOf_of_mem_upperOf {c d : Char} (mem : d ∈ upperOf c) : upperOf d = [d] :=
  ofNat_imageOf_of_mem upperPages_settled (by decide) mem

theorem upperOf_ne_nil (c : Char) : upperOf c ≠ [] := by
  rw [upperOf, Ne, List.map_eq_nil_iff]
  exact imageOf_ne_nil upperPages_settled c.toNat

theorem upperOf_of_mem_upperChars {cs : List Char} {d : Char} (mem : d ∈ upperChars cs) :
    upperOf d = [d] := by
  obtain ⟨c, -, image⟩ := List.mem_flatMap.mp mem
  exact upperOf_of_mem_upperOf image

/-- Characters are left by upper-casing exactly when each is its own capital form. -/
theorem upperChars_eq_self_iff {cs : List Char} :
    upperChars cs = cs ↔ ∀ c ∈ cs, upperOf c = [c] := by
  refine ⟨fun same c mem => upperOf_of_mem_upperChars (same.symm ▸ mem), fun own => ?_⟩
  induction cs with
  | nil => rfl
  | cons c rest ih =>
    obtain ⟨first, later⟩ := List.forall_mem_cons.mp own
    rw [upperChars_cons, first, ih later, List.singleton_append]

/-- A text in upper case is left by upper-casing. -/
theorem upper_upper (s : String) : upper (upper s) = upper s := by
  have chars : upperChars (upperChars s.toList) = upperChars s.toList :=
    upperChars_eq_self_iff.mpr fun _ => upperOf_of_mem_upperChars
  rw [← String.toList_inj, toList_upper, toList_upper, chars]

/-! ## Small forms of small forms -/

theorem lowerPages_settled : isSettled lowerPages = true := by
  decide +kernel

/-- A small form is its own small form. -/
theorem lowerOf_of_mem_lowerOf {c d : Char} (mem : d ∈ lowerOf c) : lowerOf d = [d] :=
  ofNat_imageOf_of_mem lowerPages_settled (by decide) mem

theorem lowerOf_ne_nil (c : Char) : lowerOf c ≠ [] := by
  rw [lowerOf, Ne, List.map_eq_nil_iff]
  exact imageOf_ne_nil lowerPages_settled c.toNat

/-- Whether lower-casing leaves a character wherever it stands. -/
def IsSmall (c : Char) : Prop := c ≠ 'Σ' ∧ lowerOf c = [c]

/-- What lower-casing gives has small forms only: where it looks around, it gives one of the two small
sigmas, and no other letter turns into a capital one. -/
theorem isSmall_of_mem_lowerCharsAfter {cased : Bool} {cs : List Char} {d : Char}
    (mem : d ∈ lowerCharsAfter cased cs) : IsSmall d := by
  induction cs generalizing cased with
  | nil => simp [lowerCharsAfter] at mem
  | cons c rest ih =>
    rw [lowerCharsAfter, List.mem_append] at mem
    obtain image | later := mem
    · by_cases sigma : c = 'Σ'
      · rw [if_pos sigma, List.mem_singleton] at image
        have final : IsSmall 'ς' := ⟨by decide, by decide⟩
        have inner : IsSmall 'σ' := ⟨by decide, by decide⟩
        rw [image]
        split
        · exact final
        · exact inner
      · rw [if_neg sigma] at image
        refine ⟨?_, lowerOf_of_mem_lowerOf image⟩
        rintro rfl
        exact sigma (eq_of_mem_ofNat_imageOf (by decide) (by decide) image)
    · exact ih later

/-- Characters that are small forms are left by lower-casing. -/
theorem lowerCharsAfter_of_isSmall {cs : List Char} (small : ∀ c ∈ cs, IsSmall c) (cased : Bool) :
    lowerCharsAfter cased cs = cs := by
  induction cs generalizing cased with
  | nil => rfl
  | cons c rest ih =>
    obtain ⟨⟨plain, own⟩, later⟩ := List.forall_mem_cons.mp small
    rw [lowerCharsAfter, if_neg plain, own, ih later, List.singleton_append]

/-- Characters are left by lower-casing exactly when each is a small form. -/
theorem lowerChars_eq_self_iff {cs : List Char} : lowerChars cs = cs ↔ ∀ c ∈ cs, IsSmall c :=
  ⟨fun same _ mem => isSmall_of_mem_lowerCharsAfter (same.symm ▸ mem),
    fun small => lowerCharsAfter_of_isSmall small false⟩

/-- A text in lower case is left by lower-casing. -/
theorem lower_lower (s : String) : lower (lower s) = lower s := by
  have chars : lowerChars (lowerChars s.toList) = lowerChars s.toList :=
    lowerChars_eq_self_iff.mpr fun _ => isSmall_of_mem_lowerCharsAfter
  rw [← String.toList_inj, toList_lower, toList_lower, chars]

end WordStrip.Text
