import Mathlib.Data.List.Chain
import WordStrip.Proofs.Text.Case

/-!
# Letters that change with case

Lower-casing looks around a capital sigma, and what it asks there of the letters in front is answered by
two sets of code points, which know nothing of the case tables. The laws here say how the sets and the
tables agree. A letter that a table moves by one of its runs is a letter with case, and casing looks past
none of them but the iota below a vowel (`counts_of_moved_upper`, `counts_of_moved_lower`). And where the
one table moves a letter up, the other one moves the capital, so both count alike (`upperOf_cases`).

The runs move some 1400 letters each and the sets have some hundred boundaries, all in ascending order. So
a set is checked against a table in one walk over both lists, which leaves behind the boundaries that it
has passed (`CodeSet.coversAll`). To ask the set about every letter would be to walk its boundaries as
often.
-/

namespace WordStrip

/-! ## Walking a set -/

namespace CodeSet

/-- The boundaries above a code point, and whether the code point is a member, when `inside` says
whether those below the first boundary are. -/
def skip (n : Nat) : (inside : Bool) → (boundaries : List Nat) → Bool × List Nat
  | inside, [] => (inside, [])
  | inside, b :: rest => if b.ble n then skip n (!inside) rest else (inside, b :: rest)

/-- Whether all code points of an ascending list are members. -/
def coversAll : (inside : Bool) → (boundaries codes : List Nat) → Bool
  | _, _, [] => true
  | inside, boundaries, n :: codes =>
    let (member, rest) := skip n inside boundaries
    member && coversAll member rest codes

/-- Skipping boundaries changes no membership from there on. -/
theorem between_skip {n m : Nat} (le : n ≤ m) (inside : Bool) (boundaries : List Nat) :
    ((skip n inside boundaries).1 ^^ between (skip n inside boundaries).2 m) =
      (inside ^^ between boundaries m) := by
  induction boundaries generalizing inside with
  | nil => rfl
  | cons b rest ih =>
    rw [skip]
    split
    case isTrue passed =>
      have below : b ≤ m := Nat.le_trans (Nat.le_of_ble_eq_true passed) le
      rw [ih, between, decide_eq_true below, Bool.true_and, Bool.xor_not, Bool.not_xor]
    case isFalse => rfl

/-- The boundaries that are left lie above the code point. -/
theorem between_skip_self (n : Nat) (inside : Bool) (boundaries : List Nat) :
    between (skip n inside boundaries).2 n = false := by
  induction boundaries generalizing inside with
  | nil => rfl
  | cons b rest ih =>
    rw [skip]
    split
    case isTrue => exact ih (!inside)
    case isFalse ahead =>
      exact between_of_lt rest (Nat.lt_of_not_le fun le => ahead (Nat.ble_eq_true_of_le le))

theorem skip_eq (n : Nat) (inside : Bool) (boundaries : List Nat) :
    (skip n inside boundaries).1 = (inside ^^ between boundaries n) := by
  rw [← between_skip (Nat.le_refl n), between_skip_self, Bool.xor_false]

/-- What the walk accepts are members; where it starts inside, they are no members of the set. -/
theorem of_coversAll {inside : Bool} {boundaries codes : List Nat}
    (ascending : codes.Pairwise (· ≤ ·)) (covered : coversAll inside boundaries codes = true) :
    ∀ n ∈ codes, (inside ^^ between boundaries n) = true := by
  induction codes generalizing inside boundaries with
  | nil => exact nofun
  | cons n codes ih =>
    obtain ⟨first, later⟩ := List.pairwise_cons.mp ascending
    rw [coversAll, Bool.and_eq_true] at covered
    obtain ⟨member, others⟩ := covered
    rw [List.forall_mem_cons]
    refine ⟨skip_eq n inside boundaries ▸ member, fun m mem => ?_⟩
    rw [← between_skip (first m mem)]
    exact ih later others m mem

end CodeSet

namespace Text

/-! ## Runs as lists of code points -/

/-- The code points of a run, in ascending order. -/
def CodeRun.codes (run : CodeRun) : List Nat :=
  List.range' run.first ((run.last - run.first) / run.step + 1) run.step

theorem CodeRun.mem_codes {run : CodeRun} {n : Nat} (member : run.covers n = true) :
    n ∈ run.codes := by
  simp only [CodeRun.covers, Bool.and_eq_true, decide_eq_true_eq, beq_iff_eq] at member
  obtain ⟨⟨lower, upper⟩, steps⟩ := member
  have whole : run.step * ((n - run.first) / run.step) = n - run.first :=
    Nat.mul_div_cancel' (Nat.dvd_of_mod_eq_zero steps)
  have near : (n - run.first) / run.step ≤ (run.last - run.first) / run.step :=
    Nat.div_le_div_right (Nat.sub_le_sub_right upper _)
  rw [codes, List.mem_range']
  exact ⟨(n - run.first) / run.step, Nat.lt_succ_of_le near, by omega⟩

/-- Whether every code point of a run is one of another run. -/
def CodeRun.isWithin (r s : CodeRun) : Bool :=
  s.first ≤ r.first && r.last ≤ s.last && (r.first - s.first) % s.step == 0 &&
    (r.first == r.last || r.step % s.step == 0)

theorem CodeRun.covers_of_isWithin {r s : CodeRun} {n : Nat} (within : r.isWithin s = true)
    (member : r.covers n = true) : s.covers n = true := by
  simp only [CodeRun.isWithin, CodeRun.covers, Bool.and_eq_true, Bool.or_eq_true,
    decide_eq_true_eq, beq_iff_eq] at *
  obtain ⟨⟨⟨first, last⟩, aligned⟩, steps⟩ := within
  obtain ⟨⟨lower, upper⟩, stepped⟩ := member
  have near : s.step ∣ n - r.first := by
    rcases steps with single | multiple
    · have none : n - r.first = 0 := by omega
      rw [none]
      exact Nat.dvd_zero _
    · exact Nat.dvd_trans (Nat.dvd_of_mod_eq_zero multiple) (Nat.dvd_of_mod_eq_zero stepped)
  have parts : n - s.first = (n - r.first) + (r.first - s.first) := by omega
  refine ⟨⟨Nat.le_trans first lower, Nat.le_trans upper last⟩, ?_⟩
  rw [parts]
  exact Nat.mod_eq_zero_of_dvd (Nat.dvd_add near (Nat.dvd_of_mod_eq_zero aligned))

/-- The code points that a table moves by its runs. -/
def moved (pages : List (Nat × CasePage)) : List Nat :=
  pages.flatMap fun page => page.2.runs.flatMap fun run => run.codes

theorem mem_moved {pages : List (Nat × CasePage)} {page : Nat × CasePage} {run : CaseRun} {n : Nat}
    (hpage : page ∈ pages) (hrun : run ∈ page.2.runs) (member : run.covers n = true) :
    n ∈ moved pages :=
  List.mem_flatMap_of_mem hpage (List.mem_flatMap_of_mem hrun (CodeRun.mem_codes member))

/-! ## Letters that count -/

/-- A letter counts for the letters around it: it has case, and casing does not look past it. -/
def Counts (c : Char) : Prop := isCased c = true ∧ isCaseIgnorable c = false

theorem counts_of_mem {codes : List Nat} {c : Char} (ascending : codes.IsChain (· ≤ ·))
    (cased : CodeSet.coversAll false casedLetters.boundaries codes = true)
    (seen : CodeSet.coversAll true caseIgnorable.boundaries codes = true)
    (mem : c.toNat ∈ codes) : Counts c := by
  have sorted := List.isChain_iff_pairwise.mp ascending
  have inside := CodeSet.of_coversAll sorted cased _ mem
  have outside := CodeSet.of_coversAll sorted seen _ mem
  rw [Bool.false_xor] at inside
  rw [Bool.true_xor, Bool.not_eq_true'] at outside
  exact ⟨inside, outside⟩

/-- A letter with a capital counts, but for the iota below a vowel, which casing looks past as a mark. -/
theorem counts_of_moved_upper {c : Char} (mem : c.toNat ∈ moved upperPages) (letter : c ≠ '\u0345') :
    Counts c := by
  have other : c.toNat ≠ 0x345 := fun same => letter (Char.toNat_inj.mp same)
  have ascending : ((moved upperPages).filter (· != 0x345)).IsChain (· ≤ ·) := by decide +kernel
  exact counts_of_mem ascending (by decide +kernel) (by decide +kernel)
    (List.mem_filter.mpr ⟨mem, bne_iff_ne.mpr other⟩)

/-- A code point with a small form is a letter that counts. -/
theorem counts_of_moved_lower {n : Nat} (mem : n ∈ moved lowerPages) : Counts (Char.ofNat n) := by
  have valid : ∀ n ∈ moved lowerPages, n.isValidChar := by decide +kernel
  have code : (Char.ofNat n).toNat ∈ moved lowerPages := by rwa [toNat_ofNat (valid n mem)]
  exact counts_of_mem (by decide +kernel) (by decide +kernel) (by decide +kernel) code

/-! ## Letters and their capitals -/

/-- Where a run moves letters up, a run of the other table moves the capitals. -/
theorem capitals_moved : ∀ page ∈ upperPages, ∀ run ∈ page.2.runs,
    ((page? lowerPages run.images.first).any fun small =>
      small.runs.any fun other => run.images.isWithin other.toCodeRun) = true := by
  decide +kernel

/-- No expansion has a capital sigma, and lower-casing leads from none of them back to its letter. -/
theorem expansions_unlike : ∀ page ∈ upperPages, ∀ entry ∈ page.2.expansions,
    'Σ' ∉ entry.2.map Char.ofNat ∧
      lowerChars (entry.2.map Char.ofNat) ≠ lowerChars [Char.ofNat entry.1] := by
  decide +kernel

/-- A character is its own capital form, or it is expanded, and is not what lower-casing makes of its
expansion, or it is a letter with one capital, which counts. -/
theorem upperOf_cases (c : Char) :
    upperOf c = [c] ∨
      ('Σ' ∉ upperOf c ∧ lowerChars (upperOf c) ≠ lowerChars [c]) ∨
      ∃ d, upperOf c = [d] ∧ c.toNat ∈ moved upperPages ∧ Counts d := by
  rcases imageOf_cases upperPages c.toNat with
    same | ⟨page, hpage, listed⟩ | ⟨page, hpage, run, hrun, member, image⟩
  · exact .inl (by simp [upperOf, same])
  · have unlike := expansions_unlike page hpage _ listed
    rw [Char.ofNat_toNat] at unlike
    exact .inr (.inl unlike)
  · refine .inr (.inr ⟨Char.ofNat (c.toNat + run.offset).toNat, ?_, mem_moved hpage hrun member, ?_⟩)
    · rw [upperOf, image, List.map_singleton]
    have settled := List.all_eq_true.mp upperPages_settled page hpage
    rw [Bool.and_eq_true, List.all_eq_true, List.all_eq_true] at settled
    have above := (Bool.and_eq_true_iff.mp (settled.2 run hrun)).1
    obtain ⟨small, found, within⟩ := (Option.any_eq_true _ _).mp (capitals_moved page hpage run hrun)
    obtain ⟨other, hother, inner⟩ := List.any_eq_true.mp within
    have back : (c.toNat + run.offset).toNat ∈ moved lowerPages :=
      mem_moved (mem_of_page? found) hother
        (CodeRun.covers_of_isWithin inner (covers_images (of_decide_eq_true above) member))
    exact counts_of_moved_lower back

end Text

end WordStrip
