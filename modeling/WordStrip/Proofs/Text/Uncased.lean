import WordStrip.Proofs.Text.Case
import WordStrip.Text.Blank

/-!
# Characters without case

Blanks and punctuation stand in neither case table: no entry moves them, and no letter turns into one
(`isUncased`). Where all characters of a kind are such, casing keeps the kind (`IsKept`). The image of a
character is then of the kind when the character is, and a cased text is the text with each character
replaced by one or more that are alike (`Spread`). This holds of upper-casing character by character. It
also holds of lower-casing, which looks around a sigma, since both small forms of it are letters
(`spread_lowerChars`).

So a cased text is as empty as the text, has a character of the kind exactly when the text has one, and
begins and ends with one exactly when the text does.
-/

namespace WordStrip

/-! ## The members of a set -/

namespace CodeSet

/-- The code points between boundaries, in ascending order. -/
def codesOf : List Nat → List Nat
  | [] => []
  | [first] => List.range' first (UInt32.size - first)
  | first :: next :: rest => List.range' first (next - first) ++ codesOf rest

theorem mem_codesOf {n : Nat} (size : n < UInt32.size) {boundaries : List Nat}
    (inside : between boundaries n = true) : n ∈ codesOf boundaries := by
  induction boundaries using codesOf.induct with
  | case1 => simp [between] at inside
  | case2 first =>
    have reached : first ≤ n := by simpa [between] using inside
    rw [codesOf, List.mem_range'_1]
    omega
  | case3 first next rest ih =>
    have range : first ≤ n ∧ (n < next ∨ between rest n = true) := by
      simpa [between] using inside
    obtain ⟨reached, before | later⟩ := range
    · refine List.mem_append_left _ (List.mem_range'_1.mpr ?_)
      omega
    · exact List.mem_append_right _ (ih later)

end CodeSet

namespace Text

/-! ## Characters that casing leaves alone -/

/-- Whether neither case table has a code point: no entry moves it, and no entry yields it. -/
def isUncased (n : Nat) : Bool :=
  n != 0 && [upperPages, lowerPages].all fun pages => !yields pages n && imageOf pages n == [n]

variable {p : Char → Bool} {pages : List (Nat × CasePage)} {c d : Char} {cs ds : List Char}

theorem isUncased_iff {n : Nat} :
    isUncased n = true ↔ n ≠ 0 ∧
      ∀ pages ∈ [upperPages, lowerPages], yields pages n = false ∧ imageOf pages n = [n] := by
  simp only [isUncased, Bool.and_eq_true, bne_iff_ne, List.all_eq_true, Bool.not_eq_true', beq_iff_eq]

/-- What neither table has is its own image. -/
theorem image_of_isUncased (table : pages ∈ [upperPages, lowerPages])
    (uncased : isUncased c.toNat = true) : (imageOf pages c.toNat).map Char.ofNat = [c] := by
  rw [((isUncased_iff.mp uncased).2 pages table).2, List.map_singleton, Char.ofNat_toNat]

/-- It is the image of nothing else. -/
theorem eq_of_mem_image (table : pages ∈ [upperPages, lowerPages])
    (uncased : isUncased d.toNat = true) (mem : d ∈ (imageOf pages c.toNat).map Char.ofNat) : c = d :=
  have ⟨nonzero, untouched⟩ := isUncased_iff.mp uncased
  eq_of_mem_ofNat_imageOf (untouched pages table).1 nonzero mem

/-! ## Kinds of characters that casing keeps -/

/-- A kind of characters that casing keeps: neither table has one of them. -/
def IsKept (p : Char → Bool) : Prop := ∀ c, p c = true → isUncased c.toNat = true

/-- A letter is of no such kind. -/
theorem IsKept.eq_false (kept : IsKept p) (cased : isUncased c.toNat = false) : p c = false := by
  rw [Bool.eq_false_iff]
  intro holds
  rw [kept c holds] at cased
  exact nomatch cased

/-- In either table, what stands in the image of a character is of the kind when the character is. -/
theorem IsKept.of_mem_image (kept : IsKept p) (table : pages ∈ [upperPages, lowerPages])
    (mem : d ∈ (imageOf pages c.toNat).map Char.ofNat) : p d = p c := by
  cases own : p c with
  | true =>
    rw [image_of_isUncased table (kept c own), List.mem_singleton] at mem
    rw [mem, own]
  | false =>
    rw [Bool.eq_false_iff]
    intro holds
    rw [eq_of_mem_image table (kept d holds) mem, holds] at own
    exact nomatch own

/-- Blanks are kept. -/
theorem isKept_isBlank : IsKept isBlank := by
  intro c blank
  have checked : ∀ n ∈ CodeSet.codesOf blanks.boundaries, isUncased n = true := by
    decide +kernel
  exact checked c.toNat (CodeSet.mem_codesOf c.val.toNat_lt blank)

/-! ## Characters replaced by others of their kind -/

/-- A text is another one with each character replaced by one or more that are of a kind when it is. -/
inductive Spread (p : Char → Bool) : List Char → List Char → Prop where
  | nil : Spread p [] []
  | cons {c : Char} {cs image ds : List Char} (some : image ≠ []) (alike : ∀ d ∈ image, p d = p c)
      (rest : Spread p cs ds) : Spread p (c :: cs) (image ++ ds)

namespace Spread

theorem eq_nil_iff (spread : Spread p cs ds) : ds = [] ↔ cs = [] := by
  cases spread with
  | nil => rfl
  | cons some _ _ => simp [some]

theorem of_forall (spread : Spread p cs ds) (none : ∀ c ∈ cs, p c = false) :
    ∀ d ∈ ds, p d = false := by
  induction spread with
  | nil => exact none
  | cons _ alike _ ih =>
    obtain ⟨first, later⟩ := List.forall_mem_cons.mp none
    rw [List.forall_mem_append]
    exact ⟨fun d mem => (alike d mem).trans first, ih later⟩

/-- The two texts begin alike. -/
theorem head?_iff (spread : Spread p cs ds) :
    (∀ d ∈ ds.head?, p d = false) ↔ ∀ c ∈ cs.head?, p c = false := by
  cases spread with
  | nil => rfl
  | cons some alike _ =>
    obtain ⟨d, image, rfl⟩ := List.exists_cons_of_ne_nil some
    simp [alike d List.mem_cons_self]

/-- The two texts end alike. -/
theorem getLast?_iff (spread : Spread p cs ds) :
    (∀ d ∈ ds.getLast?, p d = false) ↔ ∀ c ∈ cs.getLast?, p c = false := by
  induction spread with
  | nil => rfl
  | @cons c cs image ds some alike rest ih =>
    cases cs with
    | nil =>
      have last := alike _ (List.getLast_mem some)
      rw [rest.eq_nil_iff.mpr rfl, List.append_nil, List.getLast?_eq_some_getLast some]
      simp [last]
    | cons e cs =>
      have more : ds ≠ [] := mt rest.eq_nil_iff.mp (List.cons_ne_nil e cs)
      have behind : (image ++ ds).getLast? = ds.getLast? := by
        rw [List.getLast?_append, List.getLast?_eq_some_getLast more, Option.some_or]
      rw [behind, ih, List.getLast?_cons_cons]

end Spread

theorem spread_upperChars (kept : IsKept p) (cs : List Char) : Spread p cs (upperChars cs) := by
  induction cs with
  | nil => exact .nil
  | cons c rest ih =>
    rw [upperChars_cons]
    exact .cons (upperOf_ne_nil c) (fun _ => kept.of_mem_image (by simp)) ih

/-- Neither form of a small sigma is of a kind that casing keeps, nor is the capital. -/
theorem IsKept.sigma (kept : IsKept p) : p 'Σ' = false ∧ p 'σ' = false ∧ p 'ς' = false :=
  ⟨kept.eq_false (by decide), kept.eq_false (by decide), kept.eq_false (by decide)⟩

theorem spread_lowerCharsAfter (kept : IsKept p) (cased : Bool) (cs : List Char) :
    Spread p cs (lowerCharsAfter cased cs) := by
  induction cs generalizing cased with
  | nil => exact .nil
  | cons c rest ih =>
    obtain ⟨capital, inner, final⟩ := kept.sigma
    rw [lowerCharsAfter]
    refine .cons ?some ?alike (ih _)
    case some =>
      split
      · exact List.cons_ne_nil _ _
      · exact lowerOf_ne_nil c
    case alike =>
      intro d mem
      split at mem
      case isTrue sigma =>
        rw [List.mem_singleton] at mem
        rw [mem, sigma, capital]
        split
        · exact final
        · exact inner
      case isFalse => exact kept.of_mem_image (by simp) mem

theorem spread_lowerChars (kept : IsKept p) (cs : List Char) : Spread p cs (lowerChars cs) :=
  spread_lowerCharsAfter kept false cs

end Text

end WordStrip
