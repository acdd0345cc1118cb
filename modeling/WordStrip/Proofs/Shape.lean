import WordStrip.Proofs.Text.Uncased
import WordStrip.Shape

/-!
# Laws of shapes

A shape changes the text of a candidate and nothing else, and a list of candidates is shaped one by
one: the short cut for a shape that changes nothing leaves what the walk over all candidates would
leave (`Shape.candidates_eq_map`).

A character that casing neither makes nor removes is `Caseless`; the space is one. A shaped text has
a space exactly when the text has one, whatever the shape and the locale (`Shape.space_mem_chars`),
and its length is that of the cased text and of the apostrophes that are missing.

Capital letters stay what they are in every locale (`Casing.upperOf_of_isUpperCase`), and so do
capital forms (`Casing.upperOf_of_mem_upperOf`). So a cased text is in that case already
(`Shape.casedChars_casedChars`), with apostrophes behind it or without
(`Shape.casedChars_append_apostrophes`). What a shape adds when it is put on again are apostrophes alone:
all but one of its own, since a shaped text has one or has taken one (`Shape.chars_chars`). A shape with
at most one leaves what it has shaped (`Shape.own_own`).
-/

namespace WordStrip

/-! ## Characters without case -/

namespace Casing

/-- The dotted capital is all that a casing changes about the capital form of a character. -/
theorem upperOf_eq (casing : Casing) (c : Char) :
    c = 'i' ∧ casing.upperOf c = ['İ'] ∨ casing.upperOf c = Text.upperOf c := by
  rw [upperOf]
  split
  case isTrue dotted =>
    rw [Bool.and_eq_true, beq_iff_eq] at dotted
    exact .inl ⟨dotted.2, rfl⟩
  case isFalse => exact .inr rfl

theorem upperOf_of_ne {c : Char} (letter : c ≠ 'i') (casing : Casing) :
    casing.upperOf c = Text.upperOf c :=
  (casing.upperOf_eq c).resolve_left fun dotted => letter dotted.1

/-- A character that casing neither makes nor removes. -/
def Caseless (c : Char) : Prop := ∀ (casing : Casing) (d : Char), c ∈ casing.upperOf d ↔ d = c

/-- A character that no table has is caseless. -/
theorem caseless_of_isUncased {c : Char} (uncased : Text.isUncased c.toNat = true) : Caseless c := by
  have cased {e : Char} (letter : Text.isUncased e.toNat = false) : c ≠ e := by
    rintro rfl
    rw [uncased] at letter
    exact nomatch letter
  intro casing d
  rcases casing.upperOf_eq d with ⟨rfl, dottedI⟩ | capital
  · rw [dottedI, List.mem_singleton]
    have small : c ≠ 'i' := cased (by decide +kernel)
    have dotted : c ≠ 'İ' := cased (by decide +kernel)
    exact ⟨fun h => absurd h dotted, fun h => absurd h.symm small⟩
  · rw [capital]
    constructor
    · exact Text.eq_of_mem_image (by simp) uncased
    · rintro rfl
      rw [Text.upperOf, Text.image_of_isUncased (by simp) uncased]
      exact List.mem_singleton_self d

/-- The space is caseless. -/
theorem space_caseless : Caseless ' ' := caseless_of_isUncased (by decide +kernel)

/-- The apostrophe is caseless. -/
theorem apostrophe_caseless : Caseless apostrophe := caseless_of_isUncased (by decide +kernel)

theorem Caseless.mem_upperChars {c : Char} (caseless : Caseless c) (casing : Casing)
    (cs : List Char) : c ∈ casing.upperChars cs ↔ c ∈ cs := by
  simp [upperChars, caseless casing]

theorem Caseless.mem_capitalizeChars {c : Char} (caseless : Caseless c) (casing : Casing)
    (cs : List Char) : c ∈ casing.capitalizeChars cs ↔ c ∈ cs := by
  cases cs with
  | nil => rfl
  | cons d rest => rw [capitalizeChars, List.mem_append, caseless casing, List.mem_cons, eq_comm]

/-! ## Capital letters -/

/-- A capital letter is its own capital form in every casing, since the small `i` is none. -/
theorem upperOf_of_isUpperCase {c : Char} (capital : Text.isUpperCase c = true) (casing : Casing) :
    casing.upperOf c = [c] := by
  have large : c ≠ 'i' := by
    rintro rfl
    exact absurd capital (by decide +kernel)
  rw [upperOf_of_ne large, Text.upperOf_of_isUpperCase capital]

/-- Characters that are their own capital forms are in upper case. -/
theorem upperChars_of_own {casing : Casing} {cs : List Char}
    (own : ∀ c ∈ cs, casing.upperOf c = [c]) : casing.upperChars cs = cs := by
  induction cs with
  | nil => rfl
  | cons c rest ih =>
    have others := ih fun d mem => own d (List.mem_cons_of_mem c mem)
    rw [upperChars, List.flatMap_cons, own c List.mem_cons_self, List.singleton_append]
    exact congrArg (c :: ·) others

theorem upperChars_of_capitals {cs : List Char} (capitals : ∀ c ∈ cs, Text.isUpperCase c = true)
    (casing : Casing) : casing.upperChars cs = cs :=
  upperChars_of_own fun c mem => upperOf_of_isUpperCase (capitals c mem) casing

theorem capitalizeChars_of_capital {c : Char} (capital : Text.isUpperCase c = true)
    (rest : List Char) (casing : Casing) : casing.capitalizeChars (c :: rest) = c :: rest := by
  rw [capitalizeChars, upperOf_of_isUpperCase capital, List.singleton_append]

/-! ## Capital forms -/

/-- A capital form is its own capital form in every casing: the small `i` is no capital form, and the
capital with a dot has no other. -/
theorem upperOf_of_mem_upperOf {casing : Casing} {c d : Char} (mem : d ∈ casing.upperOf c) :
    casing.upperOf d = [d] := by
  rcases casing.upperOf_eq c with ⟨-, dotted⟩ | capital
  · rw [dotted, List.mem_singleton] at mem
    subst mem
    rw [upperOf_of_ne (by decide)]
    decide +kernel
  · rw [capital] at mem
    have own := Text.upperOf_of_mem_upperOf mem
    have large : d ≠ 'i' := by
      rintro rfl
      exact absurd own (by decide +kernel)
    rw [upperOf_of_ne large, own]

theorem upperOf_ne_nil (casing : Casing) (c : Char) : casing.upperOf c ≠ [] := by
  rcases casing.upperOf_eq c with ⟨-, dotted⟩ | capital
  · rw [dotted]
    exact List.cons_ne_nil _ _
  · rw [capital]
    exact Text.upperOf_ne_nil c

/-- The apostrophe is its own capital form. -/
theorem upperOf_apostrophe (casing : Casing) : casing.upperOf apostrophe = [apostrophe] := by
  rw [upperOf_of_ne (by decide)]
  decide +kernel

/-- What is in upper case stays. -/
theorem upperChars_upperChars (casing : Casing) (cs : List Char) :
    casing.upperChars (casing.upperChars cs) = casing.upperChars cs := by
  refine upperChars_of_own fun d mem => ?_
  obtain ⟨c, -, image⟩ := List.mem_flatMap.mp mem
  exact upperOf_of_mem_upperOf image

/-- What is capitalized stays: only the first character of the capital form is cased again, and there is
one. -/
theorem capitalizeChars_capitalizeChars (casing : Casing) (cs : List Char) :
    casing.capitalizeChars (casing.capitalizeChars cs) = casing.capitalizeChars cs := by
  cases cs with
  | nil => rfl
  | cons c rest =>
    obtain ⟨d, image, capital⟩ := List.exists_cons_of_ne_nil (upperOf_ne_nil casing c)
    have own : casing.upperOf d = [d] :=
      upperOf_of_mem_upperOf (capital ▸ List.mem_cons_self)
    rw [capitalizeChars, capital, List.cons_append, capitalizeChars, own, List.singleton_append]

/-! ## Apostrophes behind a text -/

/-- Apostrophes behind a text are left by upper-casing. -/
theorem upperChars_append_apostrophes (casing : Casing) (cs : List Char) (n : Nat) :
    casing.upperChars (cs ++ List.replicate n apostrophe) =
      casing.upperChars cs ++ List.replicate n apostrophe := by
  have own : casing.upperChars (List.replicate n apostrophe) = List.replicate n apostrophe := by
    refine upperChars_of_own fun d mem => ?_
    rw [List.eq_of_mem_replicate mem]
    exact upperOf_apostrophe casing
  rw [upperChars, List.flatMap_append]
  exact congrArg (casing.upperChars cs ++ ·) own

/-- Apostrophes behind a text are left by capitalizing, also where there is nothing in front of them. -/
theorem capitalizeChars_append_apostrophes (casing : Casing) (cs : List Char) (n : Nat) :
    casing.capitalizeChars (cs ++ List.replicate n apostrophe) =
      casing.capitalizeChars cs ++ List.replicate n apostrophe := by
  cases cs with
  | cons c rest => rw [List.cons_append, capitalizeChars, capitalizeChars, List.append_assoc]
  | nil =>
    cases n with
    | zero => rfl
    | succ n =>
      show casing.upperOf apostrophe ++ List.replicate n apostrophe = List.replicate (n + 1) apostrophe
      rw [upperOf_apostrophe, List.singleton_append, List.replicate_succ]

end Casing

namespace Shape

/-! ## Texts -/

theorem toList_text (shape : Shape) (casing : Casing) (s : String) :
    (shape.text casing s).toList = shape.chars casing s.toList := by
  simp [text]

/-- A shape puts a text in upper case, or capitalizes it, or leaves it. -/
theorem casedChars_cases (shape : Shape) (casing : Casing) :
    shape.casedChars casing = casing.upperChars ∨ shape.casedChars casing = casing.capitalizeChars ∨
      shape.casedChars casing = id := by
  cases upper : shape.allUpper with
  | true => exact .inl (funext fun cs => if_pos upper)
  | false =>
    have mixed (cs : List Char) : shape.casedChars casing cs =
        if shape.capitalized then casing.capitalizeChars cs else cs := if_neg (by simp [upper])
    cases capitalized : shape.capitalized with
    | true => exact .inr (.inl (funext fun cs => (mixed cs).trans (if_pos capitalized)))
    | false => exact .inr (.inr (funext fun cs => (mixed cs).trans (if_neg (by simp [capitalized]))))

/-- Casing keeps the characters without case. -/
theorem mem_casedChars {c : Char} (caseless : Casing.Caseless c) (shape : Shape) (casing : Casing)
    (cs : List Char) : c ∈ shape.casedChars casing cs ↔ c ∈ cs := by
  rcases shape.casedChars_cases casing with cased | cased | cased
  · rw [cased, caseless.mem_upperChars]
  · rw [cased, caseless.mem_capitalizeChars]
  · rw [cased, id]

/-- A shape neither makes nor removes spaces. -/
theorem space_mem_chars (shape : Shape) (casing : Casing) (cs : List Char) :
    ' ' ∈ shape.chars casing cs ↔ ' ' ∈ cs := by
  rw [chars, List.mem_append, mem_casedChars Casing.space_caseless, List.mem_replicate]
  exact or_iff_left fun ⟨_, differs⟩ => absurd differs (by decide)

/-- A shaped text is as long as the cased text and the apostrophes that are missing. -/
theorem length_chars (shape : Shape) (casing : Casing) (cs : List Char) :
    (shape.chars casing cs).length =
      (shape.casedChars casing cs).length + Apostrophes.missing cs shape.apostrophes := by
  rw [chars, List.length_append, List.length_replicate]

/-- What is in the case of a shape stays. -/
theorem casedChars_casedChars (shape : Shape) (casing : Casing) (cs : List Char) :
    shape.casedChars casing (shape.casedChars casing cs) = shape.casedChars casing cs := by
  rcases shape.casedChars_cases casing with cased | cased | cased
  · rw [cased, casing.upperChars_upperChars]
  · rw [cased, casing.capitalizeChars_capitalizeChars]
  · rw [cased, id, id]

/-- Apostrophes behind a text are left by casing. -/
theorem casedChars_append_apostrophes (shape : Shape) (casing : Casing) (cs : List Char) (n : Nat) :
    shape.casedChars casing (cs ++ List.replicate n apostrophe) =
      shape.casedChars casing cs ++ List.replicate n apostrophe := by
  rcases shape.casedChars_cases casing with cased | cased | cased
  · rw [cased, casing.upperChars_append_apostrophes]
  · rw [cased, casing.capitalizeChars_append_apostrophes]
  · rw [cased, id, id]

/-- A text in a shape lacks all but one of the apostrophes: it had one, or it has taken one. -/
theorem missing_chars (shape : Shape) (casing : Casing) (cs : List Char) :
    Apostrophes.missing (shape.chars casing cs) shape.apostrophes = (shape.apostrophes - 1).toNat := by
  have has : apostrophe ∈ shape.chars casing cs ↔
      apostrophe ∈ cs ∨ Apostrophes.missing cs shape.apostrophes ≠ 0 := by
    rw [chars, List.mem_append, mem_casedChars Casing.apostrophe_caseless, List.mem_replicate,
      and_iff_left rfl]
  by_cases quoted : apostrophe ∈ shape.chars casing cs
  · simp only [Apostrophes.missing, List.contains_iff_mem, quoted, if_true]
  -- nothing was taken, so the shape has no apostrophes
  · obtain ⟨absent, untaken⟩ := not_or.mp (mt has.mpr quoted)
    rw [Decidable.not_not, Apostrophes.missing_of_not_mem absent] at untaken
    rw [Apostrophes.missing_of_not_mem quoted]
    omega

/-- A shape that is put on again leaves the case and adds all but one of the apostrophes once more. -/
theorem chars_chars (shape : Shape) (casing : Casing) (cs : List Char) :
    shape.chars casing (shape.chars casing cs) =
      shape.chars casing cs ++ List.replicate (shape.apostrophes - 1).toNat apostrophe := by
  have cased : shape.casedChars casing (shape.chars casing cs) = shape.chars casing cs := by
    rw [chars, casedChars_append_apostrophes, casedChars_casedChars]
  rw [chars, cased, missing_chars]

/-- A shape with at most one apostrophe, and no other, leaves a text that has it. -/
theorem chars_chars_eq_iff (shape : Shape) (casing : Casing) (cs : List Char) :
    shape.chars casing (shape.chars casing cs) = shape.chars casing cs ↔ shape.apostrophes ≤ 1 := by
  rw [chars_chars, List.append_right_eq_self, List.replicate_eq_nil_iff]
  omega

/-! ## Candidates -/

/-- A shape that changes nothing leaves every text as it is. -/
theorem chars_of_isPlain {shape : Shape} (plain : shape.isPlain = true) (casing : Casing)
    (cs : List Char) : shape.chars casing cs = cs := by
  simp only [isPlain, Bool.and_eq_true, Bool.not_eq_true', beq_iff_eq] at plain
  obtain ⟨⟨upper, capitalized⟩, none⟩ := plain
  have missing : Apostrophes.missing cs 0 = 0 := by
    unfold Apostrophes.missing
    split <;> rfl
  simp [chars, casedChars, upper, capitalized, none, missing]

/-- A shape that changes nothing leaves every candidate as it is. -/
theorem own_of_isPlain {shape : Shape} (plain : shape.isPlain = true) (default : Option Locale)
    (c : Candidate) : shape.own default c = c := by
  simp [own, candidate, text, chars_of_isPlain plain, Candidate.withText]

/-- Candidates are shaped one by one; the short cut for a shape that changes nothing agrees. -/
theorem candidates_eq_map (shape : Shape) (default : Option Locale) (cs : List Candidate) :
    shape.candidates default cs = cs.map (shape.own default) := by
  unfold candidates
  split
  · rename_i plain
    rw [List.map_congr_left fun c _ => own_of_isPlain plain default c, List.map_id']
  · rfl

/-- A shape with at most one apostrophe leaves a candidate that has it. -/
theorem own_own {shape : Shape} (few : shape.apostrophes ≤ 1) (default : Option Locale)
    (c : Candidate) : shape.own default (shape.own default c) = shape.own default c := by
  have twice (casing : Casing) (s : String) : shape.text casing (shape.text casing s) = shape.text casing s := by
    rw [text, toList_text, (shape.chars_chars_eq_iff casing s.toList).mpr few, text]
  exact congrArg c.withText (twice _ _)

@[simp] theorem kind_own (shape : Shape) (default : Option Locale) (c : Candidate) :
    (shape.own default c).kind = c.kind := rfl

@[simp] theorem source_own (shape : Shape) (default : Option Locale) (c : Candidate) :
    (shape.own default c).source = c.source := rfl

end Shape

end WordStrip
