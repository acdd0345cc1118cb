import WordStrip.Proofs.Apostrophes
import WordStrip.Proofs.Shape

/-!
# The repair of apostrophes

A candidate takes over the apostrophes behind the typed word. What this does to a text is arithmetic on
their count, whatever the casing: the stem is cased, and the apostrophes that are missing come to those
that the text has (`Shape.stem_count_candidate`). One that stands inside the text counts as one that it
has. Casing is no part of the arithmetic since it leaves an apostrophe where it stands and turns no other
character into one, also where it makes a text longer.

To put a shape on twice is to put it on once exactly when it has at most one apostrophe
(`Shape.candidate_candidate_eq_iff`). Only the apostrophes are at issue, since a text stays in its case.
-/

namespace WordStrip

namespace Casing

/-- A stem in upper case is a stem: its last letter turns into no apostrophe, and not into nothing. -/
theorem isStem_upperChars {cs : List Char} (ends : Apostrophes.IsStem cs) (casing : Casing) :
    Apostrophes.IsStem (casing.upperChars cs) := by
  rcases List.eq_nil_or_concat cs with rfl | ⟨front, last, whole⟩
  · exact ends
  · rw [List.concat_eq_append] at whole
    subst whole
    have differs : last ≠ apostrophe := by
      rintro rfl
      exact ends List.getLast?_concat
    have parts : casing.upperChars (front ++ [last]) =
        casing.upperChars front ++ casing.upperOf last := by
      simp [upperChars]
    rw [parts, Apostrophes.isStem_append (casing.upperOf_ne_nil last)]
    apply Apostrophes.isStem_of_not_mem
    rwa [apostrophe_caseless casing last]

theorem isStem_capitalizeChars {cs : List Char} (ends : Apostrophes.IsStem cs) (casing : Casing) :
    Apostrophes.IsStem (casing.capitalizeChars cs) := by
  match cs with
  | [] => exact ends
  | [c] =>
    have capital : casing.capitalizeChars [c] = casing.upperChars [c] := by
      simp [capitalizeChars, upperChars]
    rw [capital]
    exact isStem_upperChars ends casing
  -- the last letter stands behind the first one and stays
  | c :: d :: rest =>
    rw [capitalizeChars, Apostrophes.isStem_append (List.cons_ne_nil d rest)]
    rwa [← List.singleton_append, Apostrophes.isStem_append (List.cons_ne_nil d rest)] at ends

end Casing

namespace Shape

/-- The text in the case of a shape. -/
def cased (shape : Shape) (casing : Casing) (s : String) : String :=
  String.ofList (shape.casedChars casing s.toList)

/-- A stem in the case of a shape is a stem. -/
theorem isStem_casedChars {cs : List Char} (ends : Apostrophes.IsStem cs) (shape : Shape)
    (casing : Casing) : Apostrophes.IsStem (shape.casedChars casing cs) := by
  rcases shape.casedChars_cases casing with cased | cased | cased
  · rw [cased]
    exact Casing.isStem_upperChars ends casing
  · rw [cased]
    exact Casing.isStem_capitalizeChars ends casing
  · rw [cased]
    exact ends

/-- A shaped text is the cased stem with the apostrophes that the text has and those that it lacks. -/
theorem splits_text (shape : Shape) (casing : Casing) (s : String) :
    Apostrophes.Splits (shape.text casing s) (shape.cased casing (Apostrophes.stem s))
      (Apostrophes.count s + Apostrophes.missing s.toList shape.apostrophes) := by
  have whole := Apostrophes.stemChars_append s.toList
  constructor
  · rw [← String.toList_inj, Apostrophes.toList_trail, toList_text, cased, String.toList_ofList,
      Apostrophes.stem, String.toList_ofList, Apostrophes.count, ← List.replicate_append_replicate,
      ← List.append_assoc, ← casedChars_append_apostrophes, whole, chars]
  · rw [cased, String.toList_ofList, Apostrophes.stem, String.toList_ofList]
    exact isStem_casedChars (Apostrophes.isStem_stemChars s.toList) shape casing

/-- A text splits in one way into a stem and the apostrophes behind it. In a shape, a candidate has the
cased stem, and behind it the apostrophes that it had and those of the shape, less one if it had an
apostrophe anywhere. -/
theorem stem_count_candidate (shape : Shape) (locale : Option Locale) (c : Candidate) :
    (∀ text word n, Apostrophes.Splits text word n ↔
        Apostrophes.stem text = word ∧ Apostrophes.count text = n) ∧
      Apostrophes.stem (shape.candidate locale c).text =
        shape.cased (.ofLocale locale) (Apostrophes.stem c.text) ∧
      (Apostrophes.count (shape.candidate locale c).text : Int) =
        Apostrophes.count c.text +
          max (shape.apostrophes - if apostrophe ∈ c.text.toList then 1 else 0) 0 := by
  obtain ⟨stem, count⟩ := Apostrophes.splits_iff.mp (shape.splits_text (.ofLocale locale) c.text)
  refine ⟨fun _ _ _ => Apostrophes.splits_iff, stem, ?_⟩
  have missing : (Apostrophes.missing c.text.toList shape.apostrophes : Int) =
      max (shape.apostrophes - if apostrophe ∈ c.text.toList then 1 else 0) 0 := by
    simp only [Apostrophes.missing, List.contains_iff_mem]
    exact Int.ofNat_toNat _
  rw [candidate, Candidate.text_withText, count, Int.natCast_add, missing]

/-- To put a shape on twice, with the same locale, is to put it on once exactly when it has at most one
apostrophe. -/
theorem candidate_candidate_eq_iff (shape : Shape) (locale : Option Locale) (c : Candidate) :
    shape.candidate locale (shape.candidate locale c) = shape.candidate locale c ↔
      shape.apostrophes ≤ 1 := by
  rw [← shape.chars_chars_eq_iff (.ofLocale locale) c.text.toList]
  have chars : (shape.candidate locale c).text.toList = shape.chars (.ofLocale locale) c.text.toList :=
    shape.toList_text _ _
  constructor
  · intro same
    have texts := congrArg (fun d => d.text.toList) same
    rwa [candidate, Candidate.text_withText, toList_text, chars] at texts
  · intro same
    refine congrArg c.withText ?_
    rw [← String.toList_inj, toList_text, chars, same, toList_text]

/-- Of two apostrophes a word without one takes both, and one more when it takes them again. A word with
one in its midst takes one, and its first letter may have grown. -/
example :
    let shape : Shape := { capitalized := true, apostrophes := 2 }
    shape.text {} "dont" = "Dont''" ∧ shape.text {} "Dont''" = "Dont'''" ∧
      shape.text {} "ßo'n" = "SSo'n'" := by
  decide +kernel

end Shape

end WordStrip
