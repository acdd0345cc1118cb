import Mathlib.Data.List.DropRight
import WordStrip.Text.Blank

/-!
# Laws of trimming

Trimming takes blanks off the two ends of a text, one end after the other. It leaves a text exactly when it
takes nothing off either end (`trimChars_eq_self_iff`), which is a question to the first and to the last
character (`trimChars_eq_self_iff_ends`). Inside a text a character that is no blank keeps the ends apart:
what stands in front of it is trimmed on the left and what stands behind it on the right
(`trimChars_append_cons`).
-/

namespace WordStrip.Text

variable {cs : List Char} {sep : Char}

theorem trimChars_eq (cs : List Char) :
    trimChars cs = (cs.dropWhile isBlank).rdropWhile isBlank := rfl

/-- What is left of a text stands in it. -/
theorem trimChars_sublist (cs : List Char) : (trimChars cs).Sublist cs :=
  (List.rdropWhile_prefix isBlank _).sublist.trans (List.dropWhile_sublist isBlank)

/-! ## Texts without blanks at their ends -/

/-- A text is left by trimming exactly when neither end loses anything. -/
theorem trimChars_eq_self_iff :
    trimChars cs = cs ↔ cs.dropWhile isBlank = cs ∧ cs.rdropWhile isBlank = cs := by
  rw [trimChars_eq]
  constructor
  · intro same
    have right := List.rdropWhile_prefix isBlank (cs.dropWhile isBlank)
    have left : cs.dropWhile isBlank = cs := by
      refine (List.dropWhile_suffix isBlank).eq_of_length_le ?_
      calc cs.length = ((cs.dropWhile isBlank).rdropWhile isBlank).length := by rw [same]
        _ ≤ (cs.dropWhile isBlank).length := right.length_le
    rw [left] at same
    exact ⟨left, same⟩
  · rintro ⟨left, right⟩
    rw [left, right]

theorem dropWhile_isBlank_eq_self_iff :
    cs.dropWhile isBlank = cs ↔ ∀ c ∈ cs.head?, isBlank c = false := by
  cases cs with
  | nil => simp
  | cons c rest => simp [List.dropWhile_eq_self_iff]

theorem rdropWhile_isBlank_eq_self_iff :
    cs.rdropWhile isBlank = cs ↔ ∀ c ∈ cs.getLast?, isBlank c = false := by
  rw [List.rdropWhile, List.reverse_eq_iff, dropWhile_isBlank_eq_self_iff, List.head?_reverse]

/-- A text is left by trimming exactly when it neither begins nor ends with a blank. -/
theorem trimChars_eq_self_iff_ends :
    trimChars cs = cs ↔
      (∀ c ∈ cs.head?, isBlank c = false) ∧ ∀ c ∈ cs.getLast?, isBlank c = false := by
  rw [trimChars_eq_self_iff, dropWhile_isBlank_eq_self_iff, rdropWhile_isBlank_eq_self_iff]

theorem trim_eq_self_iff {s : String} : trim s = s ↔ trimChars s.toList = s.toList := by
  rw [← String.toList_inj, trim, String.toList_ofList]

/-- A trimmed text has nothing left to trim. -/
theorem trimChars_trimChars (cs : List Char) : trimChars (trimChars cs) = trimChars cs := by
  rw [trimChars_eq_self_iff, trimChars_eq]
  refine ⟨?_, List.rdropWhile_idempotent isBlank _⟩
  -- taking blanks off the end leaves the first character, unless nothing is left
  obtain ⟨taken, whole⟩ := List.rdropWhile_prefix isBlank (cs.dropWhile isBlank)
  rw [dropWhile_isBlank_eq_self_iff]
  intro c first
  have front : ∀ d ∈ (cs.dropWhile isBlank).head?, isBlank d = false :=
    dropWhile_isBlank_eq_self_iff.mp (List.dropWhile_idempotent isBlank cs)
  refine front c ?_
  rw [← whole, List.head?_append, first]
  rfl

/-! ## Texts in two parts -/

theorem dropWhile_append_cons (visible : isBlank sep = false) (front back : List Char) :
    (front ++ sep :: back).dropWhile isBlank = front.dropWhile isBlank ++ sep :: back := by
  have stop : (sep :: back).dropWhile isBlank = sep :: back :=
    List.dropWhile_cons_of_neg (by simp [visible])
  rw [List.dropWhile_append, stop]
  split
  case isTrue none => rw [List.isEmpty_iff.mp none, List.nil_append]
  case isFalse => rfl

theorem rdropWhile_append_cons (visible : isBlank sep = false) (front back : List Char) :
    (front ++ sep :: back).rdropWhile isBlank = front ++ sep :: back.rdropWhile isBlank := by
  have turned : (front ++ sep :: back).reverse = back.reverse ++ sep :: front.reverse := by simp
  rw [List.rdropWhile, turned, dropWhile_append_cons visible, List.rdropWhile]
  simp

/-- A character that is no blank keeps the two ends apart. -/
theorem trimChars_append_cons (visible : isBlank sep = false) (front back : List Char) :
    trimChars (front ++ sep :: back) =
      front.dropWhile isBlank ++ sep :: back.rdropWhile isBlank := by
  rw [trimChars_eq, dropWhile_append_cons visible, rdropWhile_append_cons visible]

/-- Such a text is left by trimming exactly when each part is left on its side. -/
theorem trimChars_append_cons_eq_self_iff (visible : isBlank sep = false) (front back : List Char) :
    trimChars (front ++ sep :: back) = front ++ sep :: back ↔
      front.dropWhile isBlank = front ∧ back.rdropWhile isBlank = back := by
  rw [trimChars_eq_self_iff, dropWhile_append_cons visible, rdropWhile_append_cons visible,
    List.append_left_inj, List.append_right_inj, List.cons_inj_right]

end WordStrip.Text
