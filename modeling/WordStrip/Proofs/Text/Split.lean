import WordStrip.Text.Split

/-!
# Pieces and what they were cut from

No piece holds a separator, and the pieces with the separator between them are the text. Texts without the
separator are so the pieces of what they are joined to (`splitAt_intercalate`), and lines the pieces of what
they are written to, with nothing behind the last line (`pieces_lines`).
-/

namespace WordStrip.Text

variable {isSep : Char → Bool} {sep : Char}

/-- No piece holds a separator. -/
theorem not_isSep_of_mem_pieces {cs piece : List Char} (listed : piece ∈ pieces isSep cs) :
    ∀ c ∈ piece, isSep c = false := by
  induction cs generalizing piece with
  | nil =>
    intro c here
    obtain rfl : piece = [] := by simpa [pieces] using listed
    exact absurd here List.not_mem_nil
  | cons first rest ih =>
    by_cases sep : isSep first
    · simp only [pieces, sep, if_true, List.mem_cons] at listed
      rcases listed with rfl | later
      · intro c here
        exact absurd here List.not_mem_nil
      · exact ih later
    · simp only [pieces, sep, Bool.false_eq_true, if_false] at listed
      cases cut : pieces isSep rest with
      | nil => exact absurd cut (pieces_ne_nil isSep rest)
      | cons front more =>
        rw [cut, List.mem_cons] at listed
        rw [cut] at ih
        rcases listed with rfl | later
        · intro c here
          rcases List.mem_cons.mp here with rfl | here
          · simpa using sep
          · exact ih List.mem_cons_self c here
        · exact ih (List.mem_cons_of_mem front later)

theorem pieces_eq_splitOnP (isSep : Char → Bool) (cs : List Char) :
    pieces isSep cs = cs.splitOnP isSep := by
  induction cs with
  | nil => rfl
  | cons c rest ih =>
    rw [List.splitOnP_cons_eq_if_modifyHead, pieces, ← ih]
    split
    case isTrue => rfl
    case isFalse =>
      obtain ⟨piece, more, cut⟩ := List.exists_cons_of_ne_nil (pieces_ne_nil isSep rest)
      rw [cut]
      rfl

/-! ## Texts with a separator between them -/

/-- The pieces of a text with the separator between them are the text. -/
theorem intercalate_splitAt (sep : Char) (s : String) :
    (String.singleton sep).intercalate (splitAt sep s) = s := by
  rw [← String.toList_inj, String.toList_intercalate, String.toList_singleton, splitAt, List.map_map,
    pieces_eq_splitOnP]
  simp only [Function.comp_def, String.toList_ofList, List.map_id']
  exact List.intercalate_splitOn sep

/-- Texts without the separator are the pieces of what they are joined to. -/
theorem splitAt_intercalate {texts : List String} (plain : ∀ text ∈ texts, sep ∉ text.toList)
    (some : texts ≠ []) : splitAt sep ((String.singleton sep).intercalate texts) = texts := by
  have parts : ∀ part ∈ texts.map String.toList, sep ∉ part := by
    rw [List.forall_mem_map]
    exact plain
  rw [splitAt, String.toList_intercalate, String.toList_singleton, pieces_eq_splitOnP]
  show (List.splitOn sep _).map String.ofList = texts
  rw [List.splitOn_intercalate sep parts (mt List.map_eq_nil_iff.mp some), List.map_map]
  simp only [Function.comp_def, String.ofList_toList, List.map_id']

theorem not_mem_of_mem_splitAt {s piece : String} (listed : piece ∈ splitAt sep s) :
    sep ∉ piece.toList := by
  obtain ⟨cs, cut, rfl⟩ := List.mem_map.mp listed
  intro mem
  rw [String.toList_ofList] at mem
  simpa using not_isSep_of_mem_pieces cut sep mem

/-! ## Lines -/

/-- Lines that are written with a separator behind each of them are cut apart again. -/
theorem pieces_lines {lines : List (List Char)} (ends : isSep sep = true)
    (plain : ∀ line ∈ lines, ∀ c ∈ line, isSep c = false) :
    pieces isSep (lines.flatMap fun line => line ++ [sep]) = lines ++ [[]] := by
  induction lines with
  | nil => rfl
  | cons line rest ih =>
    obtain ⟨first, later⟩ := List.forall_mem_cons.mp plain
    rw [pieces_eq_splitOnP] at ih ⊢
    rw [List.flatMap_cons, List.append_assoc, List.singleton_append,
      List.splitOnP_append_cons_of_forall_mem first sep ends, ih later, List.cons_append]

end WordStrip.Text
