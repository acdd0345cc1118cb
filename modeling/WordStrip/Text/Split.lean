/-!
# Cutting a text at separators

Cutting at every separator gives one piece more than there are separators, so pieces may be empty.
Joining the pieces with a separator gives the text back when there is only one separator.
-/

namespace WordStrip.Text

/-- The pieces between the characters that satisfy `isSep`, empty ones included. -/
def pieces (isSep : Char → Bool) : List Char → List (List Char)
  | [] => [[]]
  | c :: rest =>
    if isSep c then [] :: pieces isSep rest
    else
      match pieces isSep rest with
      | piece :: more => (c :: piece) :: more
      | [] => [[c]]

/-- The pieces of a text between occurrences of one character. -/
def splitAt (sep : Char) (s : String) : List String :=
  (pieces (· == sep) s.toList).map String.ofList

theorem pieces_ne_nil (isSep : Char → Bool) (cs : List Char) : pieces isSep cs ≠ [] := by
  cases cs with
  | nil => simp [pieces]
  | cons c rest =>
    by_cases h : isSep c
    · simp [pieces, h]
    · simp only [pieces, h, Bool.false_eq_true, if_false]
      split <;> simp

end WordStrip.Text
