import WordStrip.Text.Quoted

/-!
# Quoted texts can be seen

Whatever a text holds, in quotes all of it is printable (`printable_quoted`). A quoted text has two kinds of
characters: those of the text that are printable themselves, and those that quotes and escapes are written
with, which are ASCII. Numbers and truth values are printable for the same reason.

No character that ends a line is printable (`isPrintable_lineBreaks`), so a printable text is on one line.
-/

namespace WordStrip.Text

/-! ## Printable characters -/

/-- The characters that end a line. -/
def lineBreaks : List Char :=
  ['\n', '\x0b', '\x0c', '\r', '\x1c', '\x1d', '\x1e', '\x85', '\u2028', '\u2029']

/-- Whether a character ends a line. -/
def isLineBreak (c : Char) : Bool := lineBreaks.contains c

theorem isPrintable_lineBreaks : ∀ c ∈ lineBreaks, isPrintable c = false := by
  have none : (lineBreaks.all fun c => !isPrintable c) = true := by decide +kernel
  simpa using none

theorem isLineBreak_eq_false {c : Char} (plain : isPrintable c = true) : isLineBreak c = false := by
  rw [isLineBreak, ← Bool.not_eq_true, List.contains_iff_mem]
  intro ends
  exact nomatch plain.symm.trans (isPrintable_lineBreaks c ends)

/-- All characters are printable. -/
def Printable (cs : List Char) : Prop := ∀ c ∈ cs, isPrintable c = true

-- Of the ways to decide this, the one that walks the list and not all characters there are.
instance (cs : List Char) : Decidable (Printable cs) :=
  List.decidableBAll (fun c => isPrintable c = true) cs

variable {cs ds : List Char}

@[simp] theorem printable_append : Printable (cs ++ ds) ↔ Printable cs ∧ Printable ds :=
  List.forall_mem_append

@[simp] theorem printable_cons {c : Char} :
    Printable (c :: cs) ↔ isPrintable c = true ∧ Printable cs :=
  List.forall_mem_cons

/-- Printable texts make a printable text. -/
theorem Printable.append {s t : String} (front : Printable s.toList) (back : Printable t.toList) :
    Printable (s ++ t).toList := by
  rw [String.toList_append, printable_append]
  exact ⟨front, back⟩

theorem printable_replicate {c : Char} (plain : isPrintable c = true) (n : Nat) :
    Printable (List.replicate n c) :=
  fun _ mem => List.eq_of_mem_replicate mem ▸ plain

/-! ## Digits -/

theorem isPrintable_digitChar (n : Nat) : isPrintable n.digitChar = true := by
  by_cases small : n < 16
  · exact (by decide +kernel : ∀ n < 16, isPrintable n.digitChar = true) n small
  · have star : n.digitChar = '*' := by simp (disch := omega) only [Nat.digitChar, if_neg]
    rw [star]
    decide +kernel

theorem printable_toDigits {base : Nat} (several : 1 < base) (n : Nat) :
    Printable (Nat.toDigits base n) := by
  induction n using Nat.strongRecOn with
  | ind n ih =>
    by_cases small : n < base
    · rw [Nat.toDigits_of_lt_base small, printable_cons]
      exact ⟨isPrintable_digitChar n, nofun⟩
    · have large : base ≤ n := Nat.not_lt.mp small
      rw [Nat.toDigits_of_base_le several large, printable_append, printable_cons]
      exact ⟨ih (n / base) (Nat.div_lt_self (by omega) several), isPrintable_digitChar _, nofun⟩

/-! ## Escapes -/

theorem printable_hexPadded (width n : Nat) : Printable (hexPadded width n) :=
  printable_append.mpr ⟨printable_replicate (by decide +kernel) _, printable_toDigits (by decide) n⟩

theorem printable_escapeByNumber (n : Nat) : Printable (escapeByNumber n) := by
  have letters : Printable ['\\', 'x', 'u', 'U'] := by decide +kernel
  simp only [printable_cons] at letters
  obtain ⟨backslash, two, four, eight, -⟩ := letters
  unfold escapeByNumber
  split
  · exact printable_cons.mpr ⟨backslash, printable_cons.mpr ⟨two, printable_hexPadded 2 n⟩⟩
  · split
    · exact printable_cons.mpr ⟨backslash, printable_cons.mpr ⟨four, printable_hexPadded 4 n⟩⟩
    · exact printable_cons.mpr ⟨backslash, printable_cons.mpr ⟨eight, printable_hexPadded 8 n⟩⟩

/-- A character in quotes stands as it is only where it is printable, and a quote or a backslash is. -/
theorem printable_quotedChar {quote : Char} (plain : isPrintable quote = true) (c : Char) :
    Printable (quotedChar quote c) := by
  unfold quotedChar
  split
  case isTrue special =>
    have own : isPrintable c = true := by
      rcases special with rfl | rfl
      · exact plain
      · decide +kernel
    exact printable_cons.mpr ⟨by decide +kernel, printable_cons.mpr ⟨own, nofun⟩⟩
  split
  · decide +kernel
  split
  · decide +kernel
  split
  · decide +kernel
  split
  case isTrue own => exact printable_cons.mpr ⟨own, nofun⟩
  case isFalse => exact printable_escapeByNumber c.toNat

theorem isPrintable_quoteFor (cs : List Char) : isPrintable (quoteFor cs) = true := by
  unfold quoteFor
  split
  · decide +kernel
  · decide +kernel

/-- A text in quotes is printable, whatever the text holds. -/
theorem printable_quoted (s : String) : Printable (quoted s).toList := by
  have quote : isPrintable (quoteFor s.toList) = true := isPrintable_quoteFor s.toList
  have inside : Printable (s.toList.flatMap (quotedChar (quoteFor s.toList))) :=
    List.forall_mem_flatMap.mpr fun c _ => printable_quotedChar quote c
  rw [quoted, String.toList_ofList, quotedChars, printable_cons, printable_append, printable_cons]
  exact ⟨quote, inside, quote, nofun⟩

/-! ## Other values in a text -/

theorem printable_toString_nat (n : Nat) : Printable (toString n).toList := by
  rw [Nat.toString_eq_repr, Nat.repr_eq_ofList_toDigits, String.toList_ofList]
  exact printable_toDigits (by decide) n

theorem printable_toString_int (i : Int) : Printable (toString i).toList := by
  cases i with
  | ofNat n => exact printable_toString_nat n
  | negSucc n =>
    have minus : Printable "-".toList := by decide +kernel
    exact minus.append (printable_toString_nat (n + 1))

theorem printable_shownBool (b : Bool) : Printable (shownBool b).toList := by
  cases b <;> decide +kernel

end WordStrip.Text
