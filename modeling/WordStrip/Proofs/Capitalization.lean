import WordStrip.Proofs.Closeness
import WordStrip.Proofs.Shape
import WordStrip.Proofs.Text.Letter

/-!
# The distance of capitalized words

The distance compares texts in lower case, so that a word at the beginning of a sentence is as close to a
suggestion as it is elsewhere. That rests on lower-casing undoing what capitalizing did, which is a
question to the first letter alone: whether it is the small form of its capital (`Casing.Restores`). Where
it is, nothing changes (`lower_capitalize_iff`), and where it is not, the word has a distance from itself
(`editDistance_capitalize_iff`).

The rest of the word is not quite out of it. A sigma in it takes its final form by the letters in front,
the first one included, and so it matters that a letter and its capital count alike there
(`Restores.casedBehind_eq`). In the other direction it is enough that no letter behind changes its length.
-/

namespace WordStrip

/-! ## Lower-casing in parts -/

namespace Text

/-- Whether the last character that counts is a cased letter, behind characters that follow `cased`. -/
def casedBehind (cased : Bool) : List Char → Bool
  | [] => cased
  | c :: rest => casedBehind (if isCaseIgnorable c then cased else isCased c) rest

theorem casedBehind_of_counts {c : Char} (counts : Counts c) (cased : Bool) :
    casedBehind cased [c] = true := by
  simp [casedBehind, counts.1, counts.2]

/-- The length of a text in lower case does not depend on what stands in front of it: both forms of the
small sigma are one character. -/
theorem length_lowerCharsAfter (cased other : Bool) (cs : List Char) :
    (lowerCharsAfter cased cs).length = (lowerCharsAfter other cs).length := by
  induction cs generalizing cased other with
  | nil => rfl
  | cons c rest ih =>
    rw [lowerCharsAfter, lowerCharsAfter, List.length_append, List.length_append]
    congr 1
    · split <;> rfl
    · exact ih _ _

/-- Without a capital sigma, characters are put in lower case whatever follows them. -/
theorem lowerCharsAfter_append {front : List Char} (plain : 'Σ' ∉ front) (cased : Bool)
    (rest : List Char) :
    lowerCharsAfter cased (front ++ rest) =
      lowerCharsAfter cased front ++ lowerCharsAfter (casedBehind cased front) rest := by
  induction front generalizing cased with
  | nil => rfl
  | cons c front ih =>
    rw [List.mem_cons, not_or] at plain
    have other : c ≠ 'Σ' := Ne.symm plain.1
    rw [List.cons_append, lowerCharsAfter, lowerCharsAfter, if_neg other, if_neg other, ih plain.2,
      List.append_assoc, casedBehind]

/-- So is the first character of a text, since a sigma that nothing stands in front of is not final. -/
theorem lowerChars_cons (c : Char) (rest : List Char) :
    lowerChars (c :: rest) =
      lowerChars [c] ++ lowerCharsAfter (casedBehind false [c]) rest := by
  by_cases sigma : c = 'Σ'
  · subst sigma
    simp [lowerChars, lowerCharsAfter, casedBehind]
  · have plain : 'Σ' ∉ [c] := fun mem => sigma (List.mem_singleton.mp mem).symm
    exact lowerCharsAfter_append plain false rest

end Text

/-! ## Letters that are restored -/

namespace Casing

variable {casing : Casing} {c : Char}

/-- A letter is the small form of its capital: lower-casing undoes what capitalizing did. -/
def Restores (casing : Casing) (c : Char) : Prop :=
  Text.lowerChars (casing.upperOf c) = Text.lowerChars [c]

instance (casing : Casing) (c : Char) : Decidable (casing.Restores c) :=
  inferInstanceAs (Decidable (Text.lowerChars (casing.upperOf c) = Text.lowerChars [c]))

/-- A text that begins with the capital form of a character is put in lower case in two parts. -/
theorem lowerChars_upperOf_append (casing : Casing) (c : Char) (rest : List Char) :
    Text.lowerChars (casing.upperOf c ++ rest) = Text.lowerChars (casing.upperOf c) ++
      Text.lowerCharsAfter (Text.casedBehind false (casing.upperOf c)) rest := by
  rcases casing.upperOf_eq c with ⟨-, dotted⟩ | capital
  · rw [dotted]
    exact Text.lowerChars_cons 'İ' rest
  · rw [capital]
    rcases Text.upperOf_cases c with own | ⟨plain, -⟩ | ⟨d, single, -, -⟩
    · rw [own]
      exact Text.lowerChars_cons c rest
    · exact Text.lowerCharsAfter_append plain false rest
    · rw [single]
      exact Text.lowerChars_cons d rest

/-- A letter that is restored and its capital count alike for the letters behind them. -/
theorem Restores.casedBehind_eq (restores : casing.Restores c) :
    Text.casedBehind false (casing.upperOf c) = Text.casedBehind false [c] := by
  rw [Restores] at restores
  rcases casing.upperOf_eq c with ⟨rfl, dotted⟩ | capital
  -- the dot stays behind the small letter as a mark
  · rw [dotted] at restores
    exact absurd restores (by decide +kernel)
  · rw [capital] at restores ⊢
    rcases Text.upperOf_cases c with own | ⟨-, unlike⟩ | ⟨d, single, letter, counts⟩
    · rw [own]
    · exact absurd restores unlike
    · have seen : c ≠ '\u0345' := by
        rintro rfl
        exact absurd restores (by decide +kernel)
      rw [single, Text.casedBehind_of_counts counts,
        Text.casedBehind_of_counts (Text.counts_of_moved_upper letter seen)]

/-! ## Capitalized texts -/

/-- Lower-casing a capitalized text gives the text in lower case exactly when the first letter is
restored. -/
theorem lowerChars_capitalizeChars_iff (casing : Casing) (cs : List Char) :
    Text.lowerChars (casing.capitalizeChars cs) = Text.lowerChars cs ↔
      ∀ c ∈ cs.head?, casing.Restores c := by
  cases cs with
  | nil => simp [capitalizeChars]
  | cons c rest =>
    rw [capitalizeChars, lowerChars_upperOf_append, Text.lowerChars_cons c rest, List.head?_cons]
    simp only [Option.mem_some_iff, forall_eq']
    constructor
    · intro same
      exact List.append_inj_left' same (Text.length_lowerCharsAfter _ _ rest)
    · intro restores
      rw [restores.casedBehind_eq, restores]

theorem lower_capitalize_iff (casing : Casing) (word : String) :
    Text.lower (casing.capitalize word) = Text.lower word ↔
      ∀ c ∈ word.toList.head?, casing.Restores c := by
  rw [← lowerChars_capitalizeChars_iff, ← String.toList_inj, Text.toList_lower, Text.toList_lower,
    capitalize, String.toList_ofList]

theorem restores_space (casing : Casing) : casing.Restores ' ' := by
  rw [Restores, upperOf_of_ne (by decide)]
  decide +kernel

/-- A word whose capital form is another word in lower case is more than spaces. -/
theorem not_allSpaces_of_lower_ne {word : String}
    (unlike : Text.lower (casing.capitalize word) ≠ Text.lower word) : ¬ AllSpaces word := by
  intro spaces
  refine unlike ((casing.lower_capitalize_iff word).mpr fun c first => ?_)
  rw [spaces c (List.mem_of_mem_head? first)]
  exact casing.restores_space

/-- Capitalizing makes no text of nothing, and nothing of no text. -/
theorem isEmpty_capitalize (casing : Casing) (word : String) :
    (casing.capitalize word).isEmpty = word.isEmpty := by
  have kept : casing.capitalizeChars word.toList = [] ↔ word.toList = [] := by
    cases word.toList with
    | nil => rfl
    | cons c rest => simp [capitalizeChars, casing.upperOf_ne_nil c]
  rw [Bool.eq_iff_iff, String.isEmpty_iff, String.isEmpty_iff, ← String.toList_eq_nil_iff,
    ← String.toList_eq_nil_iff, capitalize, String.toList_ofList, kept]

end Casing

/-! ## The distance -/

theorem editDistance_congr {before other : String} (same : Text.lower before = Text.lower other)
    (after : String) : editDistance before after = editDistance other after := by
  rw [editDistance, editDistance, ← Text.toList_lower before, same, Text.toList_lower]

/-- Capitalizing a word leaves its distance from every text exactly when its first letter is the small
form of its capital in that locale. Under the same condition, and only then, it leaves how close every
suggestion with any score is to the word. -/
theorem editDistance_capitalize_iff (locale : Option Locale) (word : String) :
    ((∀ text, editDistance ((Casing.ofLocale locale).capitalize word) text = editDistance word text) ↔
      ∀ c ∈ word.toList.head?, (Casing.ofLocale locale).Restores c) ∧
    ((∀ text score, Closeness.of? ((Casing.ofLocale locale).capitalize word) text score =
        Closeness.of? word text score) ↔
      ∀ c ∈ word.toList.head?, (Casing.ofLocale locale).Restores c) := by
  rw [← Casing.lower_capitalize_iff]
  have itself : editDistance word word = 0 := editDistance_eq_zero_iff.mpr rfl
  refine ⟨⟨fun same => ?_, editDistance_congr⟩, fun same => ?_, fun same text score => ?_⟩
  · rw [← editDistance_eq_zero_iff, same word, itself]
  · by_contra unlike
    have visible := Casing.not_allSpaces_of_lower_ne unlike
    have typed : word ≠ "" := by
      rintro rfl
      exact visible nofun
    have long : 0 < word.length := by
      rwa [← String.length_toList, List.length_pos_iff, ne_eq, String.toList_eq_nil_iff]
    have counts : Closeness.Counts word word 1 := ⟨typed, visible, by decide, itself ▸ long⟩
    have distance := Closeness.distance_eq_of_of?_eq counts (same word 1)
    exact unlike (editDistance_eq_zero_iff.mp (distance.trans itself))
  · rw [Closeness.of?, Closeness.of?, Casing.isEmpty_capitalize, editDistance_congr same]

/-- In Turkish the capital of `i` keeps its dot, and in lower case the dot becomes a mark. So a city at the
beginning of a sentence is at a distance from itself. -/
theorem istanbul_apart :
    (Casing.ofLocale (some { language := "tr" })).capitalize "istanbul" = "İstanbul" ∧
      editDistance "İstanbul" "istanbul" = 1 ∧ editDistance "istanbul" "istanbul" = 0 := by
  decide +kernel

/-- Elsewhere `i` is restored. No language restores a letter whose capital form is two letters, nor a
final sigma. -/
example : Casing.Restores {} 'i' ∧ ¬ Casing.Restores {} 'ß' ∧ ¬ Casing.Restores {} 'ς' := by
  decide +kernel

end WordStrip
