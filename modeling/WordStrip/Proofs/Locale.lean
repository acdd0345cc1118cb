import WordStrip.Locale
import WordStrip.Proofs.Text.Blank
import WordStrip.Proofs.Text.Split
import WordStrip.Proofs.Text.Uncased

/-!
# Tags that name a locale again

What reading makes of a tag is a locale in its case, without separators, and with a language if it has a
country (`IsRead`), and it makes every such locale of some tag (`isRead_iff`). Printing such a locale and
reading the tag gives it back, but for one thing: reading trims the tag, and a blank may stand at the end of
a printed tag. Pieces are not trimmed one by one, so a blank gets there from behind a separator in front of
the first piece, or from before the separator that ends the last piece. The locales that are read from their
own tags are so the `IsRead` ones without a blank at either end of the tag (`parse_tag_eq_self_iff`), and
the tags that lead to one of them have no blank at the outer ends of the pieces that count
(`parse_tag_parse_iff`).

Where reading a printed tag gives another locale, that one has no country, or no blank at its ends. So a
locale settles once it was printed and read twice (`reread_settles`).
-/

namespace WordStrip.Locale

open Text (isBlank)

variable {l : Locale}

/-! ## Pieces that count -/

/-- Casing keeps separators. -/
theorem isKept_isSeparator : Text.IsKept isSeparator := by
  intro c separates
  rw [isSeparator, Bool.or_eq_true, beq_iff_eq, beq_iff_eq] at separates
  rcases separates with rfl | rfl <;> decide +kernel

/-- No separator stands in a piece. -/
def IsPlain (piece : List Char) : Prop := ∀ c ∈ piece, isSeparator c = false

/-- The pieces of a tag that count: the first two that are not empty. -/
def countedPieces (text : String) : List (List Char) :=
  ((Text.pieces isSeparator (Text.trimChars text.toList)).filter fun piece => !piece.isEmpty).take 2

/-- The locale with a language and a country, each put in its case. -/
def ofChars (language country : List Char) : Locale where
  language := String.ofList (Text.lowerChars language)
  country := String.ofList (Text.upperChars country)

/-- Empty pieces are left out and change nothing, unless a country stands behind an empty language. -/
theorem ofPieces_filter {language country : List Char} (without : language = [] → country = []) :
    ofPieces ([language, country].filter fun piece => !piece.isEmpty) = ofChars language country := by
  cases language with
  | nil =>
    rw [without rfl]
    rfl
  | cons c rest =>
    cases country with
    | nil => rfl
    | cons d more => rfl

theorem exists_filter_of_pieces {pieces : List (List Char)}
    (each : ∀ piece ∈ pieces, piece ≠ [] ∧ IsPlain piece) :
    ∃ language country, pieces.take 2 = [language, country].filter (fun piece => !piece.isEmpty) ∧
      ofPieces pieces = ofChars language country ∧
      IsPlain language ∧ IsPlain country ∧ (language = [] → country = []) := by
  have none : IsPlain [] := nofun
  match pieces with
  | [] => exact ⟨[], [], rfl, rfl, none, none, fun _ => rfl⟩
  | [language] =>
    obtain ⟨some, plain⟩ := each language (by simp)
    exact ⟨language, [], by simp [some], rfl, plain, none, fun empty => absurd empty some⟩
  | language :: country :: _ =>
    obtain ⟨some, plain⟩ := each language (by simp)
    obtain ⟨another, alike⟩ := each country (by simp)
    exact ⟨language, country, by simp [some, another], rfl, plain, alike, fun empty => absurd empty some⟩

/-- A tag names a language and a country, which are its counted pieces as far as they are not empty. The
first one that counts is the language. -/
theorem exists_countedPieces (text : String) :
    ∃ language country,
      countedPieces text = [language, country].filter (fun piece => !piece.isEmpty) ∧
      parse text = ofChars language country ∧
      IsPlain language ∧ IsPlain country ∧ (language = [] → country = []) := by
  refine exists_filter_of_pieces fun piece mem => ?_
  obtain ⟨listed, some⟩ := List.mem_filter.mp mem
  exact ⟨by simpa using some, Text.not_isSep_of_mem_pieces listed⟩

/-! ## Locales that reading makes -/

/-- What reading makes of a tag: the language is in lower and the country in upper case, neither has a
separator, and there is a language if there is a country. -/
structure IsRead (l : Locale) : Prop where
  small : Text.lower l.language = l.language
  capital : Text.upper l.country = l.country
  plain_language : IsPlain l.language.toList
  plain_country : IsPlain l.country.toList
  country_eq : l.language = "" → l.country = ""

/-- Whatever the tag, what reading makes of it is such a locale. -/
theorem isRead_parse (text : String) : (parse text).IsRead := by
  obtain ⟨language, country, -, read, plain, alike, without⟩ := exists_countedPieces text
  rw [read]
  have small := Text.spread_lowerChars isKept_isSeparator language
  have capital := Text.spread_upperChars isKept_isSeparator country
  refine ⟨?_, ?_, ?_, ?_, ?_⟩
  · simpa [ofChars, Text.lower] using Text.lower_lower (String.ofList language)
  · simpa [ofChars, Text.upper] using Text.upper_upper (String.ofList country)
  · simpa [ofChars, IsPlain] using small.of_forall plain
  · simpa [ofChars, IsPlain] using capital.of_forall alike
  · simpa [ofChars, small.eq_nil_iff, capital.eq_nil_iff] using without

namespace IsRead

theorem isSmall (read : l.IsRead) : ∀ c ∈ l.language.toList, Text.IsSmall c := by
  rw [← Text.lowerChars_eq_self_iff, ← Text.toList_lower, read.small]

theorem upperOf_eq (read : l.IsRead) : ∀ c ∈ l.country.toList, Text.upperOf c = [c] := by
  rw [← Text.upperChars_eq_self_iff, ← Text.toList_upper, read.capital]

/-- Parts of such a language and of such a country are in their case. -/
theorem ofChars_eq (read : l.IsRead) {language country : List Char}
    (front : language ⊆ l.language.toList) (back : country ⊆ l.country.toList) :
    ofChars language country =
      { language := String.ofList language, country := String.ofList country } := by
  have small : Text.lowerChars language = language :=
    Text.lowerChars_eq_self_iff.mpr fun c mem => read.isSmall c (front mem)
  have capital : Text.upperChars country = country :=
    Text.upperChars_eq_self_iff.mpr fun c mem => read.upperOf_eq c (back mem)
  rw [ofChars, small, capital]

end IsRead

theorem isBlank_hyphen : isBlank '-' = false := by
  decide

/-- Reading makes every such locale of some tag: with a separator at either end, nothing is trimmed. -/
theorem isRead_iff : l.IsRead ↔ ∃ text, parse text = l := by
  constructor
  · intro read
    let fenced := '-' :: (l.language.toList ++ '_' :: (l.country.toList ++ ['-']))
    have kept : Text.trimChars fenced = fenced := by
      have ends : fenced = ('-' :: (l.language.toList ++ '_' :: l.country.toList)) ++ ['-'] := by
        simp [fenced]
      rw [Text.trimChars_eq_self_iff_ends]
      refine ⟨by simp [fenced, isBlank_hyphen], ?_⟩
      rw [ends, List.getLast?_concat]
      simp [isBlank_hyphen]
    have cut : Text.pieces isSeparator fenced = [[], l.language.toList, l.country.toList, []] := by
      have none : ∀ c ∈ ([] : List Char), isSeparator c = false := by simp
      rw [Text.pieces_eq_splitOnP, ← List.nil_append fenced,
        List.splitOnP_append_cons_of_forall_mem none '-' rfl,
        List.splitOnP_append_cons_of_forall_mem read.plain_language '_' rfl,
        List.splitOnP_append_cons_of_forall_mem read.plain_country '-' rfl, List.splitOnP_nil]
    have without : l.language.toList = [] → l.country.toList = [] := by
      simpa using read.country_eq
    refine ⟨String.ofList fenced, ?_⟩
    calc parse (String.ofList fenced)
      _ = ofPieces ([l.language.toList, l.country.toList].filter fun piece => !piece.isEmpty) := by
        rw [parse, String.toList_ofList, kept, cut]
        simp [List.filter_cons]
      _ = ofChars l.language.toList l.country.toList := ofPieces_filter without
      _ = l := by
        rw [read.ofChars_eq (List.Subset.refl _) (List.Subset.refl _), String.ofList_toList,
          String.ofList_toList]
  · rintro ⟨text, rfl⟩
    exact isRead_parse text

/-! ## Reading a printed tag -/

theorem tag_of_no_country (none : l.country = "") : l.tag = l.language := by
  simp [tag, none]

theorem toList_tag (some : l.country ≠ "") :
    l.tag.toList = l.language.toList ++ '_' :: l.country.toList := by
  simp [tag, some]

theorem isBlank_underscore : isBlank '_' = false := by
  decide

/-- Without a country, the language is trimmed. -/
theorem parse_tag_of_no_country (read : l.IsRead) (none : l.country = "") :
    parse l.tag = { language := Text.trim l.language } := by
  have part : Text.trimChars l.language.toList ⊆ l.language.toList :=
    (Text.trimChars_sublist _).subset
  have plain : IsPlain (Text.trimChars l.language.toList) :=
    fun c mem => read.plain_language c (part mem)
  rw [parse, tag_of_no_country none, Text.pieces_eq_splitOnP, List.splitOnP_eq_singleton plain]
  have cased := read.ofChars_eq part (List.nil_subset _)
  cases trimmed : Text.trimChars l.language.toList with
  | nil => simp [ofPieces, Text.trim, trimmed]
  | cons c rest =>
    rw [trimmed] at cased
    simpa [ofPieces, ofChars, Text.trim, trimmed] using cased

/-- With a country, the language is trimmed in front and the country behind, and what is left of them are
the pieces that count. -/
theorem parse_tag_of_country (read : l.IsRead) (some : l.country ≠ "") :
    parse l.tag = ofPieces ([l.language.toList.dropWhile isBlank,
      l.country.toList.rdropWhile isBlank].filter fun piece => !piece.isEmpty) := by
  have front : IsPlain (l.language.toList.dropWhile isBlank) :=
    fun c mem => read.plain_language c ((List.dropWhile_sublist _).subset mem)
  have back : IsPlain (l.country.toList.rdropWhile isBlank) :=
    fun c mem => read.plain_country c ((List.rdropWhile_prefix _ _).subset mem)
  rw [parse, toList_tag some, Text.trimChars_append_cons isBlank_underscore,
    Text.pieces_eq_splitOnP, List.splitOnP_append_cons_of_forall_mem front '_' rfl,
    List.splitOnP_eq_singleton back]

/-- A printed tag keeps its two pieces when neither is all blanks. -/
theorem parse_tag_of_two (read : l.IsRead) (some : l.country ≠ "")
    (front : l.language.toList.dropWhile isBlank ≠ [])
    (back : l.country.toList.rdropWhile isBlank ≠ []) :
    parse l.tag = {
      language := String.ofList (l.language.toList.dropWhile isBlank)
      country := String.ofList (l.country.toList.rdropWhile isBlank) } := by
  rw [parse_tag_of_country read some, List.filter_cons_of_pos (by simpa using front),
    List.filter_cons_of_pos (by simpa using back), List.filter_nil]
  exact read.ofChars_eq (List.dropWhile_sublist _).subset (List.rdropWhile_prefix _ _).subset

/-- Otherwise the country is lost: the one piece that is left is the language. -/
theorem country_parse_tag (read : l.IsRead) (some : l.country ≠ "")
    (blank : l.language.toList.dropWhile isBlank = [] ∨ l.country.toList.rdropWhile isBlank = []) :
    (parse l.tag).country = "" := by
  rw [parse_tag_of_country read some]
  rcases blank with none | none
  · rw [none, List.filter_cons_of_neg (by simp), List.filter_cons, List.filter_nil]
    split <;> rfl
  · rw [none, List.filter_cons, List.filter_cons_of_neg (by simp), List.filter_nil]
    split <;> rfl

/-! ## Tags that are read back -/

theorem trim_tag_of_country (some : l.country ≠ "") :
    Text.trim l.tag = l.tag ↔ l.language.toList.dropWhile isBlank = l.language.toList ∧
      l.country.toList.rdropWhile isBlank = l.country.toList := by
  rw [Text.trim_eq_self_iff, toList_tag some, Text.trimChars_append_cons_eq_self_iff isBlank_underscore]

/-- A locale that reading makes is read from its own tag exactly when the tag has no blank at its ends. -/
theorem IsRead.parse_tag_iff (read : l.IsRead) : parse l.tag = l ↔ Text.trim l.tag = l.tag := by
  by_cases none : l.country = ""
  · rw [parse_tag_of_no_country read none, tag_of_no_country none]
    constructor
    · exact fun same => congrArg language same
    · intro trimmed
      rw [trimmed, ← none]
  rw [trim_tag_of_country none]
  by_cases blank : l.language.toList.dropWhile isBlank = [] ∨ l.country.toList.rdropWhile isBlank = []
  · have lost : (parse l.tag).country = "" := country_parse_tag read none blank
    constructor
    · intro same
      rw [same] at lost
      exact absurd lost none
    · rintro ⟨front, back⟩
      rw [front, back, String.toList_eq_nil_iff, String.toList_eq_nil_iff] at blank
      exact absurd (blank.elim read.country_eq id) none
  · rw [not_or] at blank
    rw [parse_tag_of_two read none blank.1 blank.2]
    constructor
    · intro same
      refine ⟨?_, ?_⟩
      · simpa using congrArg (fun l => l.language.toList) same
      · simpa using congrArg (fun l => l.country.toList) same
    · rintro ⟨front, back⟩
      rw [front, back, String.ofList_toList, String.ofList_toList]

/-- The locales that are read from their own tags are those that reading makes of some tag and whose tag has
no blank at its ends. -/
theorem parse_tag_eq_self_iff (l : Locale) :
    parse l.tag = l ↔ l.IsRead ∧ Text.trim l.tag = l.tag := by
  constructor
  · intro same
    have read : l.IsRead := same ▸ isRead_parse l.tag
    exact ⟨read, read.parse_tag_iff.mp same⟩
  · rintro ⟨read, trimmed⟩
    exact read.parse_tag_iff.mpr trimmed

/-! ## Rounds of printing and reading -/

/-- The locale that is read from the tag of a locale. -/
def reread (l : Locale) : Locale := parse l.tag

theorem isRead_reread (l : Locale) : l.reread.IsRead := isRead_parse l.tag

/-- Without a country one round is enough. -/
theorem reread_of_no_country (read : l.IsRead) (none : l.country = "") :
    l.reread.reread = l.reread := by
  have trimmed : l.reread = { language := Text.trim l.language } := parse_tag_of_no_country read none
  have lone : l.reread.country = "" := by rw [trimmed]
  refine (isRead_reread l).parse_tag_iff.mpr ?_
  rw [tag_of_no_country lone, trimmed, Text.trim_eq_self_iff, Text.trim, String.toList_ofList,
    Text.trimChars_trimChars]

/-- A round gives a locale that the next one leaves, or one without a country. -/
theorem reread_or_no_country (read : l.IsRead) :
    l.reread.reread = l.reread ∨ l.reread.country = "" := by
  by_cases none : l.country = ""
  · exact .inl (reread_of_no_country read none)
  by_cases blank : l.language.toList.dropWhile isBlank = [] ∨ l.country.toList.rdropWhile isBlank = []
  · exact .inr (country_parse_tag read none blank)
  · rw [not_or] at blank
    have two := parse_tag_of_two read none blank.1 blank.2
    have some : l.reread.country ≠ "" := by
      rw [reread, two, ← String.toList_inj.ne, String.toList_ofList]
      exact blank.2
    refine .inl ((isRead_reread l).parse_tag_iff.mpr ((trim_tag_of_country some).mpr ?_))
    rw [reread, two, String.toList_ofList, String.toList_ofList]
    exact ⟨List.dropWhile_idempotent _ _, List.rdropWhile_idempotent _ _⟩

/-- A locale settles once it was printed and read twice. -/
theorem reread_settles (read : l.IsRead) : l.reread.reread.reread = l.reread.reread := by
  rcases reread_or_no_country read with settled | none
  · rw [settled, settled]
  · exact reread_of_no_country (isRead_reread l) none

/-- Two rounds may be needed: the first takes the blank in front of the separator, the second the blank
behind it. -/
example : (parse "- - x").reread = { language := " x" } ∧
    (parse "- - x").reread.reread = { language := "x" } := by
  decide +kernel

/-! ## Tags with blanks at the ends of their pieces -/

/-- No blank stands in front of the first piece or behind the last one. -/
structure ClearEnds (pieces : List (List Char)) : Prop where
  first : ∀ piece ∈ pieces.head?, ∀ c ∈ piece.head?, isBlank c = false
  last : ∀ piece ∈ pieces.getLast?, ∀ c ∈ piece.getLast?, isBlank c = false

theorem clearEnds_pair (language country : List Char) :
    ClearEnds [language, country] ↔
      (∀ c ∈ language.head?, isBlank c = false) ∧ ∀ c ∈ country.getLast?, isBlank c = false := by
  constructor
  · rintro ⟨first, last⟩
    exact ⟨first language rfl, last country rfl⟩
  · rintro ⟨first, last⟩
    exact ⟨by simpa using first, by simpa using last⟩

/-- An empty piece has no ends. -/
theorem clearEnds_lone (piece : List Char) :
    ClearEnds ([piece].filter fun piece => !piece.isEmpty) ↔ Text.trimChars piece = piece := by
  rw [Text.trimChars_eq_self_iff_ends]
  cases piece with
  | nil => exact ⟨fun _ => ⟨nofun, nofun⟩, fun _ => ⟨nofun, nofun⟩⟩
  | cons c rest =>
    constructor
    · rintro ⟨first, last⟩
      exact ⟨first _ rfl, last _ rfl⟩
    · rintro ⟨first, last⟩
      exact ⟨by simpa using first, by simpa using last⟩

/-- The tag that is printed of what was read has no blank at its ends exactly when the pieces that count
have none at theirs. -/
theorem trim_tag_parse_iff (text : String) :
    Text.trim (parse text).tag = (parse text).tag ↔ ClearEnds (countedPieces text) := by
  obtain ⟨language, country, counted, read, -, -, without⟩ := exists_countedPieces text
  have small := Text.spread_lowerChars Text.isKept_isBlank language
  have capital := Text.spread_upperChars Text.isKept_isBlank country
  rw [read, counted]
  by_cases none : country = []
  · subst none
    have one : [language, []].filter (fun piece => !piece.isEmpty) =
        [language].filter fun piece => !piece.isEmpty := by
      simp [List.filter_cons]
    rw [one, clearEnds_lone, tag_of_no_country rfl, Text.trim_eq_self_iff, ofChars, String.toList_ofList,
      Text.trimChars_eq_self_iff_ends, Text.trimChars_eq_self_iff_ends, small.head?_iff,
      small.getLast?_iff]
  · have two : [language, country].filter (fun piece => !piece.isEmpty) = [language, country] := by
      simp [none, mt without none]
    have some : (ofChars language country).country ≠ "" := by
      rw [ofChars, ← String.toList_inj.ne, String.toList_ofList]
      exact mt capital.eq_nil_iff.mp none
    rw [two, clearEnds_pair, trim_tag_of_country some, ofChars, String.toList_ofList,
      String.toList_ofList, Text.dropWhile_isBlank_eq_self_iff, Text.rdropWhile_isBlank_eq_self_iff,
      small.head?_iff, capital.getLast?_iff]

/-- Whatever the tag, the locale that it names has its language in lower and its country in upper case.
Printing it and reading the tag gives it back exactly when the printed tag has no blank at its ends, which
is to say, when the pieces that count have none at theirs. Otherwise two rounds are enough: what they give
is left by a third one. -/
theorem parse_tag_parse_iff (text : String) :
    (parse (parse text).tag = parse text ↔ Text.trim (parse text).tag = (parse text).tag) ∧
      (parse (parse text).tag = parse text ↔ ClearEnds (countedPieces text)) ∧
      (parse text).reread.reread.reread = (parse text).reread.reread ∧
      Text.lower (parse text).language = (parse text).language ∧
      Text.upper (parse text).country = (parse text).country := by
  have read : (parse text).IsRead := isRead_parse text
  exact ⟨read.parse_tag_iff, read.parse_tag_iff.trans (trim_tag_parse_iff text), reread_settles read,
    read.small, read.capital⟩

/-- A blank before a separator at the end stays with the language, and the next reading trims it. -/
theorem blank_before_separator_not_settled :
    parse "de _" = { language := "de " } ∧ (parse "de _").tag = "de " ∧
      parse "de " = { language := "de" } ∧ parse (parse "de _").tag ≠ parse "de _" := by
  decide +kernel

end WordStrip.Locale
