import WordStrip.CommandLine
import WordStrip.Proofs.Basic
import WordStrip.Proofs.Text.Split

/-!
# Candidates written in fields

A candidate is written in two to four fields with colons between them: a text, a score, perhaps a kind and
perhaps a locale. `Written` says so, and says which candidate it is: the text as it stands, the whole number
that the second field writes, the kind that the third names in any case, and the locale that the fourth
tags; an empty field says as little as one that is left out. No field can have a colon, so the fields of an
argument are its pieces between colons and no others (`hasFields_iff`).

Reading finds that candidate in the first four fields, and refuses an argument where they say none
(`readFields_verdict`). It does not ask whether there are more. So an argument of up to four fields is read
if and only if it is written as above, and one with more fields is read as well, and what stands behind its
fourth field is lost.
-/

namespace WordStrip.CommandLine

open WordStrip.Number

variable {default locale : Locale} {text score field tag argument : String} {fields : List String}
  {n : Int} {kind : Kind} {c : Candidate} {e : CandidateError}

/-! ## What the fields say -/

/-- The kind that a field says: corrections when it is empty, else the kind whose name it is in some
case. -/
inductive SaysKind : String → Kind → Prop where
  | blank : SaysKind "" .correction
  | named {field : String} {kind : Kind} (name : Text.upper field = Text.upper kind.name) :
      SaysKind field kind

/-- The locale that a field says: the given one when it is empty, else the locale of a tag. -/
inductive SaysLocale (default : Locale) : String → Locale → Prop where
  | blank : SaysLocale default "" default
  | tagged {tag : String} (some : tag ≠ "") : SaysLocale default tag (Locale.parse tag)

/-- A candidate of the main dictionary written in two, three or four fields. -/
inductive Written (default : Locale) : List String → Candidate → Prop where
  | scored {text score : String} {n : Int} (whole : readWhole score = .ok n) :
      Written default [text, score] { text, score := n, source := .main default }
  | named {text score field : String} {n : Int} {kind : Kind} (whole : readWhole score = .ok n)
      (known : SaysKind field kind) :
      Written default [text, score, field] { text, score := n, kind, source := .main default }
  | placed {text score field tag : String} {n : Int} {kind : Kind} {locale : Locale}
      (whole : readWhole score = .ok n) (known : SaysKind field kind)
      (place : SaysLocale default tag locale) :
      Written default [text, score, field, tag] { text, score := n, kind, source := .main locale }

/-- Why fields say no candidate: there is no score, the score is no whole number, or there is no kind of
the name. The first reason counts. -/
inductive Refused (argument : String) : List String → CandidateError → Prop where
  | noScore {fields : List String} (few : fields.length < 2) :
      Refused argument fields (.noScore argument)
  | badScore {text score : String} {more : List String} {e : NumeralError}
      (broken : readWhole score = .error e) : Refused argument (text :: score :: more) (.badScore e)
  | unknownKind {text score field : String} {more : List String} {n : Int}
      (whole : readWhole score = .ok n) (unsaid : ∀ kind, ¬ SaysKind field kind) :
      Refused argument (text :: score :: field :: more) (.unknownKind (Text.upper field))

/-- The fields of an argument: texts without a colon, which make it up with colons between them. -/
structure HasFields (argument : String) (fields : List String) : Prop where
  plain : ∀ field ∈ fields, ':' ∉ field.toList
  some : fields ≠ []
  joined : ":".intercalate fields = argument

/-- An argument has fields in one way. -/
theorem hasFields_iff : HasFields argument fields ↔ fields = Text.splitAt ':' argument := by
  constructor
  · rintro ⟨plain, some, rfl⟩
    exact (Text.splitAt_intercalate plain some).symm
  · rintro rfl
    refine ⟨fun _ => Text.not_mem_of_mem_splitAt, ?_, Text.intercalate_splitAt ':' argument⟩
    rw [Text.splitAt, Ne, List.map_eq_nil_iff]
    exact Text.pieces_ne_nil _ _

/-! ## Reading a kind -/

/-- Kinds differ in their names, in whatever case. -/
theorem upper_name_injective (a b : Kind) (same : Text.upper a.name = Text.upper b.name) : a = b := by
  have listed : ∀ a ∈ Kind.all, ∀ b ∈ Kind.all, Text.upper a.name = Text.upper b.name → a = b := by
    decide +kernel
  exact listed a (by cases a <;> decide) b (by cases b <;> decide) same

theorem readKind_of_saysKind (known : SaysKind field kind) : readKind field = .ok kind := by
  cases known with
  | blank => rfl
  | named name =>
    have some : ¬ field.isEmpty := by
      rw [String.isEmpty_iff]
      rintro rfl
      revert name
      cases kind <;> decide +kernel
    have listed : kind ∈ Kind.all := by cases kind <;> decide
    simp only [readKind, if_neg some]
    cases found : Kind.all.find? fun kind => Text.upper kind.name == Text.upper field with
    | none => exact absurd name.symm (by simpa using List.find?_eq_none.mp found kind listed)
    | some first =>
      have same : Text.upper first.name = Text.upper field := by simpa using List.find?_some found
      rw [upper_name_injective first kind (same.trans name)]

theorem readKind_of_not_saysKind (unsaid : ∀ kind, ¬ SaysKind field kind) :
    readKind field = .error (.unknownKind (Text.upper field)) := by
  have some : ¬ field.isEmpty := by
    rw [String.isEmpty_iff]
    rintro rfl
    exact unsaid _ .blank
  simp only [readKind, if_neg some]
  cases found : Kind.all.find? fun kind => Text.upper kind.name == Text.upper field with
  | none => rfl
  | some first =>
    have same : Text.upper first.name = Text.upper field := by simpa using List.find?_some found
    exact absurd (.named same.symm) (unsaid first)

/-- A field is read as the kind that it says. -/
theorem readKind_eq_ok : readKind field = .ok kind ↔ SaysKind field kind := by
  refine ⟨fun read => ?_, readKind_of_saysKind⟩
  by_cases known : ∃ other, SaysKind field other
  · obtain ⟨other, known⟩ := known
    rw [readKind_of_saysKind known] at read
    exact Except.ok.inj read ▸ known
  · rw [readKind_of_not_saysKind (not_exists.mp known)] at read
    exact nomatch read

/-- A field that says no kind is refused with its name. -/
theorem readKind_eq_error :
    readKind field = .error e ↔
      (∀ kind, ¬ SaysKind field kind) ∧ e = .unknownKind (Text.upper field) := by
  constructor
  · intro refused
    have unsaid : ∀ kind, ¬ SaysKind field kind := by
      intro kind known
      rw [readKind_of_saysKind known] at refused
      exact nomatch refused
    rw [readKind_of_not_saysKind unsaid] at refused
    exact ⟨unsaid, (Except.error.inj refused).symm⟩
  · rintro ⟨unsaid, rfl⟩
    exact readKind_of_not_saysKind unsaid

/-! ## Reading the fields -/

theorem saysLocale_iff :
    SaysLocale default tag locale ↔ (if tag.isEmpty then default else Locale.parse tag) = locale := by
  by_cases none : tag = ""
  · subst none
    rw [if_pos (String.isEmpty_iff.mpr rfl)]
    constructor
    · rintro (_ | some)
      · rfl
      · exact absurd rfl some
    · rintro rfl
      exact .blank
  · rw [if_neg (by simpa using none)]
    constructor
    · rintro (_ | _)
      · exact absurd rfl none
      · rfl
    · rintro rfl
      exact .tagged none

/-- Four fields are read as the candidate that is written in them. -/
theorem ofFields_eq_ok :
    ofFields default text score field tag = .ok c ↔ Written default [text, score, field, tag] c := by
  simp only [ofFields, bind_eq_ok, mapError_eq_ok, readKind_eq_ok, pure_eq_ok]
  constructor
  · rintro ⟨n, whole, kind, known, rfl⟩
    exact .placed whole known (saysLocale_iff.mpr rfl)
  · rintro (_ | _ | ⟨whole, known, place⟩)
    rw [← saysLocale_iff.mp place]
    exact ⟨_, whole, _, known, rfl⟩

theorem ofFields_eq_error :
    ofFields default text score field tag = .error e ↔
      Refused argument [text, score, field, tag] e := by
  simp only [ofFields, bind_eq_error, mapError_eq_error, mapError_eq_ok, readKind_eq_error]
  constructor
  · rintro (⟨e, broken, rfl⟩ | ⟨n, whole, ⟨unsaid, rfl⟩ | ⟨kind, -, done⟩⟩)
    · exact .badScore broken
    · exact .unknownKind whole unsaid
    · exact nomatch done
  · rintro (few | broken | ⟨whole, unsaid⟩)
    · exact absurd few (by simp)
    · exact .inl ⟨_, broken, rfl⟩
    · exact .inr ⟨_, whole, .inl ⟨unsaid, rfl⟩⟩

/-- The empty field says the kind of corrections only. -/
theorem saysKind_blank : SaysKind "" kind ↔ kind = .correction := by
  constructor
  · intro known
    exact Except.ok.inj ((readKind_of_saysKind known).symm.trans (readKind_of_saysKind .blank))
  · rintro rfl
    exact .blank

/-- An empty field at the end says as little as one that is left out. -/
theorem written_blank_behind (rest : List String) (few : rest.length < 2) :
    Written default (text :: score :: rest ++ [""]) c ↔ Written default (text :: score :: rest) c := by
  match rest, few with
  | [], _ =>
    constructor
    · rintro (_ | ⟨whole, known⟩)
      rw [saysKind_blank.mp known]
      exact .scored whole
    · rintro ⟨whole⟩
      exact .named whole .blank
  | [field], _ =>
    constructor
    · rintro (_ | _ | ⟨whole, known, _ | some⟩)
      · exact .named whole known
      · exact absurd rfl some
    · rintro (_ | ⟨whole, known⟩)
      exact .placed whole known .blank

/-- What stands behind the kind is no reason to refuse the fields. -/
theorem Refused.behind_kind {more others : List String}
    (refused : Refused argument (text :: score :: field :: more) e) :
    Refused argument (text :: score :: field :: others) e := by
  rcases refused with few | broken | ⟨whole, unsaid⟩
  · exact absurd few (by simp)
  · exact .badScore broken
  · exact .unknownKind whole unsaid

/-- Nor is an empty field at the end. -/
theorem refused_blank_behind (rest : List String) :
    Refused argument (text :: score :: rest ++ [""]) e ↔ Refused argument (text :: score :: rest) e := by
  cases rest with
  | nil =>
    constructor
    · rintro (few | broken | ⟨-, unsaid⟩)
      · exact absurd few (by simp)
      · exact .badScore broken
      · exact absurd .blank (unsaid .correction)
    · rintro (few | broken)
      · exact absurd few (by simp)
      · exact .badScore broken
  | cons => exact ⟨Refused.behind_kind, Refused.behind_kind⟩

/-- An argument is read as the candidate that is written in the first four of its fields. -/
theorem readFields_eq_ok :
    readFields default argument = .ok c ↔
      Written default ((Text.splitAt ':' argument).take 4) c := by
  rw [readFields]
  match Text.splitAt ':' argument with
  | [] => exact ⟨fun read => (nomatch read), fun written => (nomatch written)⟩
  | [_] => exact ⟨fun read => (nomatch read), fun written => (nomatch written)⟩
  | [text, score] =>
    calc ofFields default text score "" "" = .ok c
      _ ↔ Written default [text, score, "", ""] c := ofFields_eq_ok
      _ ↔ Written default [text, score, ""] c := written_blank_behind [""] (by simp)
      _ ↔ Written default [text, score] c := written_blank_behind [] (by simp)
  | [text, score, field] =>
    calc ofFields default text score field "" = .ok c
      _ ↔ Written default [text, score, field, ""] c := ofFields_eq_ok
      _ ↔ Written default [text, score, field] c := written_blank_behind [field] (by simp)
  | _ :: _ :: _ :: _ :: _ => exact ofFields_eq_ok

/-- It is refused for what the first four of its fields lack. -/
theorem readFields_eq_error :
    readFields default argument = .error e ↔
      Refused argument ((Text.splitAt ':' argument).take 4) e := by
  have missing {fields : List String} (few : fields.length < 2) :
      Except.error (.noScore argument) = (.error e : Except CandidateError Candidate) ↔
        Refused argument fields e := by
    constructor
    · intro same
      exact Except.error.inj same ▸ .noScore few
    · rintro (_ | _ | _)
      · rfl
      all_goals exact absurd few (by simp)
  rw [readFields]
  match Text.splitAt ':' argument with
  | [] => exact missing (by simp)
  | [_] => exact missing (by simp)
  | [text, score] =>
    calc ofFields default text score "" "" = .error e
      _ ↔ Refused argument [text, score, "", ""] e := ofFields_eq_error
      _ ↔ Refused argument [text, score, ""] e := refused_blank_behind [""]
      _ ↔ Refused argument [text, score] e := refused_blank_behind []
  | [text, score, field] =>
    calc ofFields default text score field "" = .error e
      _ ↔ Refused argument [text, score, field, ""] e := ofFields_eq_error
      _ ↔ Refused argument [text, score, field] e := refused_blank_behind [field]
  | _ :: _ :: _ :: _ :: _ => exact ofFields_eq_error

theorem Written.length_le (written : Written default fields c) : fields.length ≤ 4 := by
  cases written <;> simp

/-- A candidate that all fields of an argument write is read. -/
theorem readFields_of_written (written : Written default (Text.splitAt ':' argument) c) :
    readFields default argument = .ok c := by
  rw [readFields_eq_ok, List.take_of_length_le written.length_le]
  exact written

/-- An argument is read as the candidate that is written in the first four of its fields, and it is refused
exactly where these say none. So reading follows the rule that all fields together write the candidate
exactly on the arguments that have four fields at most or are refused: where an argument has more and is not
refused, reading loses the others. -/
theorem readFields_verdict (default : Locale) (argument : String) :
    (∀ c, readFields default argument = .ok c ↔
      ∃ fields, HasFields argument fields ∧ Written default (fields.take 4) c) ∧
    (∀ e, readFields default argument = .error e ↔
      ∃ fields, HasFields argument fields ∧ Refused argument (fields.take 4) e) ∧
    ((∀ c, readFields default argument = .ok c ↔
        ∃ fields, HasFields argument fields ∧ Written default fields c) ↔
      (∃ fields, HasFields argument fields ∧ fields.length ≤ 4) ∨
        ∃ e, readFields default argument = .error e) := by
  simp only [hasFields_iff, exists_eq_left]
  refine ⟨fun _ => readFields_eq_ok, fun _ => readFields_eq_error, ?_, ?_⟩
  · intro rule
    cases read : readFields default argument with
    | error e => exact .inr ⟨e, rfl⟩
    | ok c => exact .inl ((rule c).mp read).length_le
  · rintro (few | ⟨e, refused⟩) c
    · rw [readFields_eq_ok, List.take_of_length_le few]
    · refine ⟨fun read => ?_, readFields_of_written⟩
      rw [read] at refused
      exact nomatch refused

/-- An argument with five fields. -/
def crowdedArgument : String := "the:1000000:whitelist:de_DE:extra"

/-- Its fifth field is lost: what is read is the candidate of the four in front, though no candidate is
written in all five. -/
theorem fifth_field_lost :
    readFields .americanEnglish crowdedArgument = .ok {
        text := "the", score := 1000000, kind := .whitelist
        source := .main { language := "de", country := "DE" } } ∧
      ¬ ∃ fields c, HasFields crowdedArgument fields ∧ Written .americanEnglish fields c := by
  refine ⟨by decide +kernel, ?_⟩
  rintro ⟨fields, c, has, written⟩
  have five : (Text.splitAt ':' crowdedArgument).length = 5 := by decide +kernel
  have few : fields.length ≤ 4 := written.length_le
  rw [hasFields_iff.mp has, five] at few
  exact absurd few (by decide)

end WordStrip.CommandLine
