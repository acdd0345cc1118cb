import WordStrip.Proofs.Basic
import WordStrip.Proofs.Text.Case
import WordStrip.Settings.Reader

/-!
# Which objects are settings

What the fields of settings have to be is said here without their reader: `IsThreshold` and `IsLimit`
for one value, `Valid` for an object, and `Gives` for the settings that an object gives. The reader is
proved against these in `Settings.ofFields_verdict`: it accepts the valid objects and no others, and
gives what they give.

Of the others it reports the form of the first value at fault, with two exceptions that `Escapes` lists.
A whole number that is too large for a double ends the reading with the fault of its conversion. A value
that is no number, or is no limit, is shown in the report, and one that cannot be shown ends the reading
with that fault instead.

Presets and limits are read alike, each by a step over a list (`readPreset`, `readLimit`), so what is
reached and what is not is said once for both (`mapM_ends_iff`).
-/

namespace WordStrip

open WordStrip.Number

/-- Whether a fault is reported as one of form. -/
def SettingsError.isOfForm : SettingsError → Bool
  | boolForNumber _ | notNumber _ _ | notObject _ _ | badLimit _ _ => true
  | tooLarge | notShowable | notFields _ => false

namespace Settings

variable {α : Type} {fields given : List (String × Json)} {field : String} {value : Json}
  {presets : Entries Float} {s : Settings} {e : SettingsError}

/-! ## Values and objects -/

/-- The thresholds that values give: any double, the nearest one to a whole number in their range, and
infinities for words in any case with blanks around them. -/
inductive IsThreshold : Json → Float → Prop
  | real (x : Float) : IsThreshold (.real x) x
  | whole {n : Int} (small : n.natAbs < floatBound) : IsThreshold (.whole n) (Float.ofInt n)
  | positive {text : String} (word : Text.lower (Text.trim text) ∈ ["inf", "+inf"]) :
      IsThreshold (.text text) infinity
  | negative {text : String} (word : Text.lower (Text.trim text) = "-inf") :
      IsThreshold (.text text) (-infinity)

/-- The limits that values give: whole numbers above zero. -/
inductive IsLimit : Json → Int → Prop
  | whole {n : Int} (positive : 0 < n) : IsLimit (.whole n) n

/-- The fields of the object that a field holds, which are none when it is missing. -/
inductive Holds (fields : List (String × Json)) (field : String) : List (String × Json) → Prop
  | missing (absent : Entries.get? fields field = none) : Holds fields field []
  | object {inner : List (String × Json)} (there : Entries.get? fields field = some (.object inner)) :
      Holds fields field inner

/-- Whether entries are given by the fields of an object, name by name and value by value. -/
abbrev EachGives (gives : Json → α → Prop) (given : List (String × Json)) (entries : Entries α) : Prop :=
  List.Forall₂ (fun field entry => entry.1 = field.1 ∧ gives field.2 entry.2) given entries

/-! ## Objects -/

/-- Whether the presets of an object are thresholds. -/
def HasPresets (fields presets : List (String × Json)) : Prop :=
  Holds fields presetsField presets ∧ ∀ preset ∈ presets, ∃ x, IsThreshold preset.2 x

/-- Whether the threshold of an object is missing, the name of a preset or a threshold. -/
def HasStart (fields presets : List (String × Json)) : Prop :=
  ∀ value, Entries.get? fields thresholdField = some value →
    (∃ name ∈ Entries.keys presets, value = .text name) ∨ ∃ x, IsThreshold value x

/-- Whether the limits of an object are limits. -/
def HasLimits (fields : List (String × Json)) : Prop :=
  ∃ limits, Holds fields limitsField limits ∧ ∀ limit ∈ limits, ∃ n, IsLimit limit.2 n

/-- Whether an object is that of settings. -/
def Valid (fields : List (String × Json)) : Prop :=
  ∃ presets, HasPresets fields presets ∧ HasStart fields presets ∧ HasLimits fields

/-- The threshold that an object starts with, where the name of a preset wins over a word. -/
inductive Starts (fields : List (String × Json)) (presets : Entries Float) : Float → Prop
  | missing (absent : Entries.get? fields thresholdField = none) :
      Starts fields presets defaultThreshold
  | preset {name : String} {x : Float} (there : Entries.get? fields thresholdField = some (.text name))
      (known : Entries.get? presets name = some x) : Starts fields presets x
  | value {value : Json} {x : Float} (there : Entries.get? fields thresholdField = some value)
      (unknown : ∀ name, value = .text name → Entries.get? presets name = none)
      (reads : IsThreshold value x) : Starts fields presets x

/-- The settings that an object gives. -/
structure Gives (fields : List (String × Json)) (s : Settings) : Prop where
  presets : ∃ given, Holds fields presetsField given ∧ EachGives IsThreshold given s.presets
  threshold : Starts fields s.presets s.threshold
  limits : ∃ given limits, Holds fields limitsField given ∧ EachGives IsLimit given limits ∧
    s.spaceLimits = lowerKeys limits
  annotates : s.annotates = ((Entries.get? fields annotationField).map Json.isYes).getD false

/-! ## Values that end the reading -/

/-- The values in the place of a threshold that end the reading without a report of their form. -/
inductive EndsThreshold : Json → SettingsError → Prop
  | tooLarge {n : Int} (large : floatBound ≤ n.natAbs) : EndsThreshold (.whole n) .tooLarge
  | notShowable {value : Json} (other : ∀ n, value ≠ .whole n) (hidden : value.isShowable = false) :
      EndsThreshold value .notShowable

/-- The values in the place of a limit that do so. -/
inductive EndsLimit : Json → SettingsError → Prop
  | notShowable {value : Json} (bad : ¬ ∃ n, IsLimit value n) (hidden : value.isShowable = false) :
      EndsLimit value .notShowable

/-- Whether the reading of fields comes to a value: those before it are fine. -/
def Reaches (fine : Json → Prop) (fields : List (String × Json)) (value : Json) : Prop :=
  ∃ front name back, fields = front ++ (name, value) :: back ∧ ∀ entry ∈ front, fine entry.2

/-- The ways in which an object that is no settings is not reported as such. -/
inductive Escapes (fields : List (String × Json)) : SettingsError → Prop
  | preset {presets : List (String × Json)} {value : Json} {e : SettingsError}
      (held : Holds fields presetsField presets)
      (reached : Reaches (fun value => ∃ x, IsThreshold value x) presets value)
      (ends : EndsThreshold value e) : Escapes fields e
  | start {presets : List (String × Json)} {value : Json} {e : SettingsError}
      (before : HasPresets fields presets) (there : Entries.get? fields thresholdField = some value)
      (ends : EndsThreshold value e) : Escapes fields e
  | limit {presets limits : List (String × Json)} {value : Json} {e : SettingsError}
      (before : HasPresets fields presets) (started : HasStart fields presets)
      (held : Holds fields limitsField limits)
      (reached : Reaches (fun value => ∃ n, IsLimit value n) limits value)
      (ends : EndsLimit value e) : Escapes fields e

/-! ## Single values -/

theorem floatOfInt_eq_ok {n : Int} {x : Float} :
    floatOfInt n = .ok x ↔ n.natAbs < floatBound ∧ Float.ofInt n = x := by
  rw [floatOfInt, ite_error_eq_ok, Nat.not_le, Except.ok.injEq]

theorem infinityWord?_eq_some {word : String} {x : Float} :
    infinityWord? word = some x ↔
      word ∈ ["inf", "+inf"] ∧ infinity = x ∨ word = "-inf" ∧ -infinity = x := by
  unfold infinityWord?
  by_cases up : word = "inf" ∨ word = "+inf"
  · have other : word ≠ "-inf" := by
      rintro rfl
      exact absurd up (by decide)
    simp [up, other]
  · by_cases down : word = "-inf"
    · simp [down]
    · simp [up, down]

/-- A text is read as a threshold when it is a word for infinity. -/
theorem readThreshold_text {text : String} {x : Float} :
    readThreshold field (.text text) = .ok x ↔
      infinityWord? (Text.lower (Text.trim text)) = some x := by
  rw [readThreshold]
  cases infinityWord? (Text.lower (Text.trim text)) <;> simp

/-- A value is read as a threshold when it is one. -/
theorem readThreshold_eq_ok {x : Float} :
    readThreshold field value = .ok x ↔ IsThreshold value x := by
  cases value with
  | whole n =>
    rw [readThreshold, mapError_eq_ok, floatOfInt_eq_ok]
    constructor
    · rintro ⟨small, rfl⟩
      exact .whole small
    · rintro (_ | small)
      exact ⟨small, rfl⟩
  | real y =>
    rw [readThreshold, Except.ok.injEq]
    constructor
    · rintro rfl
      exact .real y
    · rintro ⟨⟩
      rfl
  | text t =>
    rw [readThreshold_text, infinityWord?_eq_some]
    constructor
    · rintro (⟨word, rfl⟩ | ⟨word, rfl⟩)
      · exact .positive word
      · exact .negative word
    · rintro (_ | _ | word | word)
      · exact .inl ⟨word, rfl⟩
      · exact .inr ⟨word, rfl⟩
  | null | bool | list | object => exact ⟨nofun, nofun⟩

/-- A fault that shows a value is one of form where the value can be shown. -/
theorem reported_eq {fault : String → SettingsError} (form : ∀ shown, (fault shown).isOfForm = true) :
    reported fault value = e ∧ e.isOfForm = false ↔ value.isShowable = false ∧ e = .notShowable := by
  unfold reported
  cases value.isShowable with
  | true =>
    rw [if_pos rfl]
    refine ⟨?_, nofun⟩
    rintro ⟨rfl, other⟩
    exact nomatch (form _).symm.trans other
  | false =>
    rw [if_neg (by simp)]
    refine ⟨fun ⟨same, _⟩ => ⟨rfl, same.symm⟩, ?_⟩
    rintro ⟨-, rfl⟩
    exact ⟨rfl, rfl⟩

theorem endsThreshold_iff (other : ∀ n, value ≠ .whole n) :
    EndsThreshold value e ↔ value.isShowable = false ∧ e = .notShowable := by
  constructor
  · rintro (_ | ⟨-, hidden⟩)
    · exact absurd rfl (other _)
    · exact ⟨hidden, rfl⟩
  · rintro ⟨hidden, rfl⟩
    exact .notShowable other hidden

/-- The values in the place of a threshold whose form is not reported. -/
theorem readThreshold_ends_iff :
    readThreshold field value = .error e ∧ e.isOfForm = false ↔ EndsThreshold value e := by
  cases value with
  | whole n =>
    rw [readThreshold, mapError_eq_error]
    constructor
    · rintro ⟨⟨fault, failed, rfl⟩, -⟩
      refine .tooLarge (Nat.not_lt.mp fun small => ?_)
      exact nomatch (floatOfInt_eq_ok.mpr ⟨small, rfl⟩).symm.trans failed
    · rintro (large | ⟨other, -⟩)
      · exact ⟨⟨_, if_pos large, rfl⟩, rfl⟩
      · exact absurd rfl (other n)
  | text t =>
    rw [endsThreshold_iff (by simp), readThreshold]
    refine ⟨?_, nofun⟩
    cases infinityWord? (Text.lower (Text.trim t)) with
    | some x => exact nofun
    | none =>
      rintro ⟨⟨⟩, other⟩
      exact nomatch other
  | bool b =>
    rw [endsThreshold_iff (by simp), readThreshold]
    refine ⟨?_, nofun⟩
    rintro ⟨⟨⟩, other⟩
    exact nomatch other
  | real x =>
    rw [endsThreshold_iff (by simp), readThreshold]
    exact ⟨nofun, nofun⟩
  | null | list | object =>
    show Except.error (reported (.notNumber field) _) = .error e ∧ _ ↔ _
    rw [endsThreshold_iff (by simp), Except.error.injEq, reported_eq fun _ => rfl]

/-! ## Steps over fields -/

/-- A preset with its threshold. -/
def readPreset (preset : String × Json) : Except SettingsError (String × Float) := do
  let threshold ← readThreshold s!"{presetsField}[{Text.quoted preset.1}]" preset.2
  return (preset.1, threshold)

/-- A language with its limit. -/
def readLimit (entry : String × Json) : Except SettingsError (String × Int) :=
  match entry.2 with
  | .whole limit =>
    if 0 < limit then .ok (entry.1, limit) else .error (reported (.badLimit entry.1) entry.2)
  | _ => .error (reported (.badLimit entry.1) entry.2)

theorem readPresets_eq (given : List (String × Json)) : readPresets given = given.mapM readPreset := by
  induction given with
  | nil => rfl
  | cons preset rest ih => simp [readPresets, readPreset, ih]

theorem readLimits_eq (given : List (String × Json)) : readLimits given = given.mapM readLimit := by
  induction given with
  | nil => rfl
  | cons entry rest ih =>
    obtain ⟨language, value⟩ := entry
    rw [List.mapM_cons, ← ih]
    cases value with
    | whole limit =>
      simp only [readLimits, readLimit]
      split <;> rfl
    | null | bool | real | text | list | object => rfl

theorem readPreset_eq_ok {preset : String × Json} {entry : String × Float} :
    readPreset preset = .ok entry ↔ entry.1 = preset.1 ∧ IsThreshold preset.2 entry.2 := by
  obtain ⟨name, x⟩ := entry
  simp only [readPreset, bind_eq_ok, pure_eq_ok, readThreshold_eq_ok, Prod.mk.injEq]
  constructor
  · rintro ⟨y, reads, same, rfl⟩
    exact ⟨same.symm, reads⟩
  · rintro ⟨same, reads⟩
    exact ⟨x, reads, same.symm, rfl⟩

theorem readPreset_ends_iff {preset : String × Json} :
    readPreset preset = .error e ∧ e.isOfForm = false ↔ EndsThreshold preset.2 e := by
  rw [readPreset, bind_eq_error, ← readThreshold_ends_iff]
  refine and_congr_left fun _ => or_iff_left ?_
  rintro ⟨_, _, done⟩
  exact nomatch done

/-- A whole number is a limit, its own, when it is above zero. -/
theorem isLimit_whole {n limit : Int} : IsLimit (.whole n) limit ↔ 0 < n ∧ n = limit := by
  constructor
  · rintro ⟨positive⟩
    exact ⟨positive, rfl⟩
  · rintro ⟨positive, rfl⟩
    exact .whole positive

theorem readLimit_eq_ok {given : String × Json} {entry : String × Int} :
    readLimit given = .ok entry ↔ entry.1 = given.1 ∧ IsLimit given.2 entry.2 := by
  obtain ⟨language, value⟩ := given
  obtain ⟨name, limit⟩ := entry
  cases value with
  | whole n =>
    rw [isLimit_whole, readLimit]
    dsimp only
    split <;> simp [*, eq_comm]
  | null | bool | real | text | list | object => exact ⟨nofun, nofun⟩

/-- What is no limit is reported. -/
theorem readLimit_eq_error {given : String × Json} :
    readLimit given = .error e ↔
      (¬ ∃ n, IsLimit given.2 n) ∧ reported (.badLimit given.1) given.2 = e := by
  obtain ⟨language, value⟩ := given
  cases value with
  | whole n =>
    simp only [isLimit_whole, readLimit]
    split <;> simp [*]
  | null | bool | real | text | list | object =>
    refine ⟨fun failed => ⟨?_, Except.error.inj failed⟩, fun ⟨_, same⟩ => congrArg _ same⟩
    rintro ⟨n, ⟨⟩⟩

theorem readLimit_ends_iff {given : String × Json} :
    readLimit given = .error e ∧ e.isOfForm = false ↔ EndsLimit given.2 e := by
  rw [readLimit_eq_error, and_assoc, reported_eq fun _ => rfl]
  constructor
  · rintro ⟨bad, hidden, rfl⟩
    exact .notShowable bad hidden
  · rintro ⟨bad, hidden⟩
    exact ⟨bad, hidden, rfl⟩

/-- Entries can be given for fields when one can be given for each of them. -/
theorem exists_eachGives {gives : Json → α → Prop} :
    (∃ entries, EachGives gives given entries) ↔ ∀ field ∈ given, ∃ a, gives field.2 a := by
  induction given with
  | nil => exact ⟨fun _ => nofun, fun _ => ⟨[], .nil⟩⟩
  | cons field rest ih =>
    rw [List.forall_mem_cons, ← ih]
    constructor
    · rintro ⟨_, ⟨_, reads⟩ | ⟨⟨_, first⟩, later⟩⟩
      exact ⟨⟨_, first⟩, _, later⟩
    · rintro ⟨⟨a, first⟩, entries, later⟩
      exact ⟨(field.1, a) :: entries, .cons ⟨rfl, first⟩ later⟩

theorem keys_eq_of_eachGives {gives : Json → α → Prop} {entries : Entries α}
    (each : EachGives gives given entries) : Entries.keys entries = Entries.keys given := by
  induction each with
  | nil => rfl
  | cons first _ ih => exact congrArg₂ List.cons first.1 ih

theorem exists_value_of_eachGives {gives : Json → α → Prop} {entries : Entries α}
    (each : EachGives gives given entries) : ∀ entry ∈ entries, ∃ value, gives value entry.2 := by
  induction each with
  | nil => exact nofun
  | cons first _ ih => exact List.forall_mem_cons.mpr ⟨⟨_, first.2⟩, ih⟩

/-- A step over fields ends the reading on the first field that it does not read, if it does so there. -/
theorem mapM_ends_iff {step : String × Json → Except SettingsError (String × α)}
    {gives : Json → α → Prop} {ends : Json → SettingsError → Prop}
    (reads : ∀ field entry, step field = .ok entry ↔ entry.1 = field.1 ∧ gives field.2 entry.2)
    (stops : ∀ field e, step field = .error e ∧ e.isOfForm = false ↔ ends field.2 e) :
    given.mapM step = .error e ∧ e.isOfForm = false ↔
      ∃ value, Reaches (fun value => ∃ a, gives value a) given value ∧ ends value e := by
  have fine (field : String × Json) : (∃ entry, step field = .ok entry) ↔ ∃ a, gives field.2 a := by
    constructor
    · rintro ⟨entry, read⟩
      exact ⟨entry.2, ((reads field entry).mp read).2⟩
    · rintro ⟨a, given⟩
      exact ⟨(field.1, a), (reads field (field.1, a)).mpr ⟨rfl, given⟩⟩
  simp only [mapM_eq_error, fine]
  constructor
  · rintro ⟨⟨front, ⟨name, value⟩, back, split, before, failed⟩, other⟩
    exact ⟨value, ⟨front, name, back, split, before⟩, (stops (name, value) e).mp ⟨failed, other⟩⟩
  · rintro ⟨value, ⟨front, name, back, split, before⟩, ended⟩
    obtain ⟨failed, other⟩ := (stops (name, value) e).mpr ended
    exact ⟨⟨front, (name, value), back, split, before, failed⟩, other⟩

theorem readPresets_eq_ok : readPresets given = .ok presets ↔ EachGives IsThreshold given presets := by
  simp only [readPresets_eq, mapM_eq_ok, readPreset_eq_ok]

theorem readPresets_ends_iff :
    readPresets given = .error e ∧ e.isOfForm = false ↔
      ∃ value, Reaches (fun value => ∃ x, IsThreshold value x) given value ∧ EndsThreshold value e := by
  rw [readPresets_eq]
  exact mapM_ends_iff (fun _ _ => readPreset_eq_ok) fun _ _ => readPreset_ends_iff

theorem readLimits_eq_ok {limits : Entries Int} :
    readLimits given = .ok limits ↔ EachGives IsLimit given limits := by
  simp only [readLimits_eq, mapM_eq_ok, readLimit_eq_ok]

theorem readLimits_ends_iff :
    readLimits given = .error e ∧ e.isOfForm = false ↔
      ∃ value, Reaches (fun value => ∃ n, IsLimit value n) given value ∧ EndsLimit value e := by
  rw [readLimits_eq]
  exact mapM_ends_iff (fun _ _ => readLimit_eq_ok) fun _ _ => readLimit_ends_iff

/-! ## Fields of settings -/

theorem objectField_eq_ok : objectField fields field = .ok given ↔ Holds fields field given := by
  unfold objectField
  constructor
  · intro read
    split at read
    · obtain rfl := Except.ok.inj read
      exact .missing ‹_›
    · obtain rfl := Except.ok.inj read
      exact .object ‹_›
    · exact nomatch read
  · rintro (absent | there)
    · rw [absent]
    · rw [there]

/-- A field with something else than an object is reported. -/
theorem isOfForm_of_objectField (failed : objectField fields field = .error e) : e.isOfForm = true := by
  unfold objectField at failed
  split at failed
  · exact nomatch failed
  · exact nomatch failed
  · rw [← Except.error.inj failed]
    rfl

/-- How an object starts that has a threshold. -/
theorem starts_iff {x : Float} (there : Entries.get? fields thresholdField = some value) :
    Starts fields presets x ↔
      (∃ name, value = .text name ∧ Entries.get? presets name = some x) ∨
        (∀ name, value = .text name → Entries.get? presets name = none) ∧ IsThreshold value x := by
  constructor
  · rintro (absent | ⟨named, known⟩ | ⟨same, unknown, reads⟩)
    · exact nomatch there.symm.trans absent
    · exact .inl ⟨_, Option.some.inj (there.symm.trans named), known⟩
    · obtain rfl := Option.some.inj (there.symm.trans same)
      exact .inr ⟨unknown, reads⟩
  · rintro (⟨name, rfl, known⟩ | ⟨unknown, reads⟩)
    · exact .preset there known
    · exact .value there unknown reads

theorem readStart_eq_ok {x : Float} :
    readStart fields presets = .ok x ↔ Starts fields presets x := by
  unfold readStart
  cases there : Entries.get? fields thresholdField with
  | none =>
    constructor
    · intro read
      obtain rfl := Except.ok.inj read
      exact .missing there
    · rintro (_ | ⟨other, _⟩ | ⟨other, _, _⟩)
      · rfl
      all_goals exact nomatch there.symm.trans other
  | some value =>
    rw [starts_iff there]
    cases value with
    | text name => cases known : Entries.get? presets name <;> simp [known, readThreshold_eq_ok]
    | null | bool | whole | real | list | object => simp [readThreshold_eq_ok]

theorem readStart_ends_iff :
    readStart fields presets = .error e ∧ e.isOfForm = false ↔
      ∃ value, Entries.get? fields thresholdField = some value ∧ EndsThreshold value e := by
  unfold readStart
  cases there : Entries.get? fields thresholdField with
  | none => exact ⟨nofun, nofun⟩
  | some value =>
    simp only [Option.some.injEq, exists_eq_left']
    cases value with
    | text name =>
      cases known : Entries.get? presets name with
      | none => simp only [known, readThreshold_ends_iff]
      | some x =>
        rw [endsThreshold_iff (by simp)]
        simp only [known]
        exact ⟨nofun, nofun⟩
    | null | bool | whole | real | list | object => exact readThreshold_ends_iff

/-- A threshold is there to start with when it is missing, the name of a preset or a threshold. -/
theorem exists_starts (each : EachGives IsThreshold given presets) :
    (∃ x, Starts fields presets x) ↔ HasStart fields given := by
  unfold HasStart
  cases there : Entries.get? fields thresholdField with
  | none => exact ⟨fun _ => nofun, fun _ => ⟨_, .missing there⟩⟩
  | some value =>
    simp only [starts_iff there, Option.some.injEq, forall_eq', ← keys_eq_of_eachGives each]
    constructor
    · rintro ⟨x, ⟨name, rfl, known⟩ | ⟨-, reads⟩⟩
      · refine .inl ⟨name, ?_, rfl⟩
        by_contra unknown
        exact nomatch known.symm.trans (Entries.get?_eq_none.mpr unknown)
      · exact .inr ⟨x, reads⟩
    · intro either
      by_cases named : ∃ name, value = .text name ∧ Entries.get? presets name ≠ none
      · obtain ⟨name, rfl, known⟩ := named
        obtain ⟨x, known⟩ := Option.ne_none_iff_exists'.mp known
        exact ⟨x, .inl ⟨name, rfl, known⟩⟩
      · have unknown (name : String) (same : value = .text name) : Entries.get? presets name = none := by
          by_contra known
          exact named ⟨name, same, known⟩
        obtain ⟨name, known, same⟩ | ⟨x, reads⟩ := either
        · exact absurd known (Entries.get?_eq_none.mp (unknown name same))
        · exact ⟨x, .inr ⟨unknown, reads⟩⟩

/-! ## Languages -/

/-- The name of a language that has a limit is in lower case. -/
theorem lower_of_mem_lowerKeys {limits : Entries Int} {entry : String × Int}
    (mem : entry ∈ lowerKeys limits) :
    Text.lower entry.1 = entry.1 ∧ ∃ language, (language, entry.2) ∈ limits := by
  obtain ⟨⟨language, limit⟩, given, rfl⟩ := List.mem_map.mp (Entries.mem_of_mem_ofPairs entry mem)
  exact ⟨Text.lower_lower language, language, given⟩

/-- Names in lower case are left: the second lower-casing of the limits that were read does nothing. -/
theorem lowerKeys_lowerKeys (limits : Entries Int) : lowerKeys (lowerKeys limits) = lowerKeys limits := by
  have unique : (Entries.keys (lowerKeys limits)).Nodup := Entries.nodup_keys_ofPairs _
  refine Eq.trans (congrArg Entries.ofPairs ?_) (Entries.ofPairs_of_nodup unique)
  refine (List.map_congr_left fun entry mem => ?_).trans (List.map_id _)
  exact Prod.ext (lower_of_mem_lowerKeys mem).1 rfl

/-! ## Objects -/

theorem ofFields_eq_ok : ofFields fields = .ok s ↔ Gives fields s := by
  simp only [ofFields, bind_eq_ok, pure_eq_ok, objectField_eq_ok, readPresets_eq_ok, readStart_eq_ok,
    readLimits_eq_ok]
  constructor
  · rintro ⟨given, held, presets, each, threshold, start, given', held', limits, each', rfl⟩
    exact ⟨⟨given, held, each⟩, start, ⟨given', limits, held', each', lowerKeys_lowerKeys limits⟩, rfl⟩
  · rintro ⟨⟨given, held, each⟩, start, ⟨given', limits, held', each', same⟩, annotates⟩
    refine ⟨given, held, _, each, _, start, given', held', limits, each', ?_⟩
    rw [make, lowerKeys_lowerKeys, ← same, ← annotates]

/-- An object gives settings when it is that of settings. -/
theorem exists_gives : (∃ s, Gives fields s) ↔ Valid fields := by
  constructor
  · rintro ⟨s, ⟨given, held, each⟩, start, ⟨given', limits, held', each', -⟩, -⟩
    exact ⟨given, ⟨held, exists_eachGives.mp ⟨_, each⟩⟩, (exists_starts each).mp ⟨_, start⟩,
      given', held', exists_eachGives.mp ⟨_, each'⟩⟩
  · rintro ⟨given, ⟨held, thresholds⟩, started, given', held', fine⟩
    obtain ⟨presets, each⟩ := exists_eachGives.mpr thresholds
    obtain ⟨threshold, start⟩ := (exists_starts each).mpr started
    obtain ⟨limits, each'⟩ := exists_eachGives.mpr fine
    exact ⟨⟨threshold, lowerKeys limits, presets, _⟩, ⟨given, held, each⟩, start,
      ⟨given', limits, held', each', rfl⟩, rfl⟩

/-- The ways in which reading ends without a report of form. -/
theorem ofFields_escapes_iff :
    ofFields fields = .error e ∧ e.isOfForm = false ↔ Escapes fields e := by
  simp only [ofFields, bind_eq_error, objectField_eq_ok, readPresets_eq_ok, readStart_eq_ok]
  constructor
  · rintro ⟨failed | ⟨given, held, failed | ⟨presets, each, failed | ⟨threshold, start, failed |
      ⟨limits, held', failed | ⟨_, _, done⟩⟩⟩⟩⟩, other⟩
    · exact nomatch (isOfForm_of_objectField failed).symm.trans other
    · obtain ⟨value, reached, ends⟩ := readPresets_ends_iff.mp ⟨failed, other⟩
      exact .preset held reached ends
    · obtain ⟨value, there, ends⟩ := readStart_ends_iff.mp ⟨failed, other⟩
      exact .start ⟨held, exists_eachGives.mp ⟨_, each⟩⟩ there ends
    · exact nomatch (isOfForm_of_objectField failed).symm.trans other
    · obtain ⟨value, reached, ends⟩ := readLimits_ends_iff.mp ⟨failed, other⟩
      exact .limit ⟨held, exists_eachGives.mp ⟨_, each⟩⟩ ((exists_starts each).mp ⟨_, start⟩) held'
        reached ends
    · exact nomatch done
  · rintro (⟨held, reached, ends⟩ | ⟨⟨held, thresholds⟩, there, ends⟩ |
      ⟨⟨held, thresholds⟩, started, held', reached, ends⟩)
    · obtain ⟨failed, other⟩ := readPresets_ends_iff.mpr ⟨_, reached, ends⟩
      exact ⟨.inr ⟨_, held, .inl failed⟩, other⟩
    · obtain ⟨presets, each⟩ := exists_eachGives.mpr thresholds
      obtain ⟨failed, other⟩ := readStart_ends_iff.mpr ⟨_, there, ends⟩
      exact ⟨.inr ⟨_, held, .inr ⟨presets, each, .inl failed⟩⟩, other⟩
    · obtain ⟨presets, each⟩ := exists_eachGives.mpr thresholds
      obtain ⟨threshold, start⟩ := (exists_starts each).mpr started
      obtain ⟨failed, other⟩ := readLimits_ends_iff.mpr ⟨_, reached, ends⟩
      exact ⟨.inr ⟨_, held, .inr ⟨presets, each, .inr ⟨threshold, start,
        .inr ⟨_, held', .inl failed⟩⟩⟩⟩, other⟩

/-- The verdict on an object: it is accepted exactly when it is that of settings, and gives these; the
names of its languages are in lower case then, and its limits are above zero. An object that is no
settings is reported as such but for the ways that `Escapes` lists, and each of these is one. -/
theorem ofFields_verdict (fields : List (String × Json)) :
    ((∃ s, ofFields fields = .ok s) ↔ Valid fields) ∧
      (∀ s, ofFields fields = .ok s →
        Gives fields s ∧ ∀ entry ∈ s.spaceLimits, Text.lower entry.1 = entry.1 ∧ 0 < entry.2) ∧
      ∀ e, ofFields fields = .error e ∧ e.isOfForm = false ↔ Escapes fields e := by
  refine ⟨?_, fun s read => ?_, fun e => ofFields_escapes_iff⟩
  · simp only [ofFields_eq_ok, exists_gives]
  · have gives : Gives fields s := ofFields_eq_ok.mp read
    refine ⟨gives, fun entry mem => ?_⟩
    obtain ⟨given, limits, -, each, same⟩ := gives.limits
    obtain ⟨lowered, language, known⟩ := lower_of_mem_lowerKeys (same ▸ mem)
    obtain ⟨value, ⟨positive⟩⟩ := exists_value_of_eachGives each _ known
    exact ⟨lowered, positive⟩

/-- An object with a preset that has the name of an infinity, which is also its threshold. -/
def shadowing : List (String × Json) := [
  (presetsField, .object [("-inf", .whole 1)]), (thresholdField, .text "-inf"),
  (limitsField, .object [("DE", .whole 12)])]

/-- What it gives: the preset wins over the word, and the language is lowered. -/
def shadowed : Settings where
  threshold := Float.ofInt 1
  spaceLimits := [("de", 12)]
  presets := [("-inf", Float.ofInt 1)]
  annotates := false

theorem gives_shadowed : Gives shadowing shadowed where
  presets := ⟨_, .object rfl, .cons ⟨rfl, .whole (by decide +kernel)⟩ .nil⟩
  threshold := .preset rfl rfl
  limits := ⟨_, [("DE", 12)], .object rfl, .cons ⟨rfl, .whole (by decide)⟩ .nil, by decide +kernel⟩
  annotates := rfl

/-- An object with a threshold that no double holds. -/
def hugeThreshold : List (String × Json) := [(thresholdField, .whole (Nat.pow 10 400))]

/-- The settings that shadow a word are read and are as they have to be. The object with the huge
threshold is not that of settings, and its fault is not reported as one of form. -/
theorem hugeThreshold_escapes :
    (ofFields shadowing = .ok shadowed ∧
        ∀ entry ∈ shadowed.spaceLimits, Text.lower entry.1 = entry.1 ∧ 0 < entry.2) ∧
      (ofFields hugeThreshold = .error .tooLarge ∧ SettingsError.tooLarge.isOfForm = false) ∧
      ¬ Valid hugeThreshold := by
  obtain ⟨accepted, -, escapes⟩ := ofFields_verdict hugeThreshold
  have read : ofFields shadowing = .ok shadowed := ofFields_eq_ok.mpr gives_shadowed
  have large : floatBound ≤ (Nat.pow 10 400 : Int).natAbs := by decide +kernel
  have bare : HasPresets hugeThreshold [] := ⟨.missing rfl, nofun⟩
  have failed := (escapes .tooLarge).mpr (.start bare rfl (.tooLarge large))
  refine ⟨⟨read, ((ofFields_verdict shadowing).2.1 _ read).2⟩, failed, fun valid => ?_⟩
  obtain ⟨s, given⟩ := accepted.mpr valid
  exact nomatch failed.1.symm.trans given

end Settings

end WordStrip
