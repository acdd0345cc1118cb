import WordStrip.Json.Basic
import WordStrip.Settings

/-!
# Settings from a document

Settings are an object with four fields, each of which may be missing. The presets are numbers or
words for infinity. The threshold is one of these or the name of a preset, which wins over a word.
The limits are whole numbers above zero. Annotation is any value, read as yes or no.

The fields are checked in that order and the first fault is reported.
-/

namespace WordStrip

open WordStrip.Number

/-- Why a value is no settings. -/
inductive SettingsError where
  | notFields (typeName : String)
  | boolForNumber (field : String)
  | notNumber (field shown : String)
  | tooLarge
  | notShowable
  | notObject (field typeName : String)
  | badLimit (language shown : String)
  deriving DecidableEq, Repr

/-- The wording of a fault. -/
def SettingsError.message : SettingsError → String
  | notFields typeName => s!"'{typeName}' object has no attribute 'get'"
  | boolForNumber field => s!"{field}: expected a number, got bool"
  | notNumber field shown => s!"{field}: expected a number or 'inf'/'-inf', got {shown}"
  | tooLarge => NumeralError.tooLarge.message
  | notShowable => NumeralError.notShowable.message
  | notObject field typeName => s!"{field}: expected dict, got {typeName}"
  | badLimit language shown =>
    s!"max_auto_correct_with_space_length[{Text.quoted language}]: expected positive int, " ++
      s!"got {shown}"

namespace Settings

/-- The field of the presets. -/
def presetsField : String := "threshold_presets"

/-- The field of the threshold. -/
def thresholdField : String := "auto_correction_threshold"

/-- The field of the limits. -/
def limitsField : String := "max_auto_correct_with_space_length"

/-- The field of annotation. -/
def annotationField : String := "debug_suggestions"

/-- The fault of a value that has to be shown to be reported. Of what can keep a value from being shown,
a number with too many digits counts here; that the nesting of a value may be too deep to be shown, though
it could be read, does not. -/
def reported (fault : String → SettingsError) (value : Json) : SettingsError :=
  if value.isShowable then fault value.display else .notShowable

/-- The words for infinity. -/
def infinityWord? (word : String) : Option Float :=
  if word = "inf" ∨ word = "+inf" then some infinity
  else if word = "-inf" then some (-infinity)
  else none

/-- A number or a word for infinity, in any case and with blanks around it. -/
def readThreshold (field : String) (value : Json) : Except SettingsError Float :=
  match value with
  | .bool _ => .error (.boolForNumber field)
  | .whole n => (floatOfInt n).mapError fun _ => .tooLarge
  | .real x => .ok x
  | .text s =>
    match infinityWord? (Text.lower (Text.trim s)) with
    | some x => .ok x
    | none => .error (.notNumber field value.display)
  | _ => .error (reported (.notNumber field) value)

/-- The presets in order. -/
def readPresets : List (String × Json) → Except SettingsError (Entries Float)
  | [] => .ok []
  | (name, value) :: rest => do
    let threshold ← readThreshold s!"{presetsField}[{Text.quoted name}]" value
    return (name, threshold) :: (← readPresets rest)

/-- The limits in order. -/
def readLimits : List (String × Json) → Except SettingsError (Entries Int)
  | [] => .ok []
  | (language, value) :: rest =>
    match value with
    | .whole limit =>
      if 0 < limit then do return (language, limit) :: (← readLimits rest)
      else .error (reported (.badLimit language) value)
    | _ => .error (reported (.badLimit language) value)

/-- The object in a field, which is empty when the field is missing. -/
def objectField (fields : List (String × Json)) (field : String) :
    Except SettingsError (List (String × Json)) :=
  match Entries.get? fields field with
  | none => .ok []
  | some (.object inner) => .ok inner
  | some value => .error (.notObject field value.typeName)

/-- The threshold, given the presets. -/
def readStart (fields : List (String × Json)) (presets : Entries Float) :
    Except SettingsError Float :=
  match Entries.get? fields thresholdField with
  | none => .ok defaultThreshold
  | some (.text s) =>
    match Entries.get? presets s with
    | some threshold => .ok threshold
    | none => readThreshold thresholdField (.text s)
  | some value => readThreshold thresholdField value

/-- The settings that the fields of an object give. -/
def ofFields (fields : List (String × Json)) : Except SettingsError Settings := do
  let presets ← readPresets (← objectField fields presetsField)
  let threshold ← readStart fields presets
  let limits ← readLimits (← objectField fields limitsField)
  let annotates := ((Entries.get? fields annotationField).map Json.isYes).getD false
  return make threshold (lowerKeys limits) presets annotates

/-- The settings that a value gives. -/
def ofJson : Json → Except SettingsError Settings
  | .object fields => ofFields fields
  | value => .error (.notFields value.typeName)

end Settings

end WordStrip
