import WordStrip.Number.Numeral
import WordStrip.SpaceLimit

/-!
# Settings

What stays the same between requests: the threshold that a request starts with, named thresholds
(the presets), the limits on words with spaces by language, and whether suggestions are annotated.
The names of languages are in lower case, as `SpaceLimits.limit?` looks them up.
-/

namespace WordStrip

open WordStrip.Number

/-- The settings of an engine. -/
structure Settings where
  threshold : Float
  spaceLimits : SpaceLimits
  presets : Entries Float
  annotates : Bool

/-- A name that no preset has, with those that are known. -/
structure UnknownPreset where
  name : String
  known : List String
  deriving DecidableEq, Repr

/-- The names that are known, one after the other, or a word that says that nothing is shown. -/
def UnknownPreset.shownNames (e : UnknownPreset) : String :=
  let names := ", ".intercalate e.known
  if names.isEmpty then "none" else names

/-- The wording of a refusal, which is shown as a quoted text. -/
def UnknownPreset.message (e : UnknownPreset) : String :=
  Text.quoted s!"Unknown threshold preset {Text.quoted e.name} (known: {e.shownNames})"

namespace Settings

/-- The threshold without settings. -/
def defaultThreshold : Float := 0.185

/-- The limits without settings. -/
def defaultSpaceLimits : SpaceLimits := [("de", 12)]

/-- The presets without settings. -/
def defaultPresets : Entries Float := [
  ("off", infinity), ("modest", 0.185), ("aggressive", 0.067), ("very_aggressive", -infinity)]

/-- The limits with the names of their languages in lower case; of names that become equal the
first gives the place and the last the limit. -/
def lowerKeys (limits : Entries Int) : SpaceLimits :=
  Entries.ofPairs (limits.map fun (language, limit) => (Text.lower language, limit))

/-- Settings from their parts. -/
def make (threshold : Float) (limits : Entries Int) (presets : Entries Float) (annotates : Bool) :
    Settings :=
  { threshold, spaceLimits := lowerKeys limits, presets, annotates }

/-- The settings without a document. -/
def default : Settings := make defaultThreshold defaultSpaceLimits defaultPresets false

/-- The threshold of a preset. -/
def preset (s : Settings) (name : String) : Except UnknownPreset Float :=
  match Entries.get? s.presets name with
  | some threshold => .ok threshold
  | none => .error ⟨name, (Entries.keys s.presets).mergeSort fun a b => a ≤ b⟩

end Settings

/-- A threshold as it is given from outside: as a number or as a text. -/
inductive ThresholdInput where
  | real (x : Float)
  | whole (n : Int)
  | text (s : String)

/-- The threshold that is meant. -/
def ThresholdInput.read : ThresholdInput → Except NumeralError Float
  | real x => .ok x
  | whole n => floatOfInt n
  | text s => readDecimal s

end WordStrip
