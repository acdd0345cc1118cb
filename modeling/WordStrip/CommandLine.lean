import WordStrip.CommandLine.Options
import WordStrip.Engine
import WordStrip.Json.Printer
import WordStrip.Workspace

/-!
# The command

The command answers one request: it loads the settings, reads the candidates from its arguments,
and prints the strip as JSON. The trace goes to the error output, and so does a failure, behind the
trace that was left before it. Arguments that cannot be used are a failure of their own kind, told
apart by the exit code.
-/

namespace WordStrip.CommandLine

open WordStrip.Number

/-! ## Candidates -/

/-- Why an argument is no candidate. -/
inductive CandidateError where
  | nothing
  | noScore (argument : String)
  | badScore (e : NumeralError)
  | unknownKind (name : String)
  deriving DecidableEq, Repr

/-- The wording of a refusal. -/
def CandidateError.message : CandidateError → String
  | nothing => "'list' object has no attribute 'split'"
  | noScore argument =>
    "expected TEXT:SCORE[:KIND[:LOCALE]], got " ++ Text.quoted argument
  | badScore e => e.message
  | unknownKind name => Text.quoted name

/-- The kind that a field names, in any case; an empty field names the kind of corrections. -/
def readKind (field : String) : Except CandidateError Kind :=
  if field.isEmpty then .ok .correction
  else
    let name := Text.upper field
    match Kind.all.find? fun kind => Text.upper kind.name == name with
    | some kind => .ok kind
    | none => .error (.unknownKind name)

/-- The candidate with a text, a score, and perhaps a kind and a locale. -/
def ofFields (default : Locale) (text score kind locale : String) :
    Except CandidateError Candidate := do
  let score ← (readWhole score).mapError .badScore
  let kind ← readKind kind
  let locale := if locale.isEmpty then default else Locale.parse locale
  return { text, score, kind, source := .main locale }

/-- The candidate that a text writes in fields between colons; fields behind the fourth do not
count. -/
def readFields (default : Locale) (argument : String) : Except CandidateError Candidate :=
  match Text.splitAt ':' argument with
  | text :: score :: kind :: locale :: _ => ofFields default text score kind locale
  | [text, score, kind] => ofFields default text score kind ""
  | [text, score] => ofFields default text score "" ""
  | _ => .error (.noScore argument)

/-- The candidate that its option is given. -/
def readCandidate (default : Locale) : OptionValue → Except CandidateError Candidate
  | .text argument => readFields default argument
  | .nothing => .error .nothing

/-! ## Running -/

/-- Why the command fails once its arguments are understood. -/
inductive Failure where
  | settings (e : LoadError)
  | candidate (e : CandidateError)
  | noThreshold
  | preset (e : UnknownPreset)
  | noCaps
  | score (e : NumeralError)
  deriving DecidableEq, Repr

/-- The wording of a failure. -/
def Failure.message : Failure → String
  | settings e => e.message
  | candidate e => e.message
  | noThreshold => "float() argument must be a string or a real number, not 'list'"
  | preset e => e.message
  | noCaps => "[] is not a valid CapsMode"
  | score e => e.message

/-- What the command leaves: its exit code and what it wrote. -/
structure Output where
  exit : Nat
  standard : String := ""
  error : String := ""
  deriving DecidableEq, Repr

/-- The threshold that an argument gives, as a number or as the name of a preset. -/
def readThreshold (settings : Settings) (argument : Option OptionValue) :
    Except Failure Float :=
  match argument with
  | none => .ok settings.threshold
  | some .nothing => .error .noThreshold
  | some (.text text) =>
    match readDecimal text with
    | .ok threshold => .ok threshold
    | .error _ => (settings.preset text).mapError .preset

/-- The request that the arguments make with a mode of capitals. -/
def Arguments.requestWith (a : Arguments) (caps : CapsMode) : Request where
  word := {
    text := a.typed, caps, isResumed := a.resumed, isGesture := a.batch, rejected := a.rejected }
  correctionEnabled := !a.noCorrection
  style := if a.batch then .tailBatch else .typing

/-- The request that the arguments make. -/
def Arguments.request (a : Arguments) : Except Failure Request :=
  match a.caps with
  | some caps => .ok (a.requestWith caps)
  | none => .error .noCaps

/-- The reply to the request that the arguments make. -/
def Arguments.reply (a : Arguments) (w : Workspace) : Except Failure Reply := do
  let settings ← ((w.loadSettings Workspace.settingsName none).1).mapError .settings
  let locale := Locale.parse a.locale
  let candidates ← (a.candidates.mapM (readCandidate locale)).mapError .candidate
  let threshold ← readThreshold settings a.threshold
  let lookup : Lookup := {
    results := { candidates }, locale, hasMainDictionary := !a.noMainDictionary }
  return (← a.request).answer settings threshold lookup

/-- What is printed of a suggestion. -/
def suggestionJson (c : Candidate) : Json := .object [
  ("text", .text c.text), ("score", .whole c.score), ("kind", .text c.kind.name),
  ("debug", .text c.note)]

/-- What is printed of a strip. -/
def stripJson (s : Strip) : Json := .object [
  ("suggestions", .list (s.suggestions.map suggestionJson)),
  ("typed_word_valid", .bool s.typedWordValid),
  ("will_auto_correct", .bool s.willAutoCorrect),
  ("input_style", .text s.style.name),
  ("sequence_number", .whole s.sequence)]

/-- The line that reports a failure. -/
def failureLine (message : String) : String := "❌ Error: " ++ message ++ "\n"

/-- What is left by a run with arguments that are understood. -/
def Arguments.run (a : Arguments) (w : Workspace) (topics : Topics) (clock : Nat → String) :
    Output :=
  match a.reply w with
  | .error e => { exit := 1, error := failureLine e.message }
  | .ok reply =>
    let trace := topics.output clock reply.trace
    match reply.outcome with
    | .error e => { exit := 1, error := trace ++ failureLine (Failure.score e).message }
    | .ok strip => { exit := 0, standard := (stripJson strip).write ++ "\n", error := trace }

/-! ## Help -/

/-- The name of the command. -/
def commandName : String := "suggest-demo"

/-- How the command is called. -/
def usage : String :=
  "usage: suggest-demo [-h] [-c CANDIDATE] [--locale LOCALE]\n" ++
  "                    [--caps \x7boff,shifted,shift_locked\x7d] [--batch]\n" ++
  "                    [--rejected REJECTED] [--threshold THRESHOLD]\n" ++
  "                    [--no-correction] [--resumed] [--no-main-dict]\n" ++
  "                    [typed]\n"

/-- What the command does and what its options mean. -/
def helpText : String := usage ++ "\n" ++
  "Post-process raw lookup candidates into a suggestion strip.\n\n" ++
  "positional arguments:\n" ++
  "  typed                 Typed word (empty = prediction)\n\n" ++
  "options:\n" ++
  "  -h, --help            show this help message and exit\n" ++
  "  -c CANDIDATE, --candidate CANDIDATE\n" ++
  "                        Raw candidate TEXT:SCORE[:KIND[:LOCALE]], best first\n" ++
  "                        (repeatable)\n" ++
  "  --locale LOCALE       Default dictionary locale\n" ++
  "  --caps \x7boff,shifted,shift_locked\x7d\n" ++
  "  --batch               Gesture (batch) request\n" ++
  "  --rejected REJECTED   Previously rejected gesture suggestion\n" ++
  "  --threshold THRESHOLD\n" ++
  "                        Auto-correction threshold: float or preset name\n" ++
  "                        (modest, aggressive, ...)\n" ++
  "  --no-correction       Disable auto-correction\n" ++
  "  --resumed             Resumed composition\n" ++
  "  --no-main-dict        Pretend no main dictionary\n"

/-- What the command leaves. -/
def run (w : Workspace) (topics : Topics) (clock : Nat → String) (arguments : List String) :
    Output :=
  match Invocation.parse arguments with
  | .error e => { exit := 2, error := usage ++ commandName ++ ": error: " ++ e.message ++ "\n" }
  | .ok .help => { exit := 0, standard := helpText }
  | .ok (.run a) => a.run w topics clock

end WordStrip.CommandLine
