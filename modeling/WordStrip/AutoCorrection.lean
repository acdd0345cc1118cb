import WordStrip.Score
import WordStrip.SpaceLimit
import WordStrip.Trace

/-!
# Auto-correction

The best candidate may replace the typed word without being asked for. Several gates forbid it
whatever the score; behind them stand the threshold and the limit on words with spaces. A verdict
says what decided, and the trace is written from the verdict.
-/

namespace WordStrip

/-- Whether the typed word may be corrected at all: there is a listed replacement for it, or it is
longer than one letter and the lookup did not return it. -/
def isEligible (listed : Option String) (considered : String) (typedFound : Bool) : Bool :=
  listed.isSome || (1 < considered.length && !typedFound)

/-- What a decision is taken from. -/
structure Situation where
  correctionEnabled : Bool
  listed : Option String
  considered : String
  typedFound : Bool
  isPrediction : Bool
  top : Option Candidate
  hasDigits : Bool := false
  isMostlyCaps : Bool := false
  isResumed : Bool := false
  hasMainDictionary : Bool := true
  deriving DecidableEq, Repr

/-- A gate that forbids auto-correction. -/
inductive Denial where
  | disabled
  | notEligible
  | prediction
  | noCandidates
  | digits
  | mostlyCaps
  | resumed
  | noMainDictionary
  | shortcut
  deriving DecidableEq, Repr

/-- The wording of a denial. -/
def Denial.reason : Denial → String
  | disabled => "correction disabled"
  | notEligible => "typed word not eligible"
  | prediction => "prediction request"
  | noCandidates => "no candidates"
  | digits => "typed word has digits"
  | mostlyCaps => "typed word is mostly caps"
  | resumed => "resumed composition"
  | noMainDictionary => "no main dictionary"
  | shortcut => "top candidate is a shortcut"

/-- What became of the best candidate. -/
inductive Verdict where
  | accepted (top : Candidate)
  | denied (denial : Denial)
  | underThreshold (top : Candidate)
  | overSpaceLimit (top : Candidate)
  deriving DecidableEq, Repr

namespace Situation

/-- Whether the typed word may be corrected at all. -/
def isEligible (s : Situation) : Bool := WordStrip.isEligible s.listed s.considered s.typedFound

/-- The first gate that forbids auto-correction, or the candidate that passes them all. -/
def passGates (s : Situation) : Except Denial Candidate :=
  if !s.correctionEnabled then .error .disabled
  else if !s.isEligible then .error .notEligible
  else if s.isPrediction then .error .prediction
  else
    match s.top with
    | none => .error .noCandidates
    | some top =>
      if s.hasDigits then .error .digits
      else if s.isMostlyCaps then .error .mostlyCaps
      else if s.isResumed then .error .resumed
      else if !s.hasMainDictionary then .error .noMainDictionary
      else if top.kind == .shortcut then .error .shortcut
      else .ok top

/-- The gate that forbids auto-correction. -/
def denial? (s : Situation) : Option Denial :=
  match s.passGates with
  | .error denial => some denial
  | .ok _ => none

/-- The verdict on the best candidate. -/
def judge (s : Situation) (limits : SpaceLimits) (threshold : Float) :
    Except Number.NumeralError Verdict :=
  match s.passGates with
  | .error denial => .ok (.denied denial)
  | .ok top => do
    if !(← exceedsThreshold (some top) s.considered threshold) then return .underThreshold top
    else if !limits.allows top then return .overSpaceLimit top
    else return .accepted top

end Situation

namespace Verdict

/-- Whether the typed word is to be replaced. -/
def isAccepted : Verdict → Bool
  | accepted _ => true
  | _ => false

/-- Why the typed word is not replaced. -/
def refusal? : Verdict → Option String
  | accepted _ => none
  | denied denial => some denial.reason
  | underThreshold top => some s!"{Text.quoted top.text} under threshold"
  | overSpaceLimit top => some s!"{Text.quoted top.text} blocked by space limit"

/-- What is left in the trace: a record unless the candidate was accepted. -/
def trace (v : Verdict) : List Record :=
  match v.refusal? with
  | some why => [{ topic := "autocorrect", message := s!"auto-correction denied: {why}" }]
  | none => []

end Verdict

end WordStrip
