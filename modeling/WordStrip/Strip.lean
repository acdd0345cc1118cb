import WordStrip.Candidate

/-!
# Suggestion strips

A strip is the answer to a request: the suggestions in the order in which they are shown, the
candidates they came from, and what the caller is to do with the typed word. When the word is to be
replaced, the replacement is the second entry, behind the word itself.
-/

namespace WordStrip

/-- Where a request came from. -/
inductive InputStyle where
  | none
  | typing
  | updateBatch
  | tailBatch
  | applicationSpecified
  | recorrection
  | prediction
  | sentencePrediction
  deriving DecidableEq, Repr, Inhabited

namespace InputStyle

/-- All styles in order. -/
def all : List InputStyle := [
  none, typing, updateBatch, tailBatch, applicationSpecified, recorrection, prediction,
  sentencePrediction]

/-- The name of a style. -/
def name : InputStyle → String
  | none => "none"
  | typing => "typing"
  | updateBatch => "update_batch"
  | tailBatch => "tail_batch"
  | applicationSpecified => "application_specified"
  | recorrection => "recorrection"
  | prediction => "prediction"
  | sentencePrediction => "beginning_of_sentence_prediction"

/-- The style with a name. -/
def ofName (s : String) : Except UnknownName InputStyle := byName "InputStyle" name all s

/-- Whether a request came from a gesture. -/
def isGesture (style : InputStyle) : Bool := style == updateBatch || style == tailBatch

end InputStyle

/-- The session of the lookup that a request runs in. -/
inductive Session where
  | typing
  | gesture
  deriving DecidableEq, Repr, Inhabited

namespace Session

/-- All sessions in order. -/
def all : List Session := [typing, gesture]

/-- The value of a session. -/
def value : Session → String
  | typing => "typing"
  | gesture => "gesture"

/-- The name of a session. -/
def name : Session → String
  | typing => "TYPING"
  | gesture => "GESTURE"

/-- The session with a value. -/
def ofValue (s : String) : Except UnknownName Session := byName "SessionId" value all s

/-- The pool of resources of a session; all sessions share one. -/
def pool : Session → Nat
  | typing => 0
  | gesture => 0

end Session

/-- The answer to a request. -/
structure Strip where
  suggestions : List Candidate
  raw : List Candidate
  typedWordValid : Bool
  willAutoCorrect : Bool
  isObsolete : Bool := false
  style : InputStyle
  sequence : Int
  deriving DecidableEq, Repr

namespace Strip

/-- The texts of the suggestions. -/
def words (s : Strip) : List String := s.suggestions.map (·.text)

/-- The entry of the typed word, which is the first if there is one. -/
def typedWord? (s : Strip) : Option Candidate :=
  s.suggestions.head?.filter fun c => c.kind == .typed

/-- The suggestion to put in place of the typed word. -/
def autoCorrection? (s : Strip) : Option Candidate :=
  if s.willAutoCorrect then s.suggestions[1]? else none

end Strip

end WordStrip
