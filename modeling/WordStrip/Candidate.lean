import WordStrip.Locale
import WordStrip.Name

/-!
# Candidates

A candidate is a word that a dictionary lookup proposes, with its score, its kind and the
dictionary it came from. A lookup gives its candidates best first; beside them it may keep another
list, as it was before any change, for inspection.

Two candidates are the same when they agree on everything but the note for debugging.
-/

namespace WordStrip

/-! ## Kinds and sources -/

/-- Why a word is proposed. -/
inductive Kind where
  | typed
  | correction
  | completion
  | whitelist
  | blacklist
  | hardcoded
  | appDefined
  | shortcut
  | prediction
  | resumed
  deriving DecidableEq, Repr, Inhabited

namespace Kind

/-- All kinds in order. -/
def all : List Kind := [
  typed, correction, completion, whitelist, blacklist, hardcoded, appDefined, shortcut, prediction,
  resumed]

/-- The name of a kind. -/
def name : Kind → String
  | typed => "typed"
  | correction => "correction"
  | completion => "completion"
  | whitelist => "whitelist"
  | blacklist => "blacklist"
  | hardcoded => "hardcoded"
  | appDefined => "app_defined"
  | shortcut => "shortcut"
  | prediction => "prediction"
  | resumed => "resumed"

/-- The kind with a name. -/
def ofName (s : String) : Except UnknownName Kind := byName "CandidateKind" name all s

end Kind

/-- The dictionary that a candidate came from. -/
structure Source where
  dictionary : String
  locale : Option Locale := none
  deriving DecidableEq, Repr, Inhabited

namespace Source

/-- The source of what the user typed. -/
def userTyped : Source := { dictionary := "user_typed" }

/-- The main dictionary of a locale. -/
def main (locale : Locale) : Source := { dictionary := "main", locale := some locale }

end Source

/-! ## Candidates -/

/-- The largest score. -/
def maxScore : Int := 2147483647

/-- A scored word. The touch point and the confidence serve words that a gesture wrote in one go;
`-1` says that there is none. -/
structure Candidate where
  text : String
  score : Int
  kind : Kind := .correction
  source : Source := .userTyped
  touchPoint : Int := -1
  confidence : Int := -1
  note : String := ""
  deriving DecidableEq, Repr, Inhabited

namespace Candidate

/-- The locale of a candidate's dictionary. -/
def locale (c : Candidate) : Option Locale := c.source.locale

/-- The candidate with another text. -/
def withText (c : Candidate) (text : String) : Candidate := { c with text }

/-- The candidate with another note. -/
def withNote (c : Candidate) (note : String) : Candidate := { c with note }

/-- Whether two candidates agree on all but their notes. -/
def same (a b : Candidate) : Bool := a.withNote "" == b.withNote ""

/-- The entry that stands for the typed word itself. -/
def ofTyped (word : String) : Candidate := { text := word, score := maxScore, kind := .typed }

@[simp] theorem text_withText (c : Candidate) (s : String) : (c.withText s).text = s := rfl

@[simp] theorem text_withNote (c : Candidate) (s : String) : (c.withNote s).text = c.text := rfl

end Candidate

/-! ## Lists of candidates -/

/-- What a lookup gives: the candidates, best first, whether they begin a sentence, and the list
kept for inspection, which is the same list unless another is given. -/
structure CandidateList where
  candidates : List Candidate := []
  beginsSentence : Bool := false
  raw : List Candidate := candidates
  deriving DecidableEq, Repr, Inhabited

/-- Why a list has nothing at a position: it is too short, or no list is long enough. -/
inductive PositionError where
  | outOfRange
  | beyondAny
  deriving DecidableEq, Repr

/-- The wording of a refusal. -/
def PositionError.message : PositionError → String
  | outOfRange => "tuple index out of range"
  | beyondAny => "cannot fit 'int' into an index-sized integer"

/-- The count of positions from the start of any list; as many count from its end. -/
def positionCount : Int := 9223372036854775808

namespace CandidateList

/-- The best candidate. -/
def first? (l : CandidateList) : Option Candidate := l.candidates.head?

/-- The count of candidates. -/
def size (l : CandidateList) : Nat := l.candidates.length

/-- Whether there are no candidates. -/
def isEmpty (l : CandidateList) : Bool := l.candidates.isEmpty

/-- The candidate at a position; positions below zero count from the end. -/
def get (l : CandidateList) (position : Int) : Except PositionError Candidate :=
  let fromStart := if position < 0 then position + l.size else position
  if position < -positionCount ∨ positionCount ≤ position then .error .beyondAny
  else if fromStart < 0 then .error .outOfRange
  else
    match l.candidates[fromStart.toNat]? with
    | some c => .ok c
    | none => .error .outOfRange

end CandidateList

end WordStrip
