import WordStrip.Candidate
import WordStrip.Trace

/-!
# Distinct suggestions

A strip shows each text once. Of candidates with one text the first stays, and candidates with the
text of the typed word go, since the word has an entry of its own. Gestures have two rules more: a
word that the user turned down is moved behind the next one, and candidates on the lowest scores,
which only draw gestures away from other words, are left out.
-/

namespace WordStrip.Distinct

/-- The candidates whose text is not in `seen` and did not occur before. -/
def keepFirst (seen : List String) : List Candidate → List Candidate
  | [] => []
  | c :: rest =>
    if seen.contains c.text then keepFirst seen rest else c :: keepFirst (c.text :: seen) rest

/-- Whether a candidate has the text of the typed word, if there is one. -/
def isTyped (typed : Option String) (c : Candidate) : Bool :=
  match typed with
  | some word => !word.isEmpty && c.text == word
  | none => false

/-- The first candidate of each text other than the typed word. -/
def distinct (typed : Option String) (cs : List Candidate) : List Candidate :=
  keepFirst [] (cs.filter fun c => !isTyped typed c)

/-- Whether the typed word is among the candidates. -/
def hasTyped (typed : Option String) (cs : List Candidate) : Bool := cs.any (isTyped typed)

/-- What is left in the trace: a record when the typed word was among the candidates. -/
def trace (typed : Option String) (cs : List Candidate) : List Record :=
  match typed with
  | some word =>
    if hasTyped typed cs then
      [{ topic := "dedup", message := s!"typed word {Text.quoted word} found among candidates" }]
    else []
  | none => []

/-- The score at or below which a candidate is a distraction. -/
def floorScore : Int := -2000000000

/-- The candidates that are no distraction. -/
def aboveFloor (cs : List Candidate) : List Candidate := cs.filter fun c => floorScore < c.score

/-- The candidates with the first two exchanged if the first is the word turned down. -/
def demote (rejected : Option String) : List Candidate → List Candidate
  | first :: second :: rest =>
    if rejected = some first.text then second :: first :: rest else first :: second :: rest
  | cs => cs

end WordStrip.Distinct
