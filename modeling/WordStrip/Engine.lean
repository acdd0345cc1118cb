import WordStrip.Apostrophes
import WordStrip.AutoCorrection
import WordStrip.Distinct
import WordStrip.Number.Fixed
import WordStrip.Settings
import WordStrip.Shape
import WordStrip.Strip
import WordStrip.TypedWord

/-!
# Requests

A request turns the candidates of a lookup into a strip. While the user types, the candidates take
the shape of the typed word and are freed of repetitions, the word itself is put in front, and it is
decided whether the best candidate replaces it. A gesture has no typed word: its candidates are
shaped by shift, freed of repetitions and distractions, and nothing is replaced.

`answer` is that function of settings, threshold, lookup and request. An engine adds the threshold
and the lookup that may change between requests, and the record of the sessions that the lookup was
asked in.
-/

namespace WordStrip

open WordStrip.Number

/-- A lookup that gives the same candidates to every request. -/
structure Lookup where
  results : CandidateList := {}
  locale : Locale := .americanEnglish
  hasMainDictionary : Bool := true
  deriving DecidableEq, Repr

/-- A request for suggestions. -/
structure Request where
  word : TypedWord
  correctionEnabled : Bool := true
  style : InputStyle := .typing
  sequence : Int := 0
  deriving DecidableEq, Repr

/-- The outcome of a request with the trace that its stages left. -/
structure Reply where
  outcome : Except NumeralError Strip
  trace : List Record

namespace Reply

/-- The strips that a callback receives: the outcome once, unless the request failed. -/
def delivered (reply : Reply) : List Strip :=
  match reply.outcome with
  | .ok strip => [strip]
  | .error _ => []

end Reply

/-! ## Shapes of words -/

namespace TypedWord

/-- The shape that suggestions for a word take over while it is typed. -/
def typingShape (w : TypedWord) : Shape where
  allUpper := w.isAllUpperCase && !w.isResumed
  capitalized := w.isCapitalized
  apostrophes := Apostrophes.count w.text

/-- The shape that suggestions for a gesture take. -/
def gestureShape (w : TypedWord) : Shape where
  allUpper := w.isAllUpperCase
  capitalized := w.wasShifted

/-- The entry of the word in a strip, if anything is typed. -/
def entry (w : TypedWord) : List Candidate :=
  if w.isComposing then [Candidate.ofTyped w.text] else []

end TypedWord

/-! ## Annotation -/

/-- The note of a suggestion: its score, and where the weighted score is positive that one with two
places and its dictionary. -/
def scoreNote (typed : String) (c : Candidate) : Except NumeralError String := do
  let weighted ← weightedScore typed c.text c.score
  let score ← showWhole c.score
  if 0 < weighted then return s!"{score} ({fixed 2 weighted}), {c.source.dictionary}"
  else return score

/-- The suggestions with their notes. -/
def annotateRest (typed : String) : List Candidate → Except NumeralError (List Candidate)
  | [] => .ok []
  | c :: rest => do
    let note ← scoreNote typed c
    return c.withNote note :: (← annotateRest typed rest)

/-- The suggestions with their notes; the first has a plus instead. -/
def annotate (typed : String) : List Candidate → Except NumeralError (List Candidate)
  | [] => .ok []
  | first :: rest => do return first.withNote "+" :: (← annotateRest typed rest)

/-! ## Typing -/

namespace Request

/-- The candidates in the shape of the typed word. -/
def shaped (r : Request) (lookup : Lookup) : List Candidate :=
  r.word.typingShape.candidates (some lookup.locale) lookup.results.candidates

/-- The candidates that are shown behind the typed word. -/
def survivors (r : Request) (lookup : Lookup) : List Candidate :=
  Distinct.distinct (some r.word.text) (r.shaped lookup)

/-- The first of these when it is a listed replacement. -/
def listed (r : Request) (lookup : Lookup) : Option String :=
  ((r.survivors lookup).head?.filter Candidate.isWhitelisted).map (·.text)

/-- What the decision on auto-correction is taken from. -/
def situation (r : Request) (lookup : Lookup) : Situation where
  correctionEnabled := r.correctionEnabled
  listed := r.listed lookup
  considered := Apostrophes.stem r.word.text
  typedFound := Distinct.hasTyped (some r.word.text) (r.shaped lookup)
  isPrediction := !r.word.isComposing
  top := lookup.results.first?
  hasDigits := r.word.hasDigits
  isMostlyCaps := r.word.isMostlyCaps
  isResumed := r.word.isResumed
  hasMainDictionary := lookup.hasMainDictionary

/-- The style of the strip: a request without a typed word is a prediction. -/
def stripStyle (r : Request) (lookup : Lookup) : InputStyle :=
  if r.word.isComposing then r.style
  else if lookup.results.beginsSentence then .sentencePrediction
  else .prediction

/-- What is left in the trace before the decision. -/
def shapingTrace (r : Request) (lookup : Lookup) : List Record :=
  r.word.typingShape.trace lookup.results.candidates ++
    Distinct.trace (some r.word.text) (r.shaped lookup)

/-- What is left in the trace at the end. It names the number of the request, and is written before
it is known whether it will be shown. -/
def closingTrace (r : Request) (shown : List Candidate) (verdict : Verdict) :
    Except NumeralError (List Record) := do
  let sequence ← showWhole r.sequence
  let accepted := Text.shownBool verdict.isAccepted
  return [{
    topic := "pipeline"
    message := s!"#{sequence} {Text.quoted r.word.text}: {shown.length} suggestions, " ++
      s!"auto-correct={accepted}" }]

/-- The suggestions for a typed word, with their notes if the settings ask for them. -/
def shown (r : Request) (settings : Settings) (lookup : Lookup) :
    Except NumeralError (List Candidate) :=
  let suggestions := r.word.entry ++ r.survivors lookup
  if settings.annotates then annotate r.word.text suggestions else .ok suggestions

/-- The strip for a typed word. -/
def typingStrip (r : Request) (lookup : Lookup) (suggestions : List Candidate)
    (verdict : Verdict) : Strip where
  suggestions
  raw := lookup.results.raw
  typedWordValid := r.word.isComposing && !(r.situation lookup).isEligible
  willAutoCorrect := verdict.isAccepted
  style := r.stripStyle lookup
  sequence := r.sequence

/-- The reply to a request while the user types. -/
def typingReply (r : Request) (settings : Settings) (threshold : Float) (lookup : Lookup) :
    Reply :=
  match (r.situation lookup).judge settings.spaceLimits threshold with
  | .error e => { outcome := .error e, trace := r.shapingTrace lookup }
  | .ok verdict =>
    let decided := r.shapingTrace lookup ++ verdict.trace
    match r.shown settings lookup with
    | .error e => { outcome := .error e, trace := decided }
    | .ok suggestions =>
      match r.closingTrace suggestions verdict with
      | .error e => { outcome := .error e, trace := decided }
      | .ok closing =>
        { outcome := .ok (r.typingStrip lookup suggestions verdict), trace := decided ++ closing }

/-! ## Gestures -/

/-- The suggestions for a gesture. -/
def gestureSuggestions (r : Request) (lookup : Lookup) : List Candidate :=
  let shaped := r.word.gestureShape.candidates (some lookup.locale) lookup.results.candidates
  Distinct.aboveFloor (Distinct.distinct none (Distinct.demote r.word.rejected shaped))

/-- The strip for a gesture. -/
def gestureStrip (r : Request) (lookup : Lookup) : Strip where
  suggestions := r.gestureSuggestions lookup
  raw := lookup.results.raw
  typedWordValid := true
  willAutoCorrect := false
  style := r.style
  sequence := r.sequence

/-- The reply to a gesture. -/
def gestureReply (r : Request) (lookup : Lookup) : Reply where
  outcome := .ok (r.gestureStrip lookup)
  trace := r.word.gestureShape.trace lookup.results.candidates

/-- The reply to a request. -/
def answer (r : Request) (settings : Settings) (threshold : Float) (lookup : Lookup) : Reply :=
  if r.word.isGesture then r.gestureReply lookup else r.typingReply settings threshold lookup

/-- The session that a request runs in. -/
def session (r : Request) : Session := if r.word.isGesture then .gesture else .typing

end Request

/-! ## Engines -/

/-- Settings, with what may change between requests. -/
structure Engine where
  settings : Settings
  threshold : Float
  lookup : Lookup
  sessions : List Session := []

/-- What can be asked of an engine. -/
inductive Step where
  | setThreshold (value : ThresholdInput)
  | setPreset (name : String)
  | setLookup (lookup : Lookup)
  | request (r : Request)

/-- What an engine gives back: nothing, a refused threshold, or the reply to a request. -/
inductive Response where
  | done
  | badThreshold (e : NumeralError)
  | unknownPreset (e : UnknownPreset)
  | reply (reply : Reply)

namespace Engine

/-- The engine that starts with the threshold of its settings. -/
def start (settings : Settings) (lookup : Lookup) : Engine where
  settings
  threshold := settings.threshold
  lookup

/-- One step: the response and the engine after it. A refused threshold changes nothing. -/
def step (e : Engine) : Step → Response × Engine
  | .setThreshold value =>
    match value.read with
    | .ok threshold => (.done, { e with threshold })
    | .error why => (.badThreshold why, e)
  | .setPreset name =>
    match e.settings.preset name with
    | .ok threshold => (.done, { e with threshold })
    | .error why => (.unknownPreset why, e)
  | .setLookup lookup => (.done, { e with lookup, sessions := [] })
  | .request r =>
    (.reply (r.answer e.settings e.threshold e.lookup),
      { e with sessions := e.sessions ++ [r.session] })

/-- Several steps: after each one its response and the engine. -/
def run (e : Engine) : List Step → List (Response × Engine)
  | [] => []
  | step :: rest => e.step step :: (e.step step).2.run rest

end Engine

end WordStrip
