import WordStrip.Proofs.Text.Quoted
import WordStrip.Proofs.Text.Split
import WordStrip.Proofs.Typing

/-!
# Laws of the trace

The trace of a request is looked at from three sides.

Which records are shown: those under a topic that the text of topics lists, or all of them. What it means
that a text lists a topic is said without cutting the text (`Topics.Lists`).

What the records say: each stage leaves one record when something happened there, and none otherwise
(`Leaves`), in the order of the stages (`Request.Course`). What a record says is true of the request and of
the strip (`Request.Tells`): a denial names the gate that is closed, or what the best candidate failed at.

How they are written: texts that come from outside stand in quotes, so that a record is printable
altogether, and the lines of the output are the records (`Topics.pieces_output`).
-/

namespace WordStrip

/-! ## Topics -/

namespace Topics

variable {s topic : String}

/-- A text lists a topic: it is made of items with commas between them, and one of them is the topic, up
to case and to blanks around it. -/
def Lists (s topic : String) : Prop :=
  ∃ items : List String, (∀ item ∈ items, ',' ∉ item.toList) ∧ s = ",".intercalate items ∧
    ∃ item ∈ items, Text.lower (Text.trim item) = topic

/-- The items of a text are the texts between its commas. -/
theorem lists_iff : Lists s topic ↔ ∃ item ∈ Text.splitAt ',' s, Text.lower (Text.trim item) = topic := by
  constructor
  · rintro ⟨items, plain, rfl, item, mem, same⟩
    have cut : Text.splitAt ',' (",".intercalate items) = items :=
      Text.splitAt_intercalate plain (List.ne_nil_of_mem mem)
    exact ⟨item, cut.symm ▸ mem, same⟩
  · intro listed
    exact ⟨Text.splitAt ',' s, fun _ => Text.not_mem_of_mem_splitAt,
      (Text.intercalate_splitAt ',' s).symm, listed⟩

instance (s topic : String) : Decidable (Lists s topic) := decidable_of_iff _ lists_iff.symm

/-- A text with blanks only is no name of a topic. -/
theorem mem_names_iff (named : topic ≠ "") : topic ∈ (parse s).names ↔ Lists s topic := by
  have visible (item : String) (same : Text.lower (Text.trim item) = topic) : Text.trim item ≠ "" := by
    intro blank
    rw [blank] at same
    exact named (same ▸ by decide +kernel)
  simp only [parse, List.mem_map, List.mem_filter, lists_iff]
  constructor
  · rintro ⟨name, ⟨⟨item, mem, rfl⟩, -⟩, same⟩
    exact ⟨item, mem, same⟩
  · rintro ⟨item, mem, same⟩
    exact ⟨Text.trim item, ⟨⟨item, mem, rfl⟩, by simpa using visible item same⟩, same⟩

/-- A record is shown when its topic is listed, or all topics are. -/
theorem shows_iff (named : topic ≠ "") (own : topicKey topic = topic) :
    (parse s).shows topic = true ↔ Lists s "all" ∨ Lists s topic := by
  rw [shows, own, Bool.or_eq_true, List.contains_iff_mem, List.contains_iff_mem,
    mem_names_iff (by decide), mem_names_iff named]

/-- Every record is shown for `all`. -/
theorem shown_all (records : List Record) : (parse "all").shown records = records := by
  have all : (parse "all").names.contains "all" = true := by decide +kernel
  apply List.filter_eq_self.mpr
  intro record _
  rw [shows, all, Bool.true_or]

end Topics

/-! ## Stages -/

/-- What a stage leaves in the trace: one record when something happened, and none otherwise. -/
inductive Leaves (topic : String) (happened : Prop) : List Record → Prop
  | record (message : String) (did : happened) : Leaves topic happened [{ topic, message }]
  | nothing (didNot : ¬ happened) : Leaves topic happened []

variable {record : Record} {cs : List Candidate}

namespace Shape

/-- How it is told that some candidates were shaped. -/
def wording (shape : Shape) (count : Nat) : String :=
  let upper := Text.shownBool shape.allUpper
  let first := Text.shownBool shape.capitalized
  s!"transformed {count} candidates (upper={upper}, first={first}, " ++ s!"quotes={shape.apostrophes})"

theorem printable_wording (shape : Shape) (n : Nat) : Text.Printable (shape.wording n).toList := by
  have count := Text.printable_toString_nat n
  have upper := Text.printable_shownBool shape.allUpper
  have first := Text.printable_shownBool shape.capitalized
  have apostrophes := Text.printable_toString_int shape.apostrophes
  unfold wording
  simp only [String.toList_append, Text.printable_append]
  refine ⟨⟨⟨⟨⟨⟨⟨?_, count⟩, ?_⟩, upper⟩, ?_⟩, first⟩, ?_⟩, ⟨?_, apostrophes⟩, ?_⟩
  all_goals decide +kernel

theorem leaves_trace (shape : Shape) (cs : List Candidate) :
    Leaves "transform" (shape.isPlain = false) (shape.trace cs) := by
  unfold trace
  split
  case isTrue plain => exact .nothing (by simp [plain])
  case isFalse shaped => exact .record _ (by simpa using shaped)

theorem eq_of_mem_trace {shape : Shape} (mem : record ∈ shape.trace cs) :
    record = { topic := "transform", message := shape.wording cs.length } := by
  unfold trace at mem
  split at mem
  · exact nomatch mem
  · exact List.mem_singleton.mp mem

end Shape

namespace Distinct

theorem leaves_trace (word : String) (cs : List Candidate) :
    Leaves "dedup" (hasTyped (some word) cs = true) (trace (some word) cs) := by
  show Leaves "dedup" _ (if hasTyped (some word) cs then _ else [])
  split
  case isTrue found => exact .record _ found
  case isFalse missing => exact .nothing missing

theorem eq_of_mem_trace {word : String} (mem : record ∈ trace (some word) cs) :
    record =
      { topic := "dedup", message := s!"typed word {Text.quoted word} found among candidates" } := by
  dsimp only [trace] at mem
  split at mem
  · exact List.mem_singleton.mp mem
  · exact nomatch mem

end Distinct

namespace Verdict

variable {verdict : Verdict} {why : String}

theorem refusal?_eq_none : verdict.refusal? = none ↔ verdict.isAccepted = true := by
  cases verdict <;> simp [refusal?, isAccepted]

theorem leaves_trace (verdict : Verdict) :
    Leaves "autocorrect" (verdict.isAccepted = false) verdict.trace := by
  rw [← Bool.not_eq_true, ← refusal?_eq_none, trace]
  cases refused : verdict.refusal? with
  | some why => exact .record _ (by simp)
  | none => exact .nothing (by simp)

theorem exists_of_mem_trace (mem : record ∈ verdict.trace) : ∃ why, verdict.refusal? = some why ∧
    record = { topic := "autocorrect", message := s!"auto-correction denied: {why}" } := by
  unfold trace at mem
  split at mem
  case h_1 why refused => exact ⟨why, refused, List.mem_singleton.mp mem⟩
  case h_2 => exact nomatch mem

/-- The reason of a refusal is printable. -/
theorem printable_of_refusal? (refused : verdict.refusal? = some why) : Text.Printable why.toList := by
  cases verdict with
  | accepted top => exact nomatch refused
  | denied denial =>
    obtain rfl := Option.some.inj refused
    cases denial <;> decide +kernel
  | underThreshold top =>
    obtain rfl := Option.some.inj refused
    have failed : Text.Printable " under threshold".toList := by decide +kernel
    exact (Text.printable_quoted top.text).append failed
  | overSpaceLimit top =>
    obtain rfl := Option.some.inj refused
    have failed : Text.Printable " blocked by space limit".toList := by decide +kernel
    exact (Text.printable_quoted top.text).append failed

end Verdict

/-! ## Requests -/

namespace Request

variable {r : Request} {settings : Settings} {threshold : Float} {lookup : Lookup} {strip : Strip}
  {trace : List Record}

/-- The course of a request, stage by stage. A gesture is shaped, and nothing more is told about it. While
the user types, the candidates are shaped, the typed word is removed from them, auto-correction is denied,
and the request comes to its end. -/
inductive Course (r : Request) (lookup : Lookup) (strip : Strip) : List Record → Prop
  | gesture {shaped : List Record} (gesture : r.word.isGesture = true)
      (shaping : Leaves "transform" (r.shape.isPlain = false) shaped) : Course r lookup strip shaped
  | typing {shaped removed denied closed : List Record} (typing : r.word.isGesture = false)
      (shaping : Leaves "transform" (r.shape.isPlain = false) shaped)
      (removal : Leaves "dedup" (r.Found lookup) removed)
      (denial : Leaves "autocorrect" (strip.willAutoCorrect = false) denied)
      (closing : Leaves "pipeline" True closed) :
      Course r lookup strip (shaped ++ removed ++ denied ++ closed)

/-- What a record tells about the request and its strip. -/
inductive Tells (r : Request) (settings : Settings) (threshold : Float) (lookup : Lookup)
    (strip : Strip) : Record → Prop
  | shaping : Tells r settings threshold lookup strip
      { topic := "transform", message := r.shape.wording lookup.results.candidates.length }
  | removal : Tells r settings threshold lookup strip
      { topic := "dedup", message := s!"typed word {Text.quoted r.word.text} found among candidates" }
  | denial {verdict : Verdict} {why : String}
      (judged : (r.situation lookup).Judged settings.spaceLimits threshold verdict)
      (refused : verdict.refusal? = some why) : Tells r settings threshold lookup strip
      { topic := "autocorrect", message := s!"auto-correction denied: {why}" }
  | closing : Tells r settings threshold lookup strip
      { topic := "pipeline"
        message := s!"#{strip.sequence} {Text.quoted r.word.text}: {strip.suggestions.length} suggestions, " ++
          s!"auto-correct={Text.shownBool strip.willAutoCorrect}" }

/-! ### The trace of an answer -/

/-- A request while the user types that is answered leaves the records of all its stages. -/
theorem trace_typing (typing : r.word.isGesture = false) {verdict : Verdict} {shown : List Candidate}
    (judged : (r.situation lookup).judge settings.spaceLimits threshold = .ok verdict)
    (showed : r.shown settings lookup = .ok shown) (showable : Number.isShowable r.sequence = true) :
    (r.answer settings threshold lookup).trace =
      r.word.typingShape.trace lookup.results.candidates ++
        Distinct.trace (some r.word.text) (r.shaped lookup) ++ verdict.trace ++
        [r.closingRecord shown verdict] := by
  have closed : r.closingTrace shown verdict = .ok [r.closingRecord shown verdict] :=
    closingTrace_eq_ok.mpr ⟨showable, rfl⟩
  simp only [answer, typing, Bool.false_eq_true, if_false, typingReply, judged, showed, closed,
    shapingTrace]

theorem trace_gesture (gesture : r.word.isGesture = true) :
    (r.answer settings threshold lookup).trace =
      r.word.gestureShape.trace lookup.results.candidates := by
  rw [answer, if_pos gesture, gestureReply]

theorem course_of_answered (answered : (r.answer settings threshold lookup).outcome = .ok strip) :
    r.Course lookup strip (r.answer settings threshold lookup).trace := by
  cases style : r.word.isGesture with
  | true =>
    have shape : r.shape = r.word.gestureShape := if_pos style
    rw [trace_gesture style]
    exact .gesture style (shape ▸ Shape.leaves_trace _ _)
  | false =>
    obtain ⟨verdict, shown, judged, showed, showable, rfl⟩ := (outcome_typing style).mp answered
    have shape : r.shape = r.word.typingShape := if_neg (by simp [style])
    have removal : Leaves "dedup" (r.Found lookup)
        (Distinct.trace (some r.word.text) (r.shaped lookup)) :=
      propext typedFound_situation ▸ Distinct.leaves_trace r.word.text (r.shaped lookup)
    rw [trace_typing style judged showed showable]
    exact .typing style (shape ▸ Shape.leaves_trace _ _) removal verdict.leaves_trace
      (.record _ trivial)

/-- Each record of an answered request tells what it is about. -/
theorem tells_of_answered (answered : (r.answer settings threshold lookup).outcome = .ok strip) :
    ∀ record ∈ (r.answer settings threshold lookup).trace,
      r.Tells settings threshold lookup strip record := by
  have shaping (record : Record) (mem : record ∈ r.shape.trace lookup.results.candidates) :
      r.Tells settings threshold lookup strip record := by
    obtain rfl := Shape.eq_of_mem_trace mem
    exact .shaping
  cases style : r.word.isGesture with
  | true =>
    have shape : r.shape = r.word.gestureShape := if_pos style
    rw [trace_gesture style, ← shape]
    exact shaping
  | false =>
    obtain ⟨verdict, shown, judged, showed, showable, rfl⟩ := (outcome_typing style).mp answered
    have shape : r.shape = r.word.typingShape := if_neg (by simp [style])
    rw [trace_typing style judged showed showable, ← shape]
    simp only [List.forall_mem_append]
    refine ⟨⟨⟨shaping, ?removal⟩, ?denial⟩, ?closing⟩
    case removal =>
      intro record mem
      obtain rfl := Distinct.eq_of_mem_trace mem
      exact .removal
    case denial =>
      intro record mem
      obtain ⟨why, refused, rfl⟩ := Verdict.exists_of_mem_trace mem
      exact .denial (Situation.judged_of_judge judged) refused
    case closing =>
      intro record mem
      obtain rfl := List.mem_singleton.mp mem
      exact .closing

/-! ### Lines -/

/-- Everything that a record tells is printable, since texts from outside stand in quotes. -/
theorem Tells.printable (tells : r.Tells settings threshold lookup strip record) :
    Text.Printable record.message.toList := by
  cases tells with
  | shaping => exact r.shape.printable_wording lookup.results.candidates.length
  | removal =>
    simp only [String.toList_append, Text.printable_append]
    refine ⟨⟨?_, Text.printable_quoted r.word.text⟩, ?_⟩
    all_goals decide +kernel
  | denial judged refused =>
    simp only [String.toList_append, Text.printable_append]
    refine ⟨?_, Verdict.printable_of_refusal? refused⟩
    decide +kernel
  | closing =>
    have sequence := Text.printable_toString_int strip.sequence
    have word := Text.printable_quoted r.word.text
    have count := Text.printable_toString_nat strip.suggestions.length
    have accepted := Text.printable_shownBool strip.willAutoCorrect
    simp only [String.toList_append, Text.printable_append]
    refine ⟨⟨⟨⟨⟨⟨⟨?_, sequence⟩, ?_⟩, word⟩, ?_⟩, count⟩, ?_⟩, ?_, accepted⟩
    all_goals decide +kernel

/-- The topics of the stages. -/
def stageTopics : List String := ["transform", "dedup", "autocorrect", "pipeline"]

/-- They are in the form in which topics are compared. -/
theorem topicKey_of_mem_stageTopics :
    ∀ topic ∈ stageTopics, topicKey topic = topic ∧ topic ≠ "" ∧ Text.Printable topic.toList := by
  decide +kernel

theorem Tells.topic_mem (tells : r.Tells settings threshold lookup strip record) :
    record.topic ∈ stageTopics := by
  cases tells <;> simp [stageTopics]

/-- A record begins with the time, its topic and its level. -/
theorem Tells.line_eq (tells : r.Tells settings threshold lookup strip record) (time : String) :
    record.line time = s!"[{time}] [{record.topic}][DEBUG] {record.message}" := by
  have own : topicKey record.topic = record.topic :=
    (topicKey_of_mem_stageTopics record.topic tells.topic_mem).1
  have level : Text.upper record.level = "DEBUG" := by
    have large : Text.upper "DEBUG" = "DEBUG" := by decide +kernel
    cases tells <;> exact large
  have joined : "][DEBUG] " = "][" ++ ("DEBUG" ++ "] ") := by decide
  show _ = "[" ++ time ++ "] [" ++ record.topic ++ "][DEBUG] " ++ record.message
  rw [Record.line, own, level, joined]
  simp only [String.append_assoc]

/-- The line of a record is printable. -/
theorem Tells.printable_line (tells : r.Tells settings threshold lookup strip record) {time : String}
    (written : Text.Printable time.toList) : Text.Printable (record.line time).toList := by
  have topic : Text.Printable record.topic.toList :=
    (topicKey_of_mem_stageTopics record.topic tells.topic_mem).2.2
  rw [tells.line_eq]
  simp only [String.toList_append, Text.printable_append]
  refine ⟨⟨⟨⟨⟨?_, written⟩, ?_⟩, topic⟩, ?_⟩, tells.printable⟩
  all_goals decide +kernel

end Request

/-! ## Output -/

/-- Printable lines that are written are the lines of the output, with nothing behind the last one. -/
theorem Topics.pieces_output {topics : Topics} {clock : Nat → String} {records : List Record}
    (plain : ∀ record ∈ records, ∀ i, Text.Printable (record.line (clock i)).toList) :
    Text.pieces Text.isLineBreak (topics.output clock records).toList =
      (topics.shown records).mapIdx (fun i record => (record.line (clock i)).toList) ++ [[]] := by
  have lines : (topics.output clock records).toList =
      ((topics.shown records).mapIdx fun i record => (record.line (clock i)).toList).flatMap
        fun line => line ++ ['\n'] := by
    rw [output, String.toList_join, List.mapIdx_eq_zipIdx_map, List.mapIdx_eq_zipIdx_map,
      List.flatMap_map, List.flatMap_map]
    simp only [String.toList_append]
    rfl
  rw [lines]
  apply Text.pieces_lines rfl
  intro line mem c here
  obtain ⟨i, inside, rfl⟩ := List.mem_mapIdx.mp mem
  have shown := List.mem_of_mem_filter (List.getElem_mem inside)
  exact Text.isLineBreak_eq_false (plain _ shown i c here)

namespace Request

variable {settings : Settings} {threshold : Float} {lookup : Lookup} {strip : Strip}

/-- The trace of an answered request. Of the trace that is shown for `all` another text of topics shows the
records whose topic it lists, or all of them when it lists `all`. Each record tells what is true of the
request, and is written in printable characters behind the time, its topic and its level. The records that
are shown are the lines of the output, each with the time at which it was written, whatever a line can end
with. The records come in the order of the stages: one of each stage at which something happened, and no
other. -/
theorem trace_explains (r : Request) {trace : List Record} (topics : String) (clock : Nat → String)
    (written : ∀ i, Text.Printable (clock i).toList)
    (answered : (r.answer settings threshold lookup).outcome = .ok strip)
    (left : (r.answer settings threshold lookup).trace = trace) :
    (Topics.parse "all").shown trace = trace ∧
      (Topics.parse topics).shown trace = trace.filter (fun record =>
        Topics.Lists topics "all" ∨ Topics.Lists topics record.topic) ∧
      (∀ record ∈ trace, r.Tells settings threshold lookup strip record ∧
        ∀ i, record.line (clock i) = s!"[{clock i}] [{record.topic}][DEBUG] {record.message}" ∧
          Text.Printable (record.line (clock i)).toList) ∧
      Text.pieces Text.isLineBreak ((Topics.parse topics).output clock trace).toList =
        ((Topics.parse topics).shown trace).mapIdx (fun i record => (record.line (clock i)).toList) ++
          [[]] ∧
      r.Course lookup strip trace := by
  have tells : ∀ record ∈ trace, r.Tells settings threshold lookup strip record :=
    left ▸ tells_of_answered answered
  have course : r.Course lookup strip trace := left ▸ course_of_answered answered
  have plain : ∀ record ∈ trace, ∀ i, Text.Printable (record.line (clock i)).toList :=
    fun record mem i => (tells record mem).printable_line (written i)
  refine ⟨Topics.shown_all trace, ?listed, ?told, Topics.pieces_output plain, course⟩
  case listed =>
    apply List.filter_congr
    intro record mem
    obtain ⟨own, named, -⟩ := topicKey_of_mem_stageTopics record.topic (tells record mem).topic_mem
    rw [Bool.eq_iff_iff, Topics.shows_iff named own, decide_eq_true_iff]
  case told =>
    intro record mem
    exact ⟨tells record mem, fun i => ⟨(tells record mem).line_eq (clock i), plain record mem i⟩⟩

end Request

/-! ### A word on two lines -/

/-- A word with a line separator in it and an apostrophe behind it. -/
def Request.brokenWord : Request := { word := { text := "Ca\u2028t'" } }

/-- A lookup that returns the word as it is in mid-sentence. -/
def Lookup.ofBrokenWord : Lookup where
  results := { candidates := [{ text := "ca\u2028t", score := 5 }] }

/-- What the word is answered with: its entry alone, since what the lookup returned is removed. -/
def Strip.ofBrokenWord : Strip where
  suggestions := [.ofTyped "Ca\u2028t'"]
  raw := Lookup.ofBrokenWord.results.candidates
  typedWordValid := true
  willAutoCorrect := false
  style := .typing
  sequence := 0

/-- A clock that has moved on when a second line is written. -/
def passingClock : Nat → String
  | 0 => "2024-01-01 00:00:00"
  | _ => "2024-01-01 00:00:01"

/-- The word leaves a record of each stage, which quotes it with its separator escaped. Two of the topics are
listed, and the output ends after two lines. -/
theorem Request.trace_explains_brokenWord :
    (∀ i, Text.Printable (passingClock i).toList) ∧
      (brokenWord.answer .default 0.185 .ofBrokenWord).outcome = .ok .ofBrokenWord ∧
      ∃ trace, (brokenWord.answer .default 0.185 .ofBrokenWord).trace = trace ∧
        trace.map (·.topic) = stageTopics ∧
        (trace.map (·.message))[1]? = some "typed word \"Ca\\u2028t'\" found among candidates" ∧
        (Text.pieces Text.isLineBreak
          ((Topics.parse " Dedup,,PIPELINE").output passingClock trace).toList).length = 3 := by
  have written : ∀ i, Text.Printable (passingClock i).toList
    | 0 => (by decide +kernel : Text.Printable "2024-01-01 00:00:00".toList)
    | _ + 1 => (by decide +kernel : Text.Printable "2024-01-01 00:00:01".toList)
  have answered : (brokenWord.answer .default 0.185 .ofBrokenWord).outcome = .ok .ofBrokenWord := by
    decide +kernel
  refine ⟨written, answered, _, rfl, by decide +kernel, by decide +kernel, ?_⟩
  obtain ⟨-, -, -, lines, -⟩ :=
    trace_explains brokenWord " Dedup,,PIPELINE" passingClock written answered rfl
  rw [lines]
  decide +kernel

end WordStrip
