import Mathlib.Data.List.DropRight
import WordStrip.Engine

/-!
# What an engine keeps

An engine is asked many things one after the other, and some of them it refuses. The law here says what
the earlier ones leave behind for the later ones (`Engine.run_settled`): the threshold that was last set
with success, the lookup that was last installed, and nothing else. The answer to a request is therefore
the answer of an engine that was just started with this lookup and this threshold. What the lookup
itself keeps are the sessions that it was asked in since it was installed.

What counts is written in terms of the steps alone, without an engine: `History.threshold`,
`History.lookup` and `History.sessions` read the steps that were taken. `Engine.At` says that an engine
is where its history puts it. All that a step changes is said once (`Engine.snd_step`), so a step keeps
this, whether it is refused or not (`Engine.At.step`), and so does a run (`Engine.at_after`). What a run
gives back after a step is what that step gives back at the engine before it (`Engine.getElem?_run`).
-/

namespace WordStrip

/-! ## Steps -/

namespace Step

/-- Whether a step is meant to set the threshold. -/
def isSet : Step → Bool
  | setThreshold _ | setPreset _ => true
  | setLookup _ | request _ => false

/-- The threshold that a step sets. A value that is no threshold and a name that no preset has set
none. -/
def sets? (settings : Settings) : Step → Option Float
  | setThreshold value => value.read.toOption
  | setPreset name => (settings.preset name).toOption
  | setLookup _ | request _ => none

/-- The lookup that a step installs. -/
def installs? : Step → Option Lookup
  | setLookup lookup => some lookup
  | setThreshold _ | setPreset _ | request _ => none

/-- The session that a step asks the lookup in: a request asks it once, in the session for gestures or
else in the one for typing. -/
def asks? : Step → Option Session
  | request r => some (if r.word.isGesture then .gesture else .typing)
  | setThreshold _ | setPreset _ | setLookup _ => none

theorem sets?_of_not_isSet {s : Step} (other : s.isSet = false) (settings : Settings) :
    s.sets? settings = none := by
  cases s with
  | setThreshold => simp [isSet] at other
  | setPreset => simp [isSet] at other
  | setLookup => rfl
  | request => rfl

end Step

/-! ## Histories -/

namespace History

/-- What the last step gave that gave anything. -/
def latest {α : Type} (gives : Step → Option α) (initial : α) (past : List Step) : α :=
  (past.filterMap gives).getLastD initial

/-- The threshold that was set last, or the one of the settings. -/
def threshold (settings : Settings) : List Step → Float :=
  latest (Step.sets? settings) settings.threshold

/-- The lookup that was installed last, or the first one. -/
def lookup (first : Lookup) : List Step → Lookup := latest Step.installs? first

/-- The sessions of the requests since a lookup was installed last, in their order. -/
def sessions (past : List Step) : List Session :=
  (past.rtakeWhile fun s => s.installs?.isNone).filterMap Step.asks?

theorem latest_concat {α : Type} (gives : Step → Option α) (initial : α) (past : List Step)
    (s : Step) : latest gives initial (past ++ [s]) = (gives s).getD (latest gives initial past) := by
  rw [latest, List.filterMap_append]
  cases given : gives s with
  | none =>
    rw [List.filterMap_cons_none given, List.filterMap_nil, List.append_nil]
    rfl
  | some a =>
    rw [List.filterMap_cons_some given, List.filterMap_nil, List.getLastD_concat]
    rfl

/-- A lookup that was just installed was asked nothing. Every other step asks it at most once more. -/
theorem sessions_concat (past : List Step) (s : Step) :
    sessions (past ++ [s]) =
      if s.installs?.isNone then sessions past ++ s.asks?.toList else [] := by
  rw [sessions, List.rtakeWhile_concat]
  split
  · rw [List.filterMap_append, sessions, List.filterMap_cons, List.filterMap_nil]
    cases s.asks? <;> rfl
  · rfl

end History

/-! ## Engines -/

namespace Engine

/-- An engine that was started with a lookup, and its threshold then set. -/
def fresh (settings : Settings) (lookup : Lookup) (threshold : Float) : Engine :=
  ((start settings lookup).step (.setThreshold (.real threshold))).2

/-- The engine after several steps. -/
def after (e : Engine) (steps : List Step) : Engine :=
  steps.foldl (fun e s => (e.step s).2) e

/-- What a run gives back after a step is what the step gives back at the engine before it. -/
theorem getElem?_run (e : Engine) (before : List Step) (s : Step) (rest : List Step) :
    (e.run (before ++ s :: rest))[before.length]? = some ((e.after before).step s) := by
  induction before generalizing e with
  | nil => rfl
  | cons first before ih => exact ih (e.step first).2

/-- All that a step changes. A step that is refused sets, installs and asks nothing. -/
theorem snd_step (e : Engine) (s : Step) :
    (e.step s).2 =
      { e with
        threshold := (s.sets? e.settings).getD e.threshold
        lookup := s.installs?.getD e.lookup
        sessions := if s.installs?.isNone then e.sessions ++ s.asks?.toList else [] } := by
  cases s with
  | setThreshold value =>
    cases read : value.read <;>
      simp [step, Step.sets?, Step.installs?, Step.asks?, read, Except.toOption]
  | setPreset name =>
    cases known : e.settings.preset name <;>
      simp [step, Step.sets?, Step.installs?, Step.asks?, known, Except.toOption]
  | setLookup => rfl
  | request => rfl

/-- A step that is meant to set the threshold does so, or it is refused. -/
theorem step_eq_done_iff (e : Engine) {s : Step} (set : s.isSet) :
    (e.step s).1 = .done ↔ (s.sets? e.settings).isSome := by
  cases s with
  | setThreshold value =>
    cases read : value.read <;> simp [step, Step.sets?, read, Except.toOption]
  | setPreset name =>
    cases known : e.settings.preset name <;> simp [step, Step.sets?, known, Except.toOption]
  | setLookup => simp [Step.isSet] at set
  | request => simp [Step.isSet] at set

/-- The response to a request depends on the settings, the threshold and the lookup only. -/
theorem step_request_fresh (e : Engine) (r : Request) :
    (e.step (.request r)).1 = ((fresh e.settings e.lookup e.threshold).step (.request r)).1 := rfl

/-! ### Runs -/

/-- The engine is where the steps of the past put an engine that was started with a lookup. -/
structure At (initial : Settings) (first : Lookup) (past : List Step) (e : Engine) : Prop where
  settings : e.settings = initial
  threshold : e.threshold = History.threshold initial past
  lookup : e.lookup = History.lookup first past
  sessions : e.sessions = History.sessions past

/-- What is given back after a step: the response, and the engine.

A set that is not refused sets the threshold that its value means, and nothing else changes it. The
sessions are those of the requests since the lookup was installed. A request has the response of a
fresh engine. -/
structure Settled (initial : Settings) (first : Lookup) (past : List Step) (s : Step)
    (given : Response × Engine) : Prop where
  here : At initial first (past ++ [s]) given.2
  set : s.isSet → (given.1 = .done ↔ (s.sets? initial).isSome)
  kept : s.isSet = false ∨ given.1 ≠ .done → given.2.threshold = History.threshold initial past
  answered : ∀ r, s = .request r →
    given.1 = ((fresh initial (History.lookup first past)
      (History.threshold initial past)).step (.request r)).1

section Runs

variable {initial : Settings} {first : Lookup} {past : List Step} {e : Engine}

/-- A step leaves the engine where its history puts it. -/
theorem At.step (here : At initial first past e) (s : Step) :
    At initial first (past ++ [s]) (e.step s).2 where
  settings := by rw [snd_step, here.settings]
  threshold := by
    rw [snd_step, here.settings, here.threshold, History.threshold, History.latest_concat]
  lookup := by rw [snd_step, here.lookup, History.lookup, History.latest_concat]
  sessions := by rw [snd_step, here.sessions, History.sessions_concat]

/-- A step that is no set, or one that is refused, leaves the threshold. -/
theorem threshold_step_of_not_done {s : Step} (other : s.isSet = false ∨ (e.step s).1 ≠ .done) :
    (e.step s).2.threshold = e.threshold := by
  have none : s.sets? e.settings = none := by
    cases set : s.isSet with
    | false => exact Step.sets?_of_not_isSet set e.settings
    | true =>
      have refused := other.resolve_left (by simp [set])
      exact Option.not_isSome_iff_eq_none.mp (mt (step_eq_done_iff e set).mpr refused)
  rw [snd_step, none, Option.getD_none]

theorem At.settled (here : At initial first past e) (s : Step) :
    Settled initial first past s (e.step s) where
  here := here.step s
  set := fun set => by rw [step_eq_done_iff e set, here.settings]
  kept := fun other => (threshold_step_of_not_done other).trans here.threshold
  answered := by
    rintro r rfl
    rw [step_request_fresh, here.settings, here.lookup, here.threshold]

end Runs

end Engine

end WordStrip
