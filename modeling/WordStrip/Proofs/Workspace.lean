import WordStrip.Proofs.Basic
import WordStrip.Workspace

/-!
# What the actions of a workspace change

Every load goes through `Workspace.fetch`, whether a validator looks at the document or not. So what a
load answers follows from what is fetched (`Workspace.fst_perform_congr`), and all that a load changes is
what is remembered, by one document at most (`Workspace.snd_fetch`).

The other actions answer the same in every workspace, and they forget everything or nothing
(`Workspace.memory_perform`). No action at all changes which readers there are and what the places are,
and what a block keeps is changed by entering it only (`Workspace.snd_perform`).
-/

namespace WordStrip.Workspace

open WordStrip.Files

/-! ## Runs -/

/-- The workspace after several actions. -/
def after (w : Workspace) (actions : List Action) : Workspace :=
  actions.foldl (fun w a => (w.perform a).2) w

theorem after_cons (w : Workspace) (a : Action) (rest : List Action) :
    w.after (a :: rest) = (w.perform a).2.after rest := rfl

theorem after_append (w : Workspace) (first second : List Action) :
    w.after (first ++ second) = (w.after first).after second :=
  List.foldl_append

theorem after_concat (w : Workspace) (actions : List Action) (a : Action) :
    w.after (actions ++ [a]) = ((w.after actions).perform a).2 :=
  after_append w actions [a]

/-- What a run answers to an action is what the workspace before the action answers. -/
theorem getElem?_run (w : Workspace) (before : List Action) (a : Action) (rest : List Action) :
    (w.run (before ++ a :: rest)).1[before.length]? = some ((w.after before).perform a).1 := by
  induction before generalizing w with
  | nil => rfl
  | cons first before ih => exact ih (w.perform first).2

/-! ## Loads -/

/-- What is found in a list of pairs is listed. -/
theorem mem_of_lookup {α β : Type} [BEq α] [LawfulBEq α] {pairs : List (α × β)} {a : α} {b : β}
    (found : pairs.lookup a = some b) : (a, b) ∈ pairs := by
  obtain ⟨front, back, split, -⟩ := List.lookup_eq_some_iff.mp found
  rw [split]
  exact List.mem_append_right front List.mem_cons_self

theorem holdsNull_fileName (name : String) :
    Text.holdsNull (fileName name) = Text.holdsNull name := by
  unfold fileName
  split
  · rfl
  · simp [Text.holdsNull, documentEnding]

/-- The call that an action makes, if it loads something. -/
def Action.call? : Action → Option Call
  | load call _ => some call
  | loadSettings name directory => some (settingsCall name directory)
  | _ => none

/-- Why bytes give no document: they give no value, or the mode is none, or the value does not fit. -/
theorem read_eq_error {key : Key} {readers : Readers} {bytes : List UInt8} {e : LoadError} :
    key.read readers bytes = .error e ↔
      (∃ fault, key.format.read readers bytes = .error fault ∧ .unparsed key.path fault = e) ∨
        ∃ value, key.format.read readers bytes = .ok value ∧
          (Mode.ofName? key.mode = none ∧ .unknownMode key.mode = e ∨
            ∃ mode fault, Mode.ofName? key.mode = some mode ∧
              Document.ofJson mode value = .error fault ∧ .badForm key.path fault = e) := by
  unfold Key.read
  rw [bind_eq_error, mapError_eq_error]
  refine or_congr_right (exists_congr fun value => ?_)
  rw [mapError_eq_ok]
  refine and_congr_right fun _ => ?_
  cases Mode.ofName? key.mode with
  | none => simp [throw, throwThe, MonadExceptOf.throw]
  | some mode => simp [mapError_eq_error]

/-- A document that is read is remembered, unless it is a null. -/
theorem remember_eq (w : Workspace) (key : Key) (document : Document) :
    w.remember key document = w ∨
      w.remember key document = { w with memory := (key, document) :: w.memory } := by
  unfold remember
  split
  · exact .inl rfl
  · exact .inr rfl

/-- A document that is consulted leaves the workspace, or it was read and is remembered. -/
theorem snd_consult (w : Workspace) (key : Key) (bytes : List UInt8) :
    (w.consult key bytes).2 = w ∨
      ∃ document, key.read w.readers bytes = .ok document ∧
        (w.consult key bytes).2 = { w with memory := (key, document) :: w.memory } := by
  unfold consult
  split
  case h_1 => exact .inl rfl
  case h_2 =>
    split
    case h_1 document read =>
      rcases w.remember_eq key document with same | more
      · exact .inl same
      · exact .inr ⟨document, read, more⟩
    case h_2 => exact .inl rfl

theorem fst_consult_of_some {w : Workspace} {key : Key} {document : Document}
    (known : w.memory.lookup key = some document) (bytes : List UInt8) :
    (w.consult key bytes).1 = .ok document := by
  unfold consult
  rw [known]

theorem fst_consult_of_none {w : Workspace} {key : Key} (unknown : w.memory.lookup key = none)
    (bytes : List UInt8) : (w.consult key bytes).1 = key.read w.readers bytes := by
  unfold consult
  rw [unknown]
  cases key.read w.readers bytes <;> rfl

/-- A call finds a file: it has a path that can be walked, and the file stands there. -/
structure Finds (w : Workspace) (call : Call) (path : Path) (file : File) : Prop where
  located : w.locate call = .ok path
  walked : w.tree.failsToWalk path = false
  found : w.tree.file? path = some file

/-- Why a call finds no file. -/
inductive Misses (w : Workspace) (call : Call) : LoadError → Prop
  | unlocated {e : LoadError} (failed : w.locate call = .error e) : Misses w call e
  | unwalked {path : Path} (located : w.locate call = .ok path)
    (long : w.tree.failsToWalk path = true) : Misses w call (.nameTooLong path)
  | absent {path : Path} (located : w.locate call = .ok path)
    (walked : w.tree.failsToWalk path = false) (nothing : w.tree.file? path = none) :
    Misses w call (.notFound path)

theorem finds_or_misses (w : Workspace) (call : Call) :
    (∃ path file, w.Finds call path file) ∨ ∃ e, w.Misses call e := by
  cases located : w.locate call with
  | error e => exact .inr ⟨e, .unlocated located⟩
  | ok path =>
    cases walked : w.tree.failsToWalk path with
    | true => exact .inr ⟨_, .unwalked located walked⟩
    | false =>
      cases found : w.tree.file? path with
      | none => exact .inr ⟨_, .absent located walked found⟩
      | some file => exact .inl ⟨path, file, located, walked, found⟩

theorem Misses.fetch {w : Workspace} {call : Call} {e : LoadError} (misses : w.Misses call e) :
    w.fetch call = (.error e, w) := by
  unfold Workspace.fetch
  cases misses with
  | unlocated failed => rw [failed]
  | unwalked located long => simp [located, long]
  | absent located walked nothing => simp [located, walked, nothing]

/-- What is fetched from a file that a call finds is consulted. -/
theorem Finds.fetch {w : Workspace} {call : Call} {path : Path} {file : File}
    (finds : w.Finds call path file) :
    w.fetch call =
      ((w.consult (call.key path file) file.bytes).1.map (path, ·),
        (w.consult (call.key path file) file.bytes).2) := by
  unfold Workspace.fetch
  simp [finds.located, finds.walked, finds.found]

/-- What is fetched from a file that is not remembered is what the file gives. -/
theorem Finds.fst_fetch {w : Workspace} {call : Call} {path : Path} {file : File}
    (finds : w.Finds call path file) (unknown : w.memory.lookup (call.key path file) = none) :
    (w.fetch call).1 = ((call.key path file).read w.readers file.bytes).map (path, ·) := by
  rw [finds.fetch, fst_consult_of_none unknown]

/-- What is fetched leaves the workspace, or it was read from a file that is there now. -/
theorem snd_fetch (w : Workspace) (call : Call) :
    (w.fetch call).2 = w ∨
      ∃ path file document, w.tree.file? path = some file ∧
        (call.key path file).read w.readers file.bytes = .ok document ∧
        (w.fetch call).2 = { w with memory := (call.key path file, document) :: w.memory } := by
  rcases w.finds_or_misses call with ⟨path, file, finds⟩ | ⟨e, misses⟩
  · rw [finds.fetch]
    rcases w.snd_consult (call.key path file) file.bytes with same | ⟨document, read, more⟩
    · exact .inl same
    · exact .inr ⟨path, file, document, finds.found, read, more⟩
  · rw [misses.fetch]
    exact .inl rfl

/-- Fetching changes what is remembered and nothing else. -/
theorem fetch_frame (w : Workspace) (call : Call) :
    (w.fetch call).2 = { w with memory := (w.fetch call).2.memory } := by
  rcases w.snd_fetch call with same | ⟨_, _, _, _, _, more⟩
  · rw [same]
  · rw [more]

/-- Why nothing is fetched: there is no file, or what is read from it is no document. -/
theorem fst_fetch_eq_error {w : Workspace} {call : Call} {e : LoadError} :
    (w.fetch call).1 = .error e ↔
      w.Misses call e ∨
        ∃ path file, w.Finds call path file ∧ w.memory.lookup (call.key path file) = none ∧
          (call.key path file).read w.readers file.bytes = .error e := by
  constructor
  · intro failed
    rcases w.finds_or_misses call with ⟨path, file, finds⟩ | ⟨other, misses⟩
    · cases known : w.memory.lookup (call.key path file) with
      | some document =>
        rw [finds.fetch, fst_consult_of_some known] at failed
        cases failed
      | none =>
        rw [finds.fst_fetch known, map_eq_error] at failed
        exact .inr ⟨path, file, finds, known, failed⟩
    · rw [misses.fetch] at failed
      obtain rfl := Except.error.inj failed
      exact .inl misses
  · rintro (misses | ⟨path, file, finds, unknown, read⟩)
    · rw [misses.fetch]
    · rw [finds.fst_fetch unknown, read]
      rfl

/-- A document that is fetched is remembered, or the file at the path gives it. -/
theorem exists_file_of_fetch {w : Workspace} {call : Call} {path : Path} {document : Document}
    (fetched : (w.fetch call).1 = .ok (path, document)) :
    ∃ file, w.memory.lookup (call.key path file) = some document ∨
      (call.key path file).read w.readers file.bytes = .ok document := by
  rcases w.finds_or_misses call with ⟨there, file, finds⟩ | ⟨e, misses⟩
  · cases known : w.memory.lookup (call.key there file) with
    | some old =>
      rw [finds.fetch, fst_consult_of_some known] at fetched
      obtain ⟨rfl, rfl⟩ := Prod.mk.inj (Except.ok.inj fetched)
      exact ⟨file, .inl known⟩
    | none =>
      rw [finds.fst_fetch known] at fetched
      obtain ⟨d, read, same⟩ := map_eq_ok.mp fetched
      obtain ⟨rfl, rfl⟩ := Prod.mk.inj same
      exact ⟨file, .inr read⟩
  · rw [misses.fetch] at fetched
    cases fetched

theorem snd_loadWith {α : Type} (w : Workspace) (call : Call) (validator : Validator α) :
    (w.loadWith call validator).2 = (w.fetch call).2 := by
  unfold loadWith
  split
  case h_1 after fetched => rw [fetched]
  case h_2 path document after fetched => rw [fetched]

/-- A load with a validator fails when nothing is fetched, or what is fetched is refused. -/
theorem fst_loadWith_eq_error {α : Type} {w : Workspace} {call : Call} {validator : Validator α}
    {e : LoadError} :
    (w.loadWith call validator).1 = .error e ↔
      (w.fetch call).1 = .error e ∨
        ∃ path document, (w.fetch call).1 = .ok (path, document) ∧
          validate call.mode validator path document = .error e := by
  unfold loadWith
  rcases w.fetch call with ⟨_ | ⟨path, document⟩, after⟩
  · simp
  · simp [and_assoc]

section Loads

variable {w v : Workspace} {a : Action} {call : Call}

/-- A load changes what fetching changes. -/
theorem snd_perform_of_call (loads : a.call? = some call) :
    (w.perform a).2 = (w.fetch call).2 := by
  cases a with
  | load _ validator =>
    obtain rfl := Option.some.inj loads
    cases validator with
    | none => rfl
    | some validator => exact w.snd_loadWith _ validator
  | loadSettings =>
    obtain rfl := Option.some.inj loads
    exact w.snd_loadWith _ settingsValidator
  | _ => exact nomatch loads

theorem fst_loadWith_congr {α : Type} (same : (w.fetch call).1 = (v.fetch call).1)
    (validator : Validator α) : (w.loadWith call validator).1 = (v.loadWith call validator).1 := by
  rcases here : w.fetch call with ⟨outcome, after⟩
  rcases there : v.fetch call with ⟨other, later⟩
  rw [here, there] at same
  obtain rfl : outcome = other := same
  unfold loadWith
  rw [here, there]
  cases outcome <;> rfl

/-- Where the same is fetched, a load answers the same. -/
theorem fst_perform_congr (loads : a.call? = some call)
    (same : (w.fetch call).1 = (v.fetch call).1) : (w.perform a).1 = (v.perform a).1 := by
  cases a with
  | load _ validator =>
    obtain rfl := Option.some.inj loads
    cases validator with
    | none =>
      show some (((w.fetch _).1.map _).map _) = some (((v.fetch _).1.map _).map _)
      rw [same]
    | some validator => exact congrArg some (fst_loadWith_congr same validator)
  | loadSettings =>
    obtain rfl := Option.some.inj loads
    have answer := fst_loadWith_congr same settingsValidator
    show some ((w.loadWith _ _).1.map _) = some ((v.loadWith _ _).1.map _)
    rw [answer]
  | _ => exact nomatch loads

/-- Where nothing can be fetched, a load fails whoever looks at the document. -/
theorem fst_perform_of_error {e : LoadError} (failed : (w.fetch call).1 = .error e)
    (validator : Option (Validator Loaded)) :
    (w.perform (.load call validator)).1 = some (.error e) := by
  cases validator with
  | none =>
    show some (((w.fetch call).1.map _).map _) = _
    rw [failed]
    rfl
  | some validator => exact congrArg some (fst_loadWith_eq_error.mpr (.inl failed))

/-- An action that loads nothing answers the same everywhere. -/
theorem fst_perform_of_no_call (other : a.call? = none) (w v : Workspace) :
    (w.perform a).1 = (v.perform a).1 := by
  cases a with
  | load => exact nomatch other
  | loadSettings => exact nomatch other
  | setVariable name value =>
    simp only [perform]
    split <;> rfl
  | enter block directory =>
    simp only [perform]
    split <;> rfl
  | _ => rfl

end Loads

/-! ## Frames -/

/-- The block that an action enters, or tries to. -/
def Action.enters? : Action → Option Nat
  | enter block _ => some block
  | _ => none

/-- What blocks keep after an action: a block that is entered keeps the value of the data variable. -/
def keptAfter (w : Workspace) (a : Action) : List (Nat × Option String) :=
  match a.enters? with
  | some block => (block, Entries.get? w.environment dataVariable) :: w.blocks
  | none => w.blocks

/-- An action changes the files, the environment and the memory at most, and what the block keeps that
it enters. -/
theorem snd_perform (w : Workspace) (a : Action) :
    ∃ tree environment memory,
      (w.perform a).2 = { w with tree, environment, memory, blocks := w.keptAfter a } := by
  cases loads : a.call? with
  | some call =>
    have blocks : w.keptAfter a = w.blocks := by
      cases a with
      | enter => exact nomatch loads
      | _ => rfl
    rw [snd_perform_of_call loads, fetch_frame, blocks]
    exact ⟨_, _, _, rfl⟩
  | none =>
    cases a with
    | load => exact nomatch loads
    | loadSettings => exact nomatch loads
    | setVariable name value =>
      simp only [perform]
      split <;> exact ⟨_, _, _, rfl⟩
    | enter block directory =>
      simp only [perform]
      split <;> exact ⟨_, _, _, rfl⟩
    | _ => exact ⟨_, _, _, rfl⟩

/-- No run changes which readers there are. -/
theorem readers_after (w : Workspace) (actions : List Action) :
    (w.after actions).readers = w.readers := by
  induction actions generalizing w with
  | nil => rfl
  | cons a rest ih =>
    obtain ⟨_, _, _, step⟩ := w.snd_perform a
    rw [after_cons, ih, step]

/-- No run changes the places that texts are read from. -/
theorem places_after (w : Workspace) (actions : List Action) :
    (w.after actions).places = w.places := by
  induction actions generalizing w with
  | nil => rfl
  | cons a rest ih =>
    obtain ⟨_, _, _, step⟩ := w.snd_perform a
    rw [after_cons, ih, step]

/-- An action that loads nothing forgets nothing or everything. -/
theorem memory_perform {a : Action} (other : a.call? = none) (w : Workspace) :
    (w.perform a).2.memory = w.memory ∨ (w.perform a).2.memory = [] := by
  cases a with
  | load => exact nomatch other
  | loadSettings => exact nomatch other
  | setVariable name value =>
    simp only [perform]
    split <;> exact .inl rfl
  | enter block directory =>
    simp only [perform]
    split
    · exact .inl rfl
    · exact .inr rfl
  | forget => exact .inr rfl
  | leave => exact .inr rfl
  | write => exact .inl rfl
  | makeDirectory => exact .inl rfl
  | delete => exact .inl rfl
  | unsetVariable => exact .inl rfl

/-! ## A workspace to begin with -/

/-- An empty workspace at the root, with no reader from outside. -/
def bare : Workspace where
  tree := {}
  environment := []
  places := { current := .root, package := .root }
  readers := .absent

/-- A load of a list of numbers at the root. -/
def loadNumbers : Action := .load { name := "numbers", directory := some "/" } none

end WordStrip.Workspace
