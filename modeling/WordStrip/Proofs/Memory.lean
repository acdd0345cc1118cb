import Mathlib.Data.List.Induction
import Mathlib.Data.List.Infix
import WordStrip.Proofs.Workspace

/-!
# What is remembered is never seen

A load looks a document up by path, time, mode and format before it reads the file. The law here says
that this only saves work (`Workspace.run_forgetful`): whatever was written, deleted, set, entered, left
and loaded before, with success or without, an action answers what it would answer with nothing
remembered. One thing is asked of the files: a path must not carry different bytes with the same time at
two moments of the run (`Workspace.Stamped`). Without it the law fails, since the time is all that a load
looks at before it takes what it remembers.

What carries the argument is where the memory comes from (`Workspace.Learned`): each document in it was
read, under its key, from a file that its path carried at an earlier moment with the time of the key. A
step keeps this (`Workspace.Learned.step`), also one that fails, and so does a run
(`Workspace.learned_after`). A document that is found again was therefore read from bytes that the file
still has (`Workspace.Learned.read_of_lookup`), and the readers, those from outside too, make of them what
they made then. A null is read anew each time, and needs no word here.
-/

namespace WordStrip.Workspace

open WordStrip.Files

/-- At no two moments of a run does a path carry different bytes with the same time. -/
def Stamped (w : Workspace) (actions : List Action) : Prop :=
  ∀ earlier later, earlier <+: actions → later <+: actions → ∀ path file other,
    (w.after earlier).tree.file? path = some file → (w.after later).tree.file? path = some other →
    file.time = other.time → file.bytes = other.bytes

/-- The listed node of a path with a file. -/
theorem exists_node_of_file? {t : Tree} {path : Path} {file : File}
    (found : t.file? path = some file) : ∃ node ∈ t.nodes, node.1 = path := by
  unfold Tree.file? Tree.get? at found
  split at found
  case h_2 => exact nomatch found
  case h_1 f there =>
    split at there
    · exact nomatch there
    · exact ⟨(path, .file f), mem_of_lookup there, rfl⟩

/-- Whether two files that a path may carry have the same bytes if they have the same time. -/
def sameStamp : Option File → Option File → Bool
  | some file, some other => file.time != other.time || file.bytes == other.bytes
  | _, _ => true

/-- Whether the times of a run tell contents apart can be computed. -/
instance decidableStamped (w : Workspace) (actions : List Action) : Decidable (Stamped w actions) :=
  decidable_of_iff
    (∀ earlier ∈ actions.inits, ∀ later ∈ actions.inits, ∀ node ∈ (w.after earlier).tree.nodes,
      sameStamp ((w.after earlier).tree.file? node.1) ((w.after later).tree.file? node.1) = true) <| by
    constructor
    · intro all earlier later before after path file other here there time
      obtain ⟨node, listed, rfl⟩ := exists_node_of_file? here
      have same := all earlier ((List.mem_inits _ _).mpr before) later ((List.mem_inits _ _).mpr after)
        node listed
      rw [here, there] at same
      simpa [sameStamp, time] using same
    · intro stamped earlier before later after node listed
      cases here : (w.after earlier).tree.file? node.1 with
      | none => rfl
      | some file =>
        cases there : (w.after later).tree.file? node.1 with
        | none => rfl
        | some other =>
          have same := stamped earlier later ((List.mem_inits _ _).mp before)
            ((List.mem_inits _ _).mp after) node.1 file other here there
          simpa [sameStamp, ← imp_iff_not_or] using same

/-- What is remembered was read, each document under its key, from files of the past. -/
def Learned (start : Workspace) (past : List Action) (memory : List (Key × Document)) : Prop :=
  ∀ key document, (key, document) ∈ memory →
    ∃ before file, before <+: past ∧ (start.after before).tree.file? key.path = some file ∧
      file.time = key.time ∧ key.read start.readers file.bytes = .ok document

section Runs

variable {start : Workspace} {past : List Action} {memory : List (Key × Document)}

theorem Learned.mono (learned : Learned start past memory) (a : Action) :
    Learned start (past ++ [a]) memory := by
  intro key document known
  obtain ⟨before, file, earlier, found, time, read⟩ := learned key document known
  exact ⟨before, file, earlier.trans (List.prefix_append past [a]), found, time, read⟩

/-- A step learns from the files that it finds. -/
theorem Learned.step (learned : Learned start past (start.after past).memory) (a : Action) :
    Learned start (past ++ [a]) ((start.after past).perform a).2.memory := by
  cases loads : a.call? with
  | none =>
    rcases memory_perform loads (start.after past) with same | nothing
    · rw [same]
      exact learned.mono a
    · rw [nothing]
      intro key document known
      exact absurd known List.not_mem_nil
  | some call =>
    rw [snd_perform_of_call loads]
    rcases (start.after past).snd_fetch call with same | ⟨path, file, document, found, read, more⟩
    · rw [same]
      exact learned.mono a
    · rw [more]
      intro key known listed
      rcases List.mem_cons.mp listed with new | old
      · obtain ⟨rfl, rfl⟩ := Prod.mk.inj new
        rw [readers_after] at read
        exact ⟨past, file, List.prefix_append past [a], found, rfl, read⟩
      · exact learned.mono a key known old

/-- So does a run that starts with nothing remembered. -/
theorem learned_after (fresh : start.memory = []) (past : List Action) :
    Learned start past (start.after past).memory := by
  induction past using List.reverseRecOn with
  | nil =>
    intro key document known
    rw [show (start.after []).memory = [] from fresh] at known
    exact absurd known List.not_mem_nil
  | append_singleton past a ih =>
    rw [after_concat]
    exact ih.step a

/-- A document that is found under the key of a file is the one that the file gives. -/
theorem Learned.read_of_lookup (learned : Learned start past memory) (stamped : Stamped start past)
    {key : Key} {file : File} {document : Document}
    (here : (start.after past).tree.file? key.path = some file) (time : file.time = key.time)
    (found : memory.lookup key = some document) :
    key.read start.readers file.bytes = .ok document := by
  obtain ⟨before, old, earlier, there, stamp, read⟩ := learned key document (mem_of_lookup found)
  have same : old.bytes = file.bytes :=
    stamped before past earlier List.prefix_rfl key.path old file there here (stamp.trans time.symm)
  rw [← same]
  exact read

end Runs

/-! ## Loads with nothing remembered -/

/-- If what is remembered is what would be read, the same is fetched with nothing remembered. -/
theorem fst_fetch_forgetAll (w : Workspace) (call : Call)
    (right : ∀ path file document, w.tree.file? path = some file →
      w.memory.lookup (call.key path file) = some document →
      (call.key path file).read w.readers file.bytes = .ok document) :
    (w.fetch call).1 = (w.forgetAll.fetch call).1 := by
  rcases w.finds_or_misses call with ⟨path, file, finds⟩ | ⟨e, misses⟩
  · have anew : w.forgetAll.Finds call path file := ⟨finds.located, finds.walked, finds.found⟩
    rw [finds.fetch, anew.fetch]
    refine congrArg (Except.map (path, ·)) ?_
    have nothing : w.forgetAll.memory.lookup (call.key path file) = none := rfl
    rw [fst_consult_of_none nothing]
    cases known : w.memory.lookup (call.key path file) with
    | some document =>
      rw [fst_consult_of_some known]
      exact (right path file document finds.found known).symm
    | none => rw [fst_consult_of_none known, forgetAll]
  · have anew : w.forgetAll.Misses call e := by
      cases misses with
      | unlocated failed => exact .unlocated failed
      | unwalked located long => exact .unwalked located long
      | absent located walked nothing => exact .absent located walked nothing
    rw [misses.fetch, anew.fetch]

/-- Whatever was done before and whatever readers come from outside, an action answers what it answers
with nothing remembered, if the times of the files tell their contents apart. -/
theorem run_forgetful {start : Workspace} (fresh : start.memory = []) {before : List Action}
    (stamped : Stamped start before) (a : Action) (rest : List Action) :
    (start.run (before ++ a :: rest)).1[before.length]? =
      some ((start.after before).forgetAll.perform a).1 := by
  rw [getElem?_run]
  refine congrArg some ?_
  cases loads : a.call? with
  | none => exact fst_perform_of_no_call loads _ _
  | some call =>
    refine fst_perform_congr loads (fst_fetch_forgetAll _ call ?_)
    intro path file document found known
    rw [readers_after]
    exact (learned_after fresh before).read_of_lookup stamped found rfl known

/-! ### A list in another encoding -/

/-- The characters of pairs of bytes, the lower byte first. -/
def decodePairs : List UInt8 → Except Raised (List Char)
  | [] => .ok []
  | [_] => .error (.other "UnicodeDecodeError" "truncated data")
  | low :: high :: rest => do
    return Char.ofNat (256 * high.toNat + low.toNat) :: (← decodePairs rest)

/-- Readers with one codec, UTF-16 for texts in which every character is one pair of bytes. -/
def pairReaders : Readers where
  codec name :=
    if name = "utf-16-le" then .ok fun bytes => (decodePairs bytes).map String.ofList
    else Readers.absent.codec name
  relaxed := none

/-- The empty workspace with these readers. -/
def pairBare : Workspace := { bare with readers := pairReaders }

/-- A load of a list of numbers in UTF-16. -/
def loadPairs : Action :=
  .load { name := "numbers", directory := some "/", format := { encoding := "utf-16-le" } } none

/-- The list of numbers is written, rewritten with a new time, deleted, and put back as it was, with a
load after each. -/
def putBack : List Action :=
  let path : Path := ⟨["numbers.json"]⟩
  let first : File := ⟨[0x5B, 0, 0x31, 0, 0x5D, 0], 1⟩
  let second : File := ⟨[0x5B, 0, 0x32, 0, 0x5D, 0], 2⟩
  [.write path first, loadPairs, .write path second, loadPairs, .delete path, loadPairs,
    .write path first]

/-- When the list was put back both of its contents are remembered, and a load gives the first, as it
would with nothing remembered. -/
theorem putBack_forgetful :
    pairBare.memory = [] ∧ Stamped pairBare putBack ∧ (pairBare.after putBack).memory.length = 2 ∧
      (pairBare.run (putBack ++ [loadPairs])).1[putBack.length]? =
        some ((pairBare.after putBack).forgetAll.perform loadPairs).1 := by
  have stamped : Stamped pairBare putBack := by decide +kernel
  exact ⟨rfl, stamped, by decide +kernel, run_forgetful rfl stamped loadPairs []⟩

end WordStrip.Workspace
