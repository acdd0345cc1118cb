import Mathlib.Data.List.Induction
import WordStrip.Proofs.Workspace

/-!
# Blocks with another data directory

A block sets the data variable when it is entered and gives the old value back when it is left. The law
here (`Workspace.blocks_restore`) is about every run in which each action that leaves a block leaves the
one that was entered last and is still open (`Workspace.openBlocks`) and no block is entered twice. After
each leaving the data variable is what it was before the block was entered, whether it had a value, the
empty one or none, and whatever was done to it inside. Nothing is remembered then, and the other
variables and the files are what the actions inside have left. A run that closes all of its blocks and
sets no variable by itself leaves the data directory that the environment names.

A block keeps the old value by itself. So a value is given back rightly because no other action touches
what a block keeps (`Workspace.kept_after`), and nesting is needed only to say which entering a leaving
belongs to (`Workspace.Opened`): a run is read from the left, and every block that is open has a balanced
run behind it.
-/

namespace WordStrip

open WordStrip.Files

/-! ## Environments -/

namespace Files

theorem get?_set (e : Environment) (name value key : String) :
    Entries.get? (e.set name value) key = if key = name then some value else Entries.get? e key :=
  Entries.get?_put name key value e

theorem get?_unset (e : Environment) (name key : String) :
    Entries.get? (e.unset name) key = if key = name then none else Entries.get? e key := by
  induction e with
  | nil => simp [Environment.unset]
  | cons entry rest ih =>
    obtain ⟨first, value⟩ := entry
    by_cases taken : first = name
    · have same : Environment.unset ((first, value) :: rest) name = Environment.unset rest name := by
        simp [Environment.unset, taken]
      rw [same, ih, Entries.get?_cons]
      by_cases h : key = name
      · rw [if_pos h, if_pos h]
      · rw [if_neg h, if_neg h, if_neg (fun k => h (k.trans taken))]
    · have more : Environment.unset ((first, value) :: rest) name =
          (first, value) :: Environment.unset rest name := by
        simp [Environment.unset, taken]
      rw [more, Entries.get?_cons, Entries.get?_cons, ih]
      by_cases h : key = first
      · rw [if_pos h, if_pos h, if_neg (fun k => taken (h.symm.trans k))]
      · rw [if_neg h, if_neg h]

/-- The data directory that an environment names depends on the values of its variables only. -/
theorem namedDirectory?_congr {e other : Environment}
    (same : ∀ name, Entries.get? e name = Entries.get? other name) (places : Surroundings) :
    namedDirectory? places e = namedDirectory? places other := by
  have expand (s : String) : expandHome places e s = expandHome places other s := by
    simp only [expandHome, home?, same]
  simp only [namedDirectory?, same, expand]

end Files

namespace Workspace

/-! ## Brackets -/

/-- Whether an action neither enters nor leaves a block. One that is refused does not enter. -/
def Action.isQuiet : Action → Bool
  | enter _ directory => Text.holdsNull directory
  | leave _ => false
  | _ => true

/-- Whether an action sets or unsets a variable by itself. -/
def Action.setsVariable : Action → Bool
  | setVariable _ value => !Text.holdsNull value
  | unsetVariable _ => true
  | _ => false

/-- The blocks that are open after an action, the one entered last in front, where `opened` are open
before. An action may only leave the block in front. -/
def Action.opens (opened : List Nat) : Action → Option (List Nat)
  | enter block directory =>
    some (if Text.holdsNull directory then opened else block :: opened)
  | leave block => if opened.head? = some block then some opened.tail else none
  | _ => some opened

/-- The blocks that are open after several actions, if each action that leaves a block leaves the one
that was entered last. -/
def openBlocks (actions : List Action) : Option (List Nat) :=
  actions.foldlM Action.opens []

/-- Runs that close every block they enter. -/
inductive Balanced : List Action → Prop
  | nil : Balanced []
  | quiet {past : List Action} {a : Action} (before : Balanced past) (quiet : a.isQuiet) :
    Balanced (past ++ [a])
  | block {past inner : List Action} {number : Nat} {directory : String} (before : Balanced past)
    (inside : Balanced inner) (entered : Text.holdsNull directory = false) :
    Balanced (past ++ .enter number directory :: (inner ++ [.leave number]))

/-- Runs that leave some blocks open, each with a balanced run behind its entering. -/
inductive Opened : List Action → List Nat → Prop
  | none {past : List Action} (before : Balanced past) : Opened past []
  | block {outer inner : List Action} {below : List Nat} {number : Nat} {directory : String}
    (outside : Opened outer below) (inside : Balanced inner)
    (entered : Text.holdsNull directory = false) :
    Opened (outer ++ .enter number directory :: inner) (number :: below)

/-- A quiet action leaves what is open. -/
theorem opens_of_quiet {a : Action} (quiet : a.isQuiet) (opened : List Nat) :
    a.opens opened = some opened := by
  cases a with
  | enter block directory => exact congrArg some (if_pos quiet)
  | leave => exact nomatch quiet
  | _ => rfl

section Opened

variable {past : List Action} {opened : List Nat}

theorem Opened.quiet {a : Action} (here : Opened past opened) (quiet : a.isQuiet) :
    Opened (past ++ [a]) opened := by
  cases here with
  | none before => exact .none (before.quiet quiet)
  | block outside inside entered =>
    rw [List.append_assoc, List.cons_append]
    exact .block outside (inside.quiet quiet) entered

theorem Opened.enter {number : Nat} {directory : String} (here : Opened past opened)
    (entered : Text.holdsNull directory = false) :
    Opened (past ++ [.enter number directory]) (number :: opened) :=
  .block here .nil entered

/-- A block that is left joins the balanced run that it stands in. -/
theorem Opened.leave {number : Nat} (here : Opened past (number :: opened)) :
    Opened (past ++ [.leave number]) opened := by
  cases here with
  | block outside inside entered =>
    rw [List.append_assoc, List.cons_append]
    cases outside with
    | none before => exact .none (before.block inside entered)
    | block further between early =>
      rw [List.append_assoc, List.cons_append]
      exact .block further (between.block inside entered) early

/-- The blocks that are counted as open are open. -/
theorem opened_of_openBlocks (counted : openBlocks past = some opened) : Opened past opened := by
  induction past using List.reverseRecOn generalizing opened with
  | nil =>
    obtain rfl : [] = opened := Option.some.inj counted
    exact .none .nil
  | append_singleton past a ih =>
    rw [openBlocks, List.foldlM_append] at counted
    obtain ⟨before, here, last⟩ := Option.bind_eq_some_iff.mp counted
    have last : a.opens before = some opened := by
      simpa [List.foldlM_cons, List.foldlM_nil] using last
    cases quiet : a.isQuiet with
    | true =>
      rw [opens_of_quiet quiet] at last
      obtain rfl := Option.some.inj last
      exact (ih here).quiet quiet
    | false =>
      cases a with
      | enter number directory =>
        have entered : Text.holdsNull directory = false := quiet
        simp only [Action.opens, entered] at last
        obtain rfl := Option.some.inj last
        exact (ih here).enter entered
      | leave number =>
        simp only [Action.opens] at last
        split at last
        case isTrue front =>
          obtain rfl := Option.some.inj last
          obtain ⟨below, rfl⟩ := List.head?_eq_some_iff.mp front
          exact (ih here).leave
        case isFalse => exact nomatch last
      | _ => exact nomatch quiet

end Opened

/-! ## What a block keeps -/

/-- An action that enters no block with this number leaves what the block keeps. -/
theorem kept_perform {a : Action} {number : Nat} (other : a.enters? ≠ some number)
    (w : Workspace) : (w.perform a).2.kept number = w.kept number := by
  obtain ⟨_, _, _, step⟩ := w.snd_perform a
  rw [step, kept, kept, keptAfter]
  cases entered : a.enters? with
  | none => rfl
  | some block =>
    have differs : (number == block) = false := by
      simpa using fun same => other (entered.trans (congrArg some same.symm))
    simp only [List.lookup_cons, differs]

theorem kept_after {actions : List Action} {number : Nat}
    (other : number ∉ actions.filterMap Action.enters?) (w : Workspace) :
    (w.after actions).kept number = w.kept number := by
  induction actions generalizing w with
  | nil => rfl
  | cons a rest ih =>
    have first : a.enters? ≠ some number := fun enters =>
      other (List.mem_filterMap.mpr ⟨a, List.mem_cons_self, enters⟩)
    have later : number ∉ rest.filterMap Action.enters? := fun listed => by
      obtain ⟨b, listed, enters⟩ := List.mem_filterMap.mp listed
      exact other (List.mem_filterMap.mpr ⟨b, List.mem_cons_of_mem a listed, enters⟩)
    rw [after_cons, ih later, kept_perform first]

/-- A block that is entered keeps the value of the data variable. -/
theorem kept_enter (w : Workspace) (number : Nat) (directory : String) :
    (w.perform (.enter number directory)).2.kept number =
      Entries.get? w.environment dataVariable := by
  obtain ⟨_, _, _, step⟩ := w.snd_perform (.enter number directory)
  rw [step, kept]
  simp [keptAfter, Action.enters?]

/-! ## Leaving a block -/

/-- What is so after a block was left: the data variable is what it was before the block was entered,
and all else but the memory is what it was inside. -/
structure Restored (before inside outside : Workspace) : Prop where
  given : Entries.get? outside.environment dataVariable =
    Entries.get? before.environment dataVariable
  others : ∀ name, name ≠ dataVariable →
    Entries.get? outside.environment name = Entries.get? inside.environment name
  memory : outside.memory = []
  tree : outside.tree = inside.tree

theorem get?_leaveBlock (w : Workspace) (number : Nat) (name : String) :
    Entries.get? (w.leaveBlock number).environment name =
      if name = dataVariable then w.kept number else Entries.get? w.environment name := by
  unfold leaveBlock
  cases w.kept number with
  | some value => exact get?_set _ _ _ _
  | none => exact get?_unset _ _ _

/-- A block that was entered in a workspace gives the value back that the data variable had there, if it
was not entered again. -/
theorem restored_leave (w : Workspace) (number : Nat) (directory : String) {inner : List Action}
    (once : number ∉ inner.filterMap Action.enters?) :
    Restored w (w.after (.enter number directory :: inner))
      (w.after (.enter number directory :: (inner ++ [.leave number]))) := by
  have last : w.after (.enter number directory :: (inner ++ [.leave number])) =
      (w.after (.enter number directory :: inner)).leaveBlock number := by
    rw [← List.cons_append, after_concat]
    rfl
  rw [last]
  refine ⟨?_, ?_, rfl, rfl⟩
  · rw [get?_leaveBlock, if_pos rfl, after_cons, kept_after once, kept_enter]
  · intro name other
    rw [get?_leaveBlock, if_neg other]

/-! ## Balanced runs -/

/-- A quiet action that sets no variable leaves the environment. -/
theorem environment_perform {a : Action} (quiet : a.isQuiet) (sets : a.setsVariable = false)
    (w : Workspace) : (w.perform a).2.environment = w.environment := by
  cases loads : a.call? with
  | some call => rw [snd_perform_of_call loads, fetch_frame]
  | none =>
    cases a with
    | load => cases loads
    | loadSettings => cases loads
    | setVariable name value =>
      have refused : Text.holdsNull value = true := by simpa [Action.setsVariable] using sets
      simp only [perform, if_pos refused]
    | unsetVariable => cases sets
    | enter block directory =>
      have refused : Text.holdsNull directory = true := quiet
      simp only [perform, if_pos refused]
      rfl
    | leave => cases quiet
    | _ => rfl

/-- Entering a block changes no other variable. -/
theorem get?_enter (w : Workspace) (number : Nat) (directory : String) {name : String}
    (other : name ≠ dataVariable) :
    Entries.get? (w.perform (.enter number directory)).2.environment name =
      Entries.get? w.environment name := by
  simp only [perform]
  split
  · rfl
  · exact (get?_set _ _ _ _).trans (if_neg other)

/-- A balanced run that sets no variable by itself leaves the value of every variable. -/
theorem get?_of_balanced {actions : List Action} (balanced : Balanced actions)
    (once : (actions.filterMap Action.enters?).Nodup)
    (sets : ∀ a ∈ actions, a.setsVariable = false) (w : Workspace) (name : String) :
    Entries.get? (w.after actions).environment name = Entries.get? w.environment name := by
  induction balanced generalizing w with
  | nil => rfl
  | @quiet past a before quiet ih =>
    rw [List.filterMap_append, List.nodup_append] at once
    rw [after_concat,
      environment_perform quiet (sets a (List.mem_append_right past List.mem_cons_self))]
    exact ih once.1 (fun b listed => sets b (List.mem_append_left [a] listed)) w
  | @block past inner number directory before inside entered ihBefore ihInside =>
    rw [List.filterMap_append, List.nodup_append] at once
    have here : (number :: inner.filterMap Action.enters?).Nodup := by
      simpa [List.filterMap_cons, Action.enters?] using once.2.1
    have before' := ihBefore once.1
      (fun b listed => sets b (List.mem_append_left _ listed)) w
    rw [after_append, ← before']
    have restored : Restored (w.after past) _ _ :=
      restored_leave _ number directory (List.nodup_cons.mp here).1
    by_cases data : name = dataVariable
    · rw [data]
      exact restored.given
    · -- the block changes the data variable only, and the run inside it no variable
      rw [restored.others name data, after_cons]
      have inside' := ihInside (List.nodup_cons.mp here).2
        (fun b listed => sets b (List.mem_append_right past
          (List.mem_cons_of_mem _ (List.mem_append_left _ listed))))
        ((w.after past).perform (.enter number directory)).2
      rw [inside', get?_enter _ _ _ data]

/-- In a run whose blocks are nested, each with a number of its own, leaving a block gives the data
variable the value back that it had when the block was entered, and only that. When such a run has closed
all of its blocks and set no variable by itself, the environment names the same data directory. -/
theorem blocks_restore (w : Workspace) {actions : List Action} {opened : List Nat}
    (nested : openBlocks actions = some opened)
    (once : (actions.filterMap Action.enters?).Nodup) :
    (∀ past number rest, actions = past ++ .leave number :: rest →
      ∃ outer directory inner, past = outer ++ .enter number directory :: inner ∧
        Text.holdsNull directory = false ∧ Balanced inner ∧
        Restored (w.after outer) (w.after past) (w.after (past ++ [.leave number]))) ∧
      (opened = [] → (∀ a ∈ actions, a.setsVariable = false) →
        namedDirectory? (w.after actions).places (w.after actions).environment =
          namedDirectory? w.places w.environment) := by
  constructor
  · rintro past number rest rfl
    -- at the leaving the block is open and in front
    rw [openBlocks, List.foldlM_append] at nested
    obtain ⟨before, here, last⟩ := Option.bind_eq_some_iff.mp nested
    obtain ⟨_, left, -⟩ := Option.bind_eq_some_iff.mp last
    simp only [Action.opens] at left
    split at left
    case isFalse => exact nomatch left
    case isTrue front =>
      obtain ⟨below, rfl⟩ := List.head?_eq_some_iff.mp front
      cases opened_of_openBlocks here with
      | @block outer inner _ _ directory outside inside entered =>
        refine ⟨outer, directory, inner, rfl, entered, inside, ?_⟩
        have own : number ∉ inner.filterMap Action.enters? := by
          rw [List.filterMap_append, List.filterMap_append, List.nodup_append,
            List.nodup_append] at once
          have here : (number :: inner.filterMap Action.enters?).Nodup := once.1.2.1
          exact (List.nodup_cons.mp here).1
        rw [after_append, List.append_assoc, List.cons_append, after_append]
        exact restored_leave _ number directory own
  · rintro rfl sets
    cases opened_of_openBlocks nested with
    | none balanced =>
      rw [places_after]
      exact namedDirectory?_congr (get?_of_balanced balanced once sets w) w.places

/-- A workspace in which the data variable is empty and the second variable names a directory. -/
def emptyNamed : Workspace := { bare with environment := [(dataVariable, ""), ("DATA_DIR", "/d")] }

/-- Two blocks, one inside the other. The data variable is unset in the outer one and set in the inner
one. -/
def twoBlocks : List Action := [
  .enter 0 "/a", .unsetVariable dataVariable, .enter 1 "/b", .setVariable dataVariable "/c",
  .leave 1, loadNumbers, .leave 0]

/-- Two blocks, one inside the other, that set no variable by themselves. -/
def quietBlocks : List Action := [.enter 0 "/a", .enter 1 "", .forget, .leave 1, .leave 0]

/-- The empty value comes back after two blocks that were tampered with, and after two that were not the
second variable names the data directory again. -/
theorem twoBlocks_restored :
    openBlocks twoBlocks = some [] ∧ (twoBlocks.filterMap Action.enters?).Nodup ∧
      (∃ outer directory inner, twoBlocks.dropLast = outer ++ .enter 0 directory :: inner ∧
        Text.holdsNull directory = false ∧ Balanced inner ∧
        Restored (emptyNamed.after outer) (emptyNamed.after twoBlocks.dropLast)
          (emptyNamed.after (twoBlocks.dropLast ++ [.leave 0]))) ∧
      openBlocks quietBlocks = some [] ∧ (quietBlocks.filterMap Action.enters?).Nodup ∧
      namedDirectory? emptyNamed.places (emptyNamed.after quietBlocks).environment =
        some ⟨["d"]⟩ := by
  have nested : openBlocks twoBlocks = some [] := by decide
  have once : (twoBlocks.filterMap Action.enters?).Nodup := by decide
  have nested' : openBlocks quietBlocks = some [] := by decide
  have once' : (quietBlocks.filterMap Action.enters?).Nodup := by decide
  have again := (blocks_restore emptyNamed nested' once').2 rfl (by decide)
  rw [places_after] at again
  exact ⟨nested, once, (blocks_restore emptyNamed nested once).1 _ 0 [] rfl, nested', once',
    again.trans (by decide +kernel)⟩

end Workspace

end WordStrip
