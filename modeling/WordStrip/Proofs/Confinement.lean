import WordStrip.Proofs.Text.Split
import WordStrip.Proofs.Workspace

/-!
# A load stays inside its data directory

The name of a document is joined to the data directory and read as a path, so it may go up, begin at the
root, or name the directory itself. The law here says where that may lead (`Workspace.load_confined`), for
every directory and every name without a null character. The load is refused as one from outside exactly
when the names of the directory are not the first names of the path; a sibling whose name only begins with
the directory's is outside. If they are, what the load answers depends on the files through this path
only, on whether it can be walked and which file is there.

So two file systems that agree about everything inside the directory should give the same answers, and
they do, but for one failure that a load does not expect. The system looks at the names of a path from the
root on, and a name that is too long is an error of its own where it is looked for, but nothing where the
way ended before. A load that asks whether its file is there lets that error through, and does not report
the file as one that is not found. Whether the way to a directory that is not there ends before is decided
outside it: `long_directory_not_confined` is such a case. `Tree.SameWithin.sameAt` shows that walking the
directory itself is all that there is to agree about beside what it holds.
-/

namespace WordStrip

open WordStrip.Files

/-! ## Paths -/

namespace Files.Path

/-- A path on which every name stands for itself: none is empty, a dot or two, or holds a slash. -/
def IsNormal (p : Path) : Prop :=
  ∀ name ∈ p.names, name ≠ "" ∧ name ≠ "." ∧ name ≠ ".." ∧ '/' ∉ name.toList

instance decidableIsNormal (p : Path) : Decidable p.IsNormal :=
  inferInstanceAs (Decidable (∀ name ∈ p.names, _))

theorem isNormal_root : root.IsNormal := by
  intro name listed
  exact absurd listed List.not_mem_nil

theorem IsNormal.enter {p : Path} (normal : p.IsNormal) {name : String}
    (slashless : '/' ∉ name.toList) : (p.enter name).IsNormal := by
  unfold Path.enter
  split
  · exact normal
  · next here =>
    split
    · intro other listed
      exact normal other (List.dropLast_subset p.names listed)
    · next up =>
      intro other listed
      rcases List.mem_append.mp listed with old | new
      · exact normal other old
      · obtain rfl := List.mem_singleton.mp new
        exact ⟨fun empty => here (.inl empty), fun dot => here (.inr dot), up, slashless⟩

theorem IsNormal.enterAll {p : Path} (normal : p.IsNormal) {names : List String}
    (slashless : ∀ name ∈ names, '/' ∉ name.toList) : (names.foldl Path.enter p).IsNormal := by
  induction names generalizing p with
  | nil => exact normal
  | cons name rest ih =>
    have next := normal.enter (slashless name List.mem_cons_self)
    exact ih next fun other later => slashless other (List.mem_cons_of_mem name later)

/-- Reading a text gives a normal path. -/
theorem IsNormal.resolve {directory : Path} (normal : directory.IsNormal) (s : String) :
    (directory.resolve s).IsNormal := by
  have start : (if isAbsolute s then root else directory).IsNormal := by
    split
    · exact isNormal_root
    · exact normal
  apply start.enterAll
  intro name listed
  exact Text.not_mem_of_mem_splitAt listed

theorem isWithin_iff {p directory : Path} : p.isWithin directory ↔ directory.names <+: p.names :=
  List.isPrefixOf_iff_prefix

/-- The directories above a path, with the path, are its beginnings. -/
theorem mem_upwards_iff {p q : Path} : q ∈ p.upwards ↔ q.names <+: p.names := by
  unfold upwards
  rw [List.mem_map]
  constructor
  · rintro ⟨n, -, rfl⟩
    exact List.take_prefix _ _
  · intro beginning
    refine ⟨p.names.length - q.names.length, ?_, ?_⟩
    · rw [List.mem_range]
      omega
    · have short := beginning.length_le
      have same := List.prefix_iff_eq_take.mp beginning
      rw [Nat.sub_sub_self short, ← same]

/-- A longer path has a longer text. -/
theorem isLong_of_prefix {p directory : Path} (inside : directory.names <+: p.names)
    (long : directory.isLong) : p.isLong := by
  obtain ⟨below, split⟩ := inside
  have more : directory.text.utf8ByteSize ≤ p.text.utf8ByteSize := by
    unfold text
    rw [← split]
    by_cases top : directory.names = []
    · rw [top]
      simp
    by_cases bottom : below = []
    · simp only [bottom, List.append_nil, Nat.le_refl]
    · rw [String.intercalate_append_of_ne_nil top bottom]
      simp only [String.utf8ByteSize_append]
      omega
  simp only [isLong, decide_eq_true_eq] at long ⊢
  omega

end Files.Path

/-! ## File trees -/

namespace Files.Tree

/-- Two file trees look the same from a path: it can be walked in both or in none, and they hold the
same file there. -/
def SameAt (p : Path) (t u : Tree) : Prop :=
  t.failsToWalk p = u.failsToWalk p ∧ t.file? p = u.file? p

/-- Two file trees agree about everything inside a directory, which is itself inside. -/
def SameWithin (directory : Path) (t u : Tree) : Prop :=
  ∀ p : Path, directory.names <+: p.names → t.get? p = u.get? p

theorem failsToWalk_iff {t : Tree} {p : Path} :
    t.failsToWalk p ↔
      p.isLong ∨ ∃ q : Path, q.names <+: p.names ∧ q.hasLongName ∧ t.isDirectory q.parent := by
  simp only [failsToWalk, Bool.or_eq_true, List.any_eq_true, Path.mem_upwards_iff,
    Bool.and_eq_true]

/-- A path inside is met by a walk that fails where the walk to the directory does, or inside. -/
theorem SameWithin.failsToWalk {directory p : Path} {t u : Tree} (same : SameWithin directory t u)
    (base : t.failsToWalk directory → u.failsToWalk directory)
    (inside : directory.names <+: p.names) (fails : t.failsToWalk p) : u.failsToWalk p := by
  rw [failsToWalk_iff] at fails ⊢
  rcases fails with long | ⟨q, beginning, longName, there⟩
  · exact .inl long
  by_cases above : q.names <+: directory.names
  · have walked : u.failsToWalk directory :=
      base (failsToWalk_iff.mpr (.inr ⟨q, above, longName, there⟩))
    rcases failsToWalk_iff.mp walked with long | ⟨other, further, longOther, here⟩
    · exact .inl (Path.isLong_of_prefix inside long)
    · exact .inr ⟨other, further.trans inside, longOther, here⟩
  · have below := (List.prefix_or_prefix_of_prefix beginning inside).resolve_left above
    obtain ⟨rest, split⟩ := below
    have nonempty : rest ≠ [] := by
      rintro rfl
      have same : directory.names = q.names := by simpa using split
      exact above (same ▸ List.prefix_rfl)
    have parent : directory.names <+: q.parent.names := by
      show directory.names <+: q.names.dropLast
      rw [← split, List.dropLast_append_of_ne_nil nonempty]
      exact List.prefix_append _ _
    refine .inr ⟨q, beginning, longName, ?_⟩
    unfold isDirectory at there ⊢
    rw [← same q.parent parent]
    exact there

/-- What stands outside the directory does not count. -/
theorem sameWithin_cons {directory q : Path} (outside : ¬ directory.names <+: q.names) (t : Tree)
    (node : Node) : SameWithin directory t ⟨(q, node) :: t.nodes⟩ := by
  intro p inside
  have differs : (p == q) = false := by
    rw [beq_eq_false_iff_ne]
    rintro rfl
    exact outside inside
  simp only [get?, List.lookup_cons, differs]

/-- Trees that agree inside a directory, and about walking to it, look the same from every path inside. -/
theorem SameWithin.sameAt {directory p : Path} {t u : Tree} (same : SameWithin directory t u)
    (base : t.failsToWalk directory = u.failsToWalk directory)
    (inside : directory.names <+: p.names) : SameAt p t u := by
  have back : SameWithin directory u t := fun q within => (same q within).symm
  constructor
  · rw [Bool.eq_iff_iff]
    exact ⟨same.failsToWalk (fun h => base ▸ h) inside, back.failsToWalk (fun h => base ▸ h) inside⟩
  · unfold file?
    rw [same p inside]

end Files.Tree

/-! ## Loads -/

namespace Workspace

/-- No validator refuses an object as one from outside. -/
theorem validate_ne_outside {α : Type} (mode : String) (validator : Validator α) (path : Path)
    (document : Document) (p directory : Path) :
    validate mode validator path document ≠ .error (.outside p directory) := by
  unfold validate
  split
  · split
    · next fields objects =>
      cases validator fields with
      | ok => exact nofun
      | error refusal => cases refusal <;> exact nofun
    · exact nofun
  · exact nofun

theorem read_ne_outside (key : Key) (readers : Readers) (bytes : List UInt8) (p directory : Path) :
    key.read readers bytes ≠ .error (.outside p directory) := by
  intro failed
  rcases read_eq_error.mp failed with ⟨_, -, other⟩ | ⟨_, -, ⟨-, other⟩ | ⟨_, _, -, -, other⟩⟩
  · exact nomatch other
  · exact nomatch other
  · exact nomatch other

/-- The workspace on another file system. -/
def withTree (w : Workspace) (t : Tree) : Workspace := { w with tree := t }

@[simp] theorem tree_withTree (w : Workspace) (t : Tree) : (w.withTree t).tree = t := rfl

section Given

variable {w : Workspace} {call : Call}

/-- A directory that a call names is the same in every file system. -/
theorem directory_of_given {base : String} (given : call.directory = some base)
    (plain : Text.holdsNull base = false) : w.directory call = .ok (w.places.current.resolve base) := by
  unfold Workspace.directory readPath
  rw [given]
  simp only [Path.resolve?, plain]
  rfl

/-- The path of a call that loads from a directory. -/
theorem locate_of_directory {directory path : Path} (found : w.directory call = .ok directory)
    (named : Text.holdsNull (fileName call.name) = false)
    (joined : directory.resolve (fileName call.name) = path) :
    w.locate call =
      if path.isWithin directory then .ok path else .error (.outside path directory) := by
  subst joined
  unfold locate readPath
  rw [found]
  simp only [Path.resolve?, named]
  rfl

/-- A call is refused as one from outside when it is not located inside. -/
theorem fst_perform_outside {validator : Option (Validator Loaded)} {p directory : Path} :
    (w.perform (.load call validator)).1 = some (.error (.outside p directory)) ↔
      w.locate call = .error (.outside p directory) := by
  have fetched : (w.fetch call).1 = .error (.outside p directory) ↔
      w.locate call = .error (.outside p directory) := by
    rw [fst_fetch_eq_error]
    constructor
    · rintro (misses | ⟨path, file, -, -, read⟩)
      · cases misses with
        | unlocated failed => exact failed
      · exact absurd read (read_ne_outside _ _ _ _ _)
    · exact fun failed => .inl (.unlocated failed)
  cases validator with
  | none =>
    show some (((w.fetch call).1.map _).map _) = _ ↔ _
    rw [Option.some.injEq, map_eq_error, map_eq_error, fetched]
  | some validator =>
    show some (w.loadWith call validator).1 = _ ↔ _
    rw [Option.some.injEq, fst_loadWith_eq_error, fetched]
    refine or_iff_left ?_
    rintro ⟨path, document, -, refused⟩
    exact validate_ne_outside _ _ _ _ _ _ refused

theorem fst_consult_withTree (w : Workspace) (t u : Tree) (key : Key) (bytes : List UInt8) :
    ((w.withTree t).consult key bytes).1 = ((w.withTree u).consult key bytes).1 := by
  cases known : w.memory.lookup key with
  | some document =>
    have t_known : (w.withTree t).memory.lookup key = some document := known
    have u_known : (w.withTree u).memory.lookup key = some document := known
    rw [fst_consult_of_some t_known, fst_consult_of_some u_known]
  | none =>
    have t_unknown : (w.withTree t).memory.lookup key = none := known
    have u_unknown : (w.withTree u).memory.lookup key = none := known
    rw [fst_consult_of_none t_unknown, fst_consult_of_none u_unknown]
    rfl

/-- Where the path looks the same in two file systems, a load answers the same. -/
theorem fst_perform_of_sameAt (w : Workspace) (call : Call) (validator : Option (Validator Loaded))
    {t u : Tree} (located : (w.withTree t).locate call = (w.withTree u).locate call)
    (same : ∀ path, (w.withTree u).locate call = .ok path → Tree.SameAt path t u) :
    ((w.withTree t).perform (.load call validator)).1 =
      ((w.withTree u).perform (.load call validator)).1 := by
  refine fst_perform_congr rfl ?_
  rcases (w.withTree u).finds_or_misses call with ⟨path, file, finds⟩ | ⟨e, misses⟩
  · obtain ⟨walked, found⟩ := same path finds.located
    have there : (w.withTree t).Finds call path file :=
      ⟨located.trans finds.located, walked.trans finds.walked, found.trans finds.found⟩
    rw [there.fetch, finds.fetch]
    exact congrArg (Except.map (path, ·)) (w.fst_consult_withTree t u _ _)
  · have there : (w.withTree t).Misses call e := by
      cases misses with
      | unlocated failed => exact .unlocated (located.trans failed)
      | unwalked here long =>
        exact .unwalked (located.trans here) ((same _ here).1.trans long)
      | absent here walked nothing =>
        exact .absent (located.trans here) ((same _ here).1.trans walked)
          ((same _ here).2.trans nothing)
    rw [there.fetch, misses.fetch]

end Given

/-- A load is refused as one from outside exactly when its path is not inside the directory that it loads
from. If it is inside, the answer depends on the files through this path only, and it is the same for
file systems that agree about everything inside the directory and about walking to it. -/
theorem load_confined (w : Workspace) {call : Call} (named : Text.holdsNull call.name = false)
    (validator : Option (Validator Loaded)) (directory : Path) :
    let path := directory.resolve (fileName call.name)
    let loadsFrom := fun u : Tree => (w.withTree u).directory call = .ok directory
    let answer := fun u : Tree => ((w.withTree u).perform (.load call validator)).1
    (directory.IsNormal → path.IsNormal) ∧
      (∀ u, loadsFrom u →
        (answer u = some (.error (.outside path directory)) ↔ ¬ directory.names <+: path.names)) ∧
      (∀ t u, loadsFrom t → loadsFrom u → Tree.SameAt path t u → answer t = answer u) ∧
      (∀ t u, loadsFrom t → loadsFrom u → Tree.SameWithin directory t u →
        t.failsToWalk directory = u.failsToWalk directory → answer t = answer u) := by
  intro path loadsFrom answer
  have located : ∀ t, loadsFrom t → (w.withTree t).locate call =
      if path.isWithin directory then .ok path else .error (.outside path directory) := by
    intro t found
    exact locate_of_directory found ((holdsNull_fileName call.name).trans named) rfl
  have sameAt : ∀ t u, loadsFrom t → loadsFrom u →
      (path.isWithin directory → Tree.SameAt path t u) → answer t = answer u := by
    intro t u ht hu same
    refine fst_perform_of_sameAt w call validator ((located t ht).trans (located u hu).symm) ?_
    intro p here
    rw [located u hu] at here
    split at here
    case isTrue inside =>
      obtain rfl := Except.ok.inj here
      exact same inside
    case isFalse => exact nomatch here
  refine ⟨?_, ?_, fun t u ht hu same => sameAt t u ht hu fun _ => same, ?_⟩
  · intro normal
    exact normal.resolve _
  · intro u found
    refine Iff.trans fst_perform_outside ?_
    rw [located u found, ← Path.isWithin_iff]
    split
    case isTrue inside => simp [inside]
    case isFalse outside => simp [outside]
  · intro t u ht hu same base
    exact sameAt t u ht hu fun inside => same.sameAt base (Path.isWithin_iff.mp inside)

/-- A call for a document by a name that leads out of the directory and back into it. -/
def roundabout : Call := { name := "../data/sub/../x", directory := some "data" }

/-- A call for a document in a directory whose name begins as the given one does. -/
def sibling : Call := { name := "../data2/x", directory := some "data" }

/-- A directory with one document. -/
def oneDocument : Tree := ({} : Tree).write ⟨["data", "x.json"]⟩ ⟨[0x5B, 0x31, 0x5D], 1⟩

/-- The same directory beside another one. -/
def twoDirectories : Tree where
  nodes := (⟨["data2", "x.json"]⟩, .file ⟨[0x32], 1⟩) :: (⟨["data2"]⟩, .directory) :: oneDocument.nodes

/-- What stands beside the directory does not count, and the document in it is out of reach. -/
theorem roundabout_confined :
    Text.holdsNull roundabout.name = false ∧
      Tree.SameWithin ⟨["data"]⟩ oneDocument twoDirectories ∧
      ((bare.withTree oneDocument).perform (.load roundabout none)).1 =
        ((bare.withTree twoDirectories).perform (.load roundabout none)).1 ∧
      ((bare.withTree twoDirectories).perform (.load sibling none)).1 =
        some (.error (.outside ⟨["data2", "x.json"]⟩ ⟨["data"]⟩)) := by
  have same : Tree.SameWithin ⟨["data"]⟩ oneDocument twoDirectories := by
    intro p inside
    have one : oneDocument.get? p = (Tree.mk ((⟨["data2"]⟩, .directory) :: oneDocument.nodes)).get? p :=
      Tree.sameWithin_cons (by decide) oneDocument .directory p inside
    exact one.trans (Tree.sameWithin_cons (by decide) _ _ p inside)
  have here : bare.places.current.resolve "data" = ⟨["data"]⟩ := by decide +kernel
  have found (call : Call) (given : call.directory = some "data") (t : Tree) :
      (bare.withTree t).directory call = .ok ⟨["data"]⟩ := by
    rw [directory_of_given given (by decide), ← here]
    rfl
  have inside := load_confined bare (show Text.holdsNull roundabout.name = false by decide) none
    ⟨["data"]⟩
  have outside := load_confined bare (show Text.holdsNull sibling.name = false by decide) none
    ⟨["data"]⟩
  refine ⟨by decide, same, ?_, ?_⟩
  · exact inside.2.2.2 _ _ (found _ rfl _) (found _ rfl _) same (by decide +kernel)
  · exact (outside.2.1 twoDirectories (found _ rfl _)).mpr (by decide +kernel)

/-- A name that no directory of the system has. -/
def longName : String := String.ofList (List.replicate (Path.nameLimit + 1) 'n')

/-- The text of a directory with that name. -/
def longBase : String := String.ofList ('a' :: '/' :: List.replicate (Path.nameLimit + 1) 'n')

/-- A call for a document in that directory. -/
def inLongBase : Call := { name := "x", directory := some longBase }

/-- A file system with the directory in which the long name is looked for, and no more. -/
def onlyParent : Tree := ⟨[(⟨["a"]⟩, .directory)]⟩

theorem resolve_longBase : bare.places.current.resolve longBase = ⟨["a", longName]⟩ := by
  have relative : Path.isAbsolute longBase = false := by
    rw [Path.isAbsolute, longBase, String.toList_ofList]
    rfl
  have cut : Text.splitAt '/' longBase = ["a", longName] := by
    rw [Text.splitAt, longBase, String.toList_ofList]
    decide +kernel
  rw [Path.resolve, relative, cut]
  decide +kernel

theorem locate_inLongBase (t : Tree) :
    (bare.withTree t).locate inLongBase = .ok ⟨["a", longName, "x.json"]⟩ := by
  have plain : Text.holdsNull longBase = false := by
    rw [Text.holdsNull, longBase, String.toList_ofList]
    decide +kernel
  have found : (bare.withTree t).directory inLongBase = .ok ⟨["a", longName]⟩ := by
    rw [directory_of_given rfl plain, ← resolve_longBase]
    rfl
  have joined : (Files.Path.mk ["a", longName]).resolve (fileName inLongBase.name) =
      ⟨["a", longName, "x.json"]⟩ := by decide +kernel
  exact (locate_of_directory found (by decide) joined).trans (if_pos (by decide +kernel))

/-- Two file systems agree about everything inside a directory, since nothing is there in either, and
answer differently: in one the file is reported as not found, and in the other an error of the system comes
through. -/
theorem long_directory_not_confined :
    bare.places.current.resolve longBase = ⟨["a", longName]⟩ ∧
      Tree.SameWithin ⟨["a", longName]⟩ {} onlyParent ∧
      ((bare.withTree {}).perform (.load inLongBase none)).1 =
        some (.error (.notFound ⟨["a", longName, "x.json"]⟩)) ∧
      ((bare.withTree onlyParent).perform (.load inLongBase none)).1 =
        some (.error (.nameTooLong ⟨["a", longName, "x.json"]⟩)) := by
  refine ⟨resolve_longBase, Tree.sameWithin_cons (by decide +kernel) {} .directory, ?_, ?_⟩
  · refine fst_perform_of_error (fst_fetch_eq_error.mpr (.inl ?_)) none
    exact .absent (locate_inLongBase {}) (by decide +kernel) (by decide +kernel)
  · refine fst_perform_of_error
      (fst_fetch_eq_error.mpr (.inl ?_)) none
    exact .unwalked (locate_inLongBase onlyParent) (by decide +kernel)

end Workspace
end WordStrip
