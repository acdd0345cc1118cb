import WordStrip.Files.Path

/-!
# File trees

What a file system holds: directories, and files with their bytes and the time of their last change.
Writing a file makes the directories on the way to it. There are no links, and nothing is locked: every
directory can be searched and every file read.

A path is walked from the root. The walk stops at a name that does not lead on, and it fails at one
that is too long. A name behind the place where the walk stopped is never looked at, however long.
-/

namespace WordStrip.Files

/-- A file: its bytes and the time of its last change. -/
structure File where
  bytes : List UInt8
  time : Int
  deriving DecidableEq, Repr

/-- What stands at a path. -/
inductive Node where
  | directory
  | file (f : File)
  deriving DecidableEq, Repr

/-- What a file system holds, by path. The root is a directory without being listed. -/
structure Tree where
  nodes : List (Path × Node) := []
  deriving DecidableEq, Repr

namespace Tree

/-- What stands at a path. -/
def get? (t : Tree) (p : Path) : Option Node :=
  if p = Path.root then some .directory else t.nodes.lookup p

/-- The file at a path. -/
def file? (t : Tree) (p : Path) : Option File :=
  match t.get? p with
  | some (.file f) => some f
  | _ => none

/-- Whether a directory stands at a path. -/
def isDirectory (t : Tree) (p : Path) : Bool := t.get? p == some .directory

/-- Whether walking a path fails: it is too long, or a name on it is that is looked for in a
directory. -/
def failsToWalk (t : Tree) (p : Path) : Bool :=
  p.isLong || p.upwards.any fun q => q.hasLongName && t.isDirectory q.parent

/-- The tree with nothing at a path. -/
def remove (t : Tree) (p : Path) : Tree := ⟨t.nodes.filter fun node => node.1 != p⟩

/-- The tree with a node at a path. -/
def put (t : Tree) (p : Path) (node : Node) : Tree := ⟨(p, node) :: (t.remove p).nodes⟩

/-- The tree with a directory at a path and all the way to it. -/
def makeDirectory (t : Tree) (p : Path) : Tree :=
  p.upwards.foldl (fun t q => if t.isDirectory q then t else t.put q .directory) t

/-- The tree with a file at a path and directories on the way to it. -/
def write (t : Tree) (p : Path) (f : File) : Tree := (t.makeDirectory p.parent).put p (.file f)

end Tree

end WordStrip.Files
