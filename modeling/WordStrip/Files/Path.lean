import WordStrip.Text.Null
import WordStrip.Text.Quoted
import WordStrip.Text.Split

/-!
# Paths

A path leads from the root to a file or a directory by the names on the way. Reading a path takes
`.` and empty names out and lets `..` undo the name before it, so a path has no such names; at the
root `..` does nothing. A text that begins with a slash is read from the root, any other from a
given directory. A text with a null character names no path.

A file system bounds the bytes of a name and of a whole path.
-/

namespace WordStrip.Files

/-- The names from the root down. -/
structure Path where
  names : List String
  deriving DecidableEq, Repr, Inhabited

namespace Path

/-- The root. -/
def root : Path := ⟨[]⟩

/-- The path after one name more on the way. -/
def enter (p : Path) (name : String) : Path :=
  if name = "" ∨ name = "." then p
  else if name = ".." then ⟨p.names.dropLast⟩
  else ⟨p.names ++ [name]⟩

/-- Whether a text is read from the root. -/
def isAbsolute (s : String) : Bool := s.toList.head? == some '/'

/-- The path that a text names, seen from a directory. -/
def resolve (directory : Path) (s : String) : Path :=
  (Text.splitAt '/' s).foldl enter (if isAbsolute s then root else directory)

/-- The path that a text names, seen from a directory, if it can name one. -/
def resolve? (directory : Path) (s : String) : Option Path :=
  if Text.holdsNull s then none else some (directory.resolve s)

/-- The text of a path. -/
def text (p : Path) : String := "/" ++ "/".intercalate p.names

/-- The last name of a path; the root has the empty one. -/
def name (p : Path) : String := p.names.getLast?.getD ""

/-- Whether a path is a directory's or leads through it. -/
def isWithin (p directory : Path) : Bool := directory.names.isPrefixOf p.names

/-- The directory that a path lies in; the root lies in itself. -/
def parent (p : Path) : Path := ⟨p.names.dropLast⟩

/-- The path and all directories above it up to the root. -/
def upwards (p : Path) : List Path :=
  (List.range (p.names.length + 1)).map fun n => ⟨p.names.take (p.names.length - n)⟩

/-! ## Lengths -/

/-- How many bytes a name may have. -/
def nameLimit : Nat := 255

/-- How many bytes the text of a path may have. -/
def textLimit : Nat := 4095

/-- Whether the last name of a path is too long. -/
def hasLongName (p : Path) : Bool := nameLimit < p.name.utf8ByteSize

/-- Whether the text of a path is too long. -/
def isLong (p : Path) : Bool := textLimit < p.text.utf8ByteSize

/-- The report of a path that is too long or has a name that is. -/
def tooLongMessage (p : Path) : String := "[Errno 36] File name too long: " ++ Text.quoted p.text

end Path

end WordStrip.Files
