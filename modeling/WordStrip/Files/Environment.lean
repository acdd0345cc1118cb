import WordStrip.Entries
import WordStrip.Files.Tree

/-!
# The data directory

Documents lie in a data directory. Two variables of the environment can name it, the first of which
wins; an empty one does not count. Otherwise it is the nearest directory called `data` beside the
package or above it.

A variable's text may begin with a tilde, which stands for a home directory.
-/

namespace WordStrip.Files

/-- The variables of a process and the values they have. -/
abbrev Environment := Entries String

namespace Environment

/-- The environment with a variable set. -/
def set (e : Environment) (name value : String) : Environment := Entries.put name value e

/-- The environment without a variable. -/
def unset (e : Environment) (name : String) : Environment := e.filter fun entry => entry.1 != name

end Environment

/-- The places that texts are read from: the current directory, the home directories of users, whose
own has the empty name, and the directory of the package. -/
structure Surroundings where
  current : Path
  homes : List (String × String) := []
  package : Path
  deriving DecidableEq, Repr

/-- The first variable that can name the data directory. -/
def dataVariable : String := "SUGGEST_DATA_DIR"

/-- The variables that can name the data directory. -/
def dataVariables : List String := [dataVariable, "DATA_DIR"]

/-- The variable with the user's home directory. -/
def homeVariable : String := "HOME"

/-- The home directory that a tilde with a user's name behind it stands for. -/
def home? (places : Surroundings) (environment : Environment) (user : String) : Option String :=
  if user.isEmpty then Entries.get? environment homeVariable <|> places.homes.lookup user
  else places.homes.lookup user

/-- A text with a tilde in front replaced by the home directory; one of no known user stays. -/
def expandHome (places : Surroundings) (environment : Environment) (s : String) : String :=
  match s.toList with
  | '~' :: rest =>
    let user := rest.takeWhile (· ≠ '/')
    match home? places environment (String.ofList user) with
    | none => s
    | some home =>
      let above := (home.toList.reverse.dropWhile (· == '/')).reverse
      let full := above ++ rest.dropWhile (· ≠ '/')
      if full.isEmpty then "/" else String.ofList full
  | _ => s

/-- The data directory that the environment names. -/
def namedDirectory? (places : Surroundings) (environment : Environment) : Option Path :=
  let named := dataVariables.findSome? fun name =>
    (Entries.get? environment name).filter fun value => !value.isEmpty
  named.map fun value => places.current.resolve (expandHome places environment value)

/-- The name of data directories. -/
def dataName : String := "data"

/-- The data directories that are tried from a directory upwards. -/
def dataCandidates (start : Path) : List Path := start.upwards.map fun p => p.enter dataName

/-- Why a search finds no data directory: none of those it tried is there, or one cannot be looked
for. -/
inductive SearchError where
  | noneFound (tried : List Path)
  | nameTooLong (path : Path)
  deriving DecidableEq, Repr

/-- The wording of a failed search. -/
def SearchError.message : SearchError → String
  | noneFound tried =>
    "No 'data' directory found.\nTried:\n  " ++ "\n  ".intercalate (tried.map Path.text)
  | nameTooLong path => path.tooLongMessage

/-- The nearest data directory from a directory upwards. -/
def nearestDirectory (tree : Tree) (start : Path) : Except SearchError Path :=
  match (dataCandidates start).find? fun p => tree.failsToWalk p || tree.isDirectory p with
  | none => .error (.noneFound (dataCandidates start))
  | some p => if tree.failsToWalk p then .error (.nameTooLong p) else .ok p

end WordStrip.Files
