import WordStrip.Document
import WordStrip.Files.Environment
import WordStrip.Settings.Reader

/-!
# Loading documents

A document is loaded by name from the data directory. A name may lead through directories, but not
out of the data directory. What was read from a file is remembered until the file's time changes or
the memory is cleared; a failure and a null are not remembered. A validator may look at the fields
of an object on every load, whether remembered or not.

`Workspace` is what loading depends on and changes: the files, the environment, the readers from
outside, what is remembered, and the value that each block found in the data variable when it was
entered. A block is left by giving that value back, whatever happened to the variable meanwhile.
-/

namespace WordStrip

open WordStrip.Files

/-! ## Failures -/

/-- Why a document could not be loaded. -/
inductive LoadError where
  | noDirectory (e : SearchError)
  | nullCharacter
  | outside (path directory : Path)
  | nameTooLong (path : Path)
  | notFound (path : Path)
  | unparsed (path : Path) (e : ParseError)
  | unknownMode (name : String)
  | badForm (path : Path) (e : FormError)
  | validatorMode
  | refusedForm (message : String)
  | refusedContent (message : String)
  | validatorFailed (path : Path) (message : String)
  deriving DecidableEq, Repr

/-- The wording of a failure to read a file. -/
def ParseError.message (path : Path) : ParseError → String
  | nullInEncoding => "embedded null character"
  | noRelaxedReader => "json5 requested (allow_comments=True) but not installed"
  | undecodable fault => fault.message
  | unreadable e =>
    match e with
    | .malformed _ _ => s!"Invalid JSON in {path.text}: {e.message}"
    | _ => e.message
  | raised (.malformed message) => s!"Invalid JSON in {path.text}: {message}"
  | raised (.system message) => s!"Cannot read {path.text}: {message}"
  | raised (.other _ message) => message

/-- The wording of a failure. -/
def LoadError.message : LoadError → String
  | noDirectory e => e.message
  | nullCharacter => "embedded null byte"
  | outside path directory =>
    s!"Refusing to access file outside data dir: {path.text} (base={directory.text})"
  | nameTooLong path => path.tooLongMessage
  | notFound path => s!"Config file not found: {path.text}"
  | unparsed path e => e.message path
  | unknownMode name => s!"Unknown mode '{name}'"
  | badForm path e => e.message path.name
  | validatorMode => "validator is only supported with mode 'validated_dict'"
  | refusedForm message => message
  | refusedContent message => message
  | validatorFailed path message => s!"{path.name}: validator failed: {message}"

/-- The kinds by which callers tell failures apart. A caller is told of the first four. What a reader
from outside raises keeps its name, unless it is one of these. -/
inductive FailureKind where
  | noDirectory
  | noFile
  | badContent
  | badForm
  | system
  | value
  | undecodable
  | tooDeep
  | foreign (name : String)
  deriving DecidableEq, Repr

namespace FailureKind

/-- Whether callers are told that loading may fail in this way. -/
def isDeclared : FailureKind → Bool
  | noDirectory | noFile | badContent | badForm => true
  | system | value | undecodable | tooDeep | foreign _ => false

end FailureKind

/-- The kind of a failure to read a file. -/
def ParseError.kind : ParseError → FailureKind
  | nullInEncoding => .value
  | noRelaxedReader => .badContent
  | undecodable _ => .undecodable
  | unreadable (.malformed _ _) => .badContent
  | unreadable (.tooManyDigits _) => .value
  | unreadable (.tooDeep _) => .tooDeep
  | raised (.malformed _) => .badContent
  | raised (.system _) => .noFile
  | raised (.other name _) => .foreign name

/-- The kind of a failure. -/
def LoadError.kind : LoadError → FailureKind
  | noDirectory (.noneFound _) => .noDirectory
  | noDirectory (.nameTooLong _) => .system
  | nullCharacter => .value
  | outside _ _ => .noFile
  | nameTooLong _ => .system
  | notFound _ => .noFile
  | unparsed _ e => e.kind
  | unknownMode _ => .value
  | badForm _ .notShowable => .value
  | badForm _ _ => .badForm
  | validatorMode => .value
  | refusedForm _ => .badForm
  | refusedContent _ => .badContent
  | validatorFailed _ _ => .badContent

/-! ## Calls -/

/-- What is to be loaded, and how. -/
structure Call where
  name : String
  mode : String := "raw"
  directory : Option String := none
  format : Format := {}
  deriving DecidableEq, Repr

/-- The ending of a document's file. -/
def documentEnding : String := ".json"

/-- The name of the file of a document. -/
def fileName (name : String) : String :=
  if documentEnding.toList.isSuffixOf name.toList then name else name ++ documentEnding

/-- What a document is remembered by. -/
structure Key where
  path : Path
  time : Int
  mode : String
  format : Format
  deriving DecidableEq, Repr

/-- What the document of a file is remembered by when a call loads it. -/
def Call.key (call : Call) (path : Path) (file : File) : Key :=
  { path, time := file.time, mode := call.mode, format := call.format }

/-- The document that the bytes of a file give, whatever is remembered. -/
def Key.read (key : Key) (readers : Readers) (bytes : List UInt8) : Except LoadError Document := do
  let value ← (key.format.read readers bytes).mapError (.unparsed key.path)
  match Mode.ofName? key.mode with
  | none => throw (.unknownMode key.mode)
  | some mode => (Document.ofJson mode value).mapError (.badForm key.path)

/-- Why a validator refuses an object: its form or its content is wrong, which is reported as it
is, or something else failed. -/
inductive Refusal where
  | form (message : String)
  | content (message : String)
  | other (message : String)
  deriving DecidableEq, Repr

/-- What loading gives: a document, or the settings that a validator made of it. -/
inductive Loaded where
  | document (d : Document)
  | settings (s : Settings)

/-- A look at the fields of an object. -/
abbrev Validator (α : Type) := List (String × Json) → Except Refusal α

/-- The failure that a refusal becomes. -/
def Refusal.inFile (path : Path) : Refusal → LoadError
  | form message => .refusedForm message
  | content message => .refusedContent message
  | other message => .validatorFailed path message

/-- Settings by a validator. -/
def settingsValidator : Validator Settings := fun fields =>
  (Settings.ofFields fields).mapError fun e =>
    match e with
    | .tooLarge | .notShowable => .other e.message
    | _ => .form e.message

/-! ## Workspaces -/

/-- The files, the environment, the readers from outside, what is remembered, and for each block by its
number the value that the data variable had when the block was entered last. -/
structure Workspace where
  tree : Tree
  environment : Environment
  places : Surroundings
  readers : Readers
  memory : List (Key × Document) := []
  blocks : List (Nat × Option String) := []

namespace Workspace

/-- The path that a text names, seen from a directory. -/
def readPath (directory : Path) (text : String) : Except LoadError Path :=
  match directory.resolve? text with
  | some path => .ok path
  | none => .error .nullCharacter

/-- The directory that a call loads from. -/
def directory (w : Workspace) (call : Call) : Except LoadError Path :=
  match call.directory with
  | some text => readPath w.places.current text
  | none =>
    match namedDirectory? w.places w.environment with
    | some p => .ok p
    | none => (nearestDirectory w.tree w.places.package).mapError .noDirectory

/-- The path that a call loads, which lies within the directory. -/
def locate (w : Workspace) (call : Call) : Except LoadError Path := do
  let directory ← w.directory call
  let path ← readPath directory (fileName call.name)
  if path.isWithin directory then return path else throw (.outside path directory)

/-- What is remembered when a document was read: all but a null. -/
def remember (w : Workspace) (key : Key) : Document → Workspace
  | .value .null => w
  | document => { w with memory := (key, document) :: w.memory }

/-- The document of a file, as it is remembered or else as it is read. -/
def consult (w : Workspace) (key : Key) (bytes : List UInt8) :
    Except LoadError Document × Workspace :=
  match w.memory.lookup key with
  | some document => (.ok document, w)
  | none =>
    match key.read w.readers bytes with
    | .ok document => (.ok document, w.remember key document)
    | .error e => (.error e, w)

/-- The path and the document of a call. -/
def fetch (w : Workspace) (call : Call) : Except LoadError (Path × Document) × Workspace :=
  match w.locate call with
  | .error e => (.error e, w)
  | .ok path =>
    if w.tree.failsToWalk path then (.error (.nameTooLong path), w)
    else
      match w.tree.file? path with
      | none => (.error (.notFound path), w)
      | some file =>
        let (outcome, after) := w.consult (call.key path file) file.bytes
        (outcome.map (path, ·), after)

/-- What a validator makes of a document that was loaded in a mode. -/
def validate {α : Type} (mode : String) (validator : Validator α) (path : Path) :
    Document → Except LoadError α
  | .value (.object fields) =>
    if Mode.ofName? mode = some .object then (validator fields).mapError (Refusal.inFile path)
    else .error .validatorMode
  | _ => .error .validatorMode

/-- A document, looked at by a validator. -/
def loadWith {α : Type} (w : Workspace) (call : Call) (validator : Validator α) :
    Except LoadError α × Workspace :=
  match w.fetch call with
  | (.error e, after) => (.error e, after)
  | (.ok (path, document), after) => (validate call.mode validator path document, after)

/-- A document as it is. -/
def load (w : Workspace) (call : Call) : Except LoadError Document × Workspace :=
  let (outcome, after) := w.fetch call
  (outcome.map (·.2), after)

/-- The name of the document with settings. -/
def settingsName : String := "suggest_config"

/-- The call for settings. -/
def settingsCall (name : String) (directory : Option String) : Call :=
  { name, mode := "validated_dict", directory }

/-- Settings from a document. -/
def loadSettings (w : Workspace) (name : String) (directory : Option String) :
    Except LoadError Settings × Workspace :=
  w.loadWith (settingsCall name directory) settingsValidator

/-! ## Steps -/

/-- What can happen to a workspace. -/
inductive Action where
  | write (path : Path) (file : File)
  | makeDirectory (path : Path)
  | delete (path : Path)
  | setVariable (name value : String)
  | unsetVariable (name : String)
  | forget
  | enter (block : Nat) (directory : String)
  | leave (block : Nat)
  | load (call : Call) (validator : Option (Validator Loaded))
  | loadSettings (name : String) (directory : Option String)

/-- The workspace with nothing remembered. -/
def forgetAll (w : Workspace) : Workspace := { w with memory := [] }

/-- The workspace in which a block has kept the value of the data variable. -/
def keepVariable (w : Workspace) (block : Nat) : Workspace :=
  { w with blocks := (block, Entries.get? w.environment dataVariable) :: w.blocks }

/-- The value that a block keeps; a block that was never entered keeps none. -/
def kept (w : Workspace) (block : Nat) : Option String := (w.blocks.lookup block).join

/-- The workspace inside a block that loads from another data directory. -/
def enterBlock (w : Workspace) (block : Nat) (directory : String) : Workspace :=
  { w.keepVariable block with
    environment := w.environment.set dataVariable directory
    memory := [] }

/-- The workspace outside a block that was entered. -/
def leaveBlock (w : Workspace) (block : Nat) : Workspace :=
  { w with
    environment :=
      match w.kept block with
      | some value => w.environment.set dataVariable value
      | none => w.environment.unset dataVariable
    memory := [] }

/-- The workspace after an action, with the outcome if something was to be loaded or if the action
is refused: no variable can be set to a text with a null character. -/
def perform (w : Workspace) : Action → Option (Except LoadError Loaded) × Workspace
  | .write path file => (none, { w with tree := w.tree.write path file })
  | .makeDirectory path => (none, { w with tree := w.tree.makeDirectory path })
  | .delete path => (none, { w with tree := w.tree.remove path })
  | .setVariable name value =>
    if Text.holdsNull value then (some (.error .nullCharacter), w)
    else (none, { w with environment := w.environment.set name value })
  | .unsetVariable name => (none, { w with environment := w.environment.unset name })
  | .forget => (none, w.forgetAll)
  | .enter block directory =>
    if Text.holdsNull directory then (some (.error .nullCharacter), w.keepVariable block)
    else (none, w.enterBlock block directory)
  | .leave block => (none, w.leaveBlock block)
  | .load call none =>
    let (outcome, after) := w.load call
    (some (outcome.map .document), after)
  | .load call (some validator) =>
    let (outcome, after) := w.loadWith call validator
    (some outcome, after)
  | .loadSettings name directory =>
    let (outcome, after) := w.loadSettings name directory
    (some (outcome.map .settings), after)

/-- The outcomes of several actions and the workspace after them. -/
def run (w : Workspace) : List Action → List (Option (Except LoadError Loaded)) × Workspace
  | [] => ([], w)
  | action :: rest =>
    let (outcome, next) := w.perform action
    let (outcomes, last) := next.run rest
    (outcome :: outcomes, last)

end Workspace

end WordStrip
