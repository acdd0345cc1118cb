import WordStrip.Json.Reader
import WordStrip.Text.Encoding
import WordStrip.Text.Null

/-!
# Documents

A document is a file with one JSON value. It is read from bytes in an encoding, by the plain or by
the relaxed rules. The mode says what is expected: any value, a list of texts and other plain values
taken as a set, or an object.

The codecs of the encodings other than those of `Text.Encoding`, and the reader for the relaxed
rules, come from outside (`Readers`). A reader answers the same whenever it is asked the same; nothing
else is known of it.

Reading bytes fails for one reason at a time: the encoding is looked up first, then the relaxed
rules have to be there, then the bytes are decoded and then the text is read.
-/

namespace WordStrip

open WordStrip.Text

/-- What a document gives: a value as it is, or a set of texts in order. -/
inductive Document where
  | value (v : Json)
  | names (set : List String)

/-- What is expected of a document. -/
inductive Mode where
  | raw
  | set
  | object
  deriving DecidableEq, Repr

/-- The mode with a name. -/
def Mode.ofName? (name : String) : Option Mode :=
  [("raw", Mode.raw), ("set", Mode.set), ("validated_dict", Mode.object)].lookup name

/-! ## Readers from outside -/

/-- What a reader from outside raises: that a document is malformed, that the system refuses
something, or anything else, by its name. -/
inductive Raised where
  | malformed (message : String)
  | system (message : String)
  | other (name message : String)
  deriving DecidableEq, Repr

/-- What a codec makes of bytes. -/
abbrev Codec := List UInt8 → Except Raised String

/-- The readers that come from outside: the codecs by the names of their encodings, and the reader
for the relaxed rules, if it is there. -/
structure Readers where
  codec : String → Except Raised Codec
  relaxed : Option (String → Except Raised Json)

/-- No reader from outside: no other encoding is known, and the relaxed rules are not there. -/
def Readers.absent : Readers where
  codec name := .error (.other "LookupError" s!"unknown encoding: {name}")
  relaxed := none

/-! ## From bytes to a value -/

/-- Why bytes give no value. -/
inductive ParseError where
  | nullInEncoding
  | noRelaxedReader
  | undecodable (fault : DecodeFault)
  | unreadable (e : Json.ReadError)
  | raised (e : Raised)
  deriving DecidableEq, Repr

/-- The rules and the encoding by which bytes are read. -/
structure Format where
  encoding : String := "utf-8"
  relaxed : Bool := false
  deriving DecidableEq, Repr

/-- How the encoding of a format is decoded. -/
def Format.decoder (format : Format) (readers : Readers) :
    Except ParseError (List UInt8 → Except ParseError String) :=
  match Encoding.ofName? format.encoding with
  | some encoding => .ok fun bytes => (encoding.decode bytes).mapError .undecodable
  | none => do
    let codec ← (readers.codec format.encoding).mapError .raised
    return fun bytes => (codec bytes).mapError .raised

/-- How texts are read by the rules of a format. -/
def Format.rules (format : Format) (readers : Readers) :
    Except ParseError (String → Except ParseError Json) :=
  if format.relaxed then
    match readers.relaxed with
    | none => .error .noRelaxedReader
    | some relaxed => .ok fun text => (relaxed text).mapError .raised
  else .ok fun text => (Json.read text).mapError .unreadable

/-- The value that bytes give in a format. -/
def Format.read (format : Format) (readers : Readers) (bytes : List UInt8) :
    Except ParseError Json :=
  if holdsNull format.encoding then .error .nullInEncoding
  else do
    let decode ← format.decoder readers
    let read ← format.rules readers
    read (← decode bytes)

/-! ## From a value to a document -/

/-- Why a value is not what is expected. -/
inductive FormError where
  | notList (typeName : String)
  | notPlain (typeNames : List String)
  | notShowable
  | notObject (typeName : String)
  deriving DecidableEq, Repr

/-- How many items a message names. -/
def shownItems : Nat := 3

/-- The wording of a fault in the document of a file. -/
def FormError.message (file : String) : FormError → String
  | notList typeName => s!"{file}: expected list for mode 'set', got {typeName}"
  | notPlain typeNames =>
    let shown := ", ".intercalate (typeNames.take shownItems)
    s!"{file}: list must contain only scalars for 'set' (first bad types: {shown})"
  | notShowable => Number.NumeralError.notShowable.message
  | notObject typeName => s!"{file}: expected dict for mode 'validated_dict', got {typeName}"

/-- Whether a value has no parts. -/
def Json.isPlain : Json → Bool
  | .list _ => false
  | .object _ => false
  | _ => true

/-- The texts in order, each once. -/
def sortedSet (texts : List String) : List String :=
  (texts.mergeSort fun a b => a ≤ b).eraseReps

/-- The document that a value gives in a mode. -/
def Document.ofJson (mode : Mode) (v : Json) : Except FormError Document :=
  match mode, v with
  | .raw, v => .ok (.value v)
  | .set, .list items =>
    match items.filter fun item => !item.isPlain with
    | [] =>
      if Json.areShowable items then .ok (.names (sortedSet (items.map Json.plain)))
      else .error .notShowable
    | bad => .error (.notPlain (bad.map Json.typeName))
  | .set, v => .error (.notList v.typeName)
  | .object, .object fields => .ok (.value (.object fields))
  | .object, v => .error (.notObject v.typeName)

end WordStrip
