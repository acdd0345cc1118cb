import WordStrip.Text.Digit
import WordStrip.Text.Split
import WordStrip.TypedWord

/-!
# Options

The arguments of the command are options and one word. Arguments are sorted first: what begins with
a hyphen is an option, unless it looks like a negative number or has a space in it; behind a lone
`--` nothing is an option. An option may be shortened as long as one spelling alone begins with it.
Its value is the next argument or stands behind an equals sign; behind a single hyphen and a letter
it may follow at once. A lone `--` in the place of a value leaves the option without one.

Sorting fails on a shortened option that could be several. The sorted arguments are then read from
left to right and the first fault is reported; arguments that nothing asks for are reported last.
-/

namespace WordStrip.CommandLine

/-! ## Options and their spellings -/

/-- The options of the command. -/
inductive Switch where
  | help
  | candidate
  | locale
  | caps
  | batch
  | rejected
  | threshold
  | noCorrection
  | resumed
  | noMainDictionary
  deriving DecidableEq, Repr

namespace Switch

/-- All options in order. -/
def all : List Switch := [
  help, candidate, locale, caps, batch, rejected, threshold, noCorrection, resumed,
  noMainDictionary]

/-- The spellings of an option. -/
def spellings : Switch → List String
  | help => ["-h", "--help"]
  | candidate => ["-c", "--candidate"]
  | locale => ["--locale"]
  | caps => ["--caps"]
  | batch => ["--batch"]
  | rejected => ["--rejected"]
  | threshold => ["--threshold"]
  | noCorrection => ["--no-correction"]
  | resumed => ["--resumed"]
  | noMainDictionary => ["--no-main-dict"]

/-- Whether an option has a value. -/
def takesValue : Switch → Bool
  | candidate | locale | caps | rejected | threshold => true
  | help | batch | noCorrection | resumed | noMainDictionary => false

/-- The name of an option in messages. -/
def shown (s : Switch) : String := "/".intercalate s.spellings

end Switch

/-- Every spelling with its option. -/
def spelled : List (String × Switch) :=
  Switch.all.flatMap fun s => s.spellings.map fun spelling => (spelling, s)

/-! ## Faults -/

/-- Why arguments cannot be used. -/
inductive UsageError where
  | ambiguous (given : String) (spellings : List String)
  | noValue (s : Switch)
  | unusedValue (s : Switch) (value : String)
  | badCaps (value : String)
  | unrecognized (arguments : List String)
  deriving DecidableEq, Repr

/-- The wording of a fault. -/
def UsageError.message : UsageError → String
  | ambiguous given spellings =>
    let matching := ", ".intercalate spellings
    s!"ambiguous option: {given} could match {matching}"
  | noValue s => s!"argument {s.shown}: expected one argument"
  | unusedValue s value =>
    s!"argument {s.shown}: ignored explicit argument {Text.quoted value}"
  | badCaps value =>
    let choices := ", ".intercalate (CapsMode.all.map fun mode => Text.quoted mode.name)
    s!"argument {Switch.caps.shown}: invalid choice: {Text.quoted value} (choose from {choices})"
  | unrecognized arguments =>
    let all := " ".intercalate arguments
    s!"unrecognized arguments: {all}"

/-! ## Sorting -/

/-- What stands in the same argument as an option, behind it; `behindLetter` tells whether the
option is spelled with a single hyphen and a letter. -/
structure Attached where
  value : List Char
  behindLetter : Bool
  deriving DecidableEq, Repr

/-- What an argument is. -/
inductive Token where
  | plain (text : String)
  | separator
  | switch (s : Switch) (attached : Option Attached)
  | unknown (text : String)
  deriving DecidableEq, Repr

/-- The mark behind which nothing is an option. -/
def separatorText : String := "--"

/-- Whether an argument looks like a negative number: digits behind the hyphen, perhaps after a
point. A line feed at the end does not count. -/
def looksNegative : List Char → Bool
  | '-' :: rest =>
    let isDecimal := fun c => (Text.decimalValue? c).isSome
    let body := if rest.getLast? = some '\n' then rest.dropLast else rest
    let whole := body.takeWhile isDecimal
    match body.dropWhile isDecimal with
    | [] => !whole.isEmpty
    | '.' :: places => !places.isEmpty && places.all isDecimal
    | _ => false
  | _ => false

/-- Whether a spelling begins with two hyphens. -/
def isLong : List Char → Bool
  | '-' :: '-' :: _ => true
  | _ => false

/-- An argument cut at its first equals sign. -/
def cutAtEquals (cs : List Char) : List Char × Option Attached :=
  match cs.dropWhile (· ≠ '=') with
  | '=' :: value => (cs.takeWhile (· ≠ '='), some ⟨value, !isLong cs⟩)
  | _ => (cs, none)

/-- The spellings that an argument could stand for, with what is attached to them. -/
def couldBe (cs : List Char) : List (String × Switch × Option Attached) :=
  if isLong cs then
    let (start, attached) := cutAtEquals cs
    (spelled.filter fun (spelling, _) => start.isPrefixOf spelling.toList).map
      fun (spelling, s) => (spelling, s, attached)
  else
    (spelled.filter fun (spelling, _) => spelling.toList == cs.take 2).map
      fun (spelling, s) => (spelling, s, some ⟨cs.drop 2, true⟩)

/-- What an argument before the separator is. -/
def sortArgument (argument : String) : Except UsageError Token :=
  let cs := argument.toList
  if cs.head? ≠ some '-' then .ok (.plain argument)
  else
    match spelled.lookup argument with
    | some s => .ok (.switch s none)
    | none =>
      if cs.length = 1 then .ok (.plain argument)
      else
        let (start, attached) := cutAtEquals cs
        match attached, spelled.lookup (String.ofList start) with
        | some value, some s => .ok (.switch s (some value))
        | _, _ =>
          match couldBe cs with
          | [(_, s, attached)] => .ok (.switch s attached)
          | [] =>
            if looksNegative cs || cs.contains ' ' then .ok (.plain argument)
            else .ok (.unknown argument)
          | several => .error (.ambiguous argument (several.map (·.1)))

/-- The arguments, sorted. -/
def sortArguments : List String → Except UsageError (List Token)
  | [] => .ok []
  | argument :: rest =>
    if argument = separatorText then .ok (.separator :: rest.map .plain)
    else do
      let token ← sortArgument argument
      return token :: (← sortArguments rest)

/-! ## Reading -/

/-- What an option is given: a text, or nothing where the separator stands for the value. -/
inductive OptionValue where
  | text (s : String)
  | nothing
  deriving DecidableEq, Repr

/-- What an option is given by the text in the place of its value. -/
def OptionValue.ofText (s : String) : OptionValue := if s = separatorText then nothing else text s

/-- The text that an option is given. -/
def OptionValue.text? : OptionValue → Option String
  | text s => some s
  | nothing => none

/-- What the arguments say. There is no mode of capitals when its option is given nothing. -/
structure Arguments where
  typed : String := ""
  candidates : List OptionValue := []
  locale : String := "en_US"
  caps : Option CapsMode := some .off
  batch : Bool := false
  rejected : Option String := none
  threshold : Option OptionValue := none
  noCorrection : Bool := false
  resumed : Bool := false
  noMainDictionary : Bool := false
  deriving DecidableEq, Repr

/-- What the command is asked to do. -/
inductive Invocation where
  | help
  | run (arguments : Arguments)
  deriving DecidableEq, Repr

/-- Where the one word stands: not read yet; behind a separator; just read, so that a separator
behind it belongs to it; or passed. -/
inductive WordStage where
  | waiting
  | afterSeparator
  | justRead
  | passed
  deriving DecidableEq, Repr

/-- How far the arguments are read: what they say, where the word stands, the option whose value
comes next, whether help is given once that value is there, and the arguments that nothing asks
for. -/
structure Progress where
  arguments : Arguments := {}
  word : WordStage := .waiting
  pending : Option Switch := none
  helpAsked : Bool := false
  extra : List String := []

/-- Why reading ends before the last argument. -/
inductive Stop where
  | help
  | fault (e : UsageError)
  deriving DecidableEq, Repr

/-- The mode of capitals that its option is given. -/
def readCaps : OptionValue → Except UsageError (Option CapsMode)
  | .nothing => .ok none
  | .text name =>
    match CapsMode.ofName name with
    | .ok caps => .ok (some caps)
    | .error _ => .error (.badCaps name)

/-- The arguments with what an option is given. -/
def Arguments.withValue (a : Arguments) (s : Switch) (value : OptionValue) :
    Except UsageError Arguments :=
  match s with
  | .candidate => .ok { a with candidates := a.candidates ++ [value] }
  | .locale => .ok { a with locale := value.text?.getD "" }
  | .caps => (readCaps value).map fun caps => { a with caps }
  | .rejected => .ok { a with rejected := value.text? }
  | .threshold => .ok { a with threshold := some value }
  | _ => .ok a

/-- The arguments with an option that has no value. -/
def Arguments.withFlag (a : Arguments) : Switch → Arguments
  | .batch => { a with batch := true }
  | .noCorrection => { a with noCorrection := true }
  | .resumed => { a with resumed := true }
  | .noMainDictionary => { a with noMainDictionary := true }
  | _ => a

/-- What becomes of a request for help with letters attached: each letter is an option of its own,
and one with a value takes the rest, or the next argument when nothing is left. Help is given once
all letters are read. -/
def helpLetters (p : Progress) : List Char → Except Stop Progress
  | [] => .error (.fault (.unusedValue .help ""))
  | c :: rest =>
    match spelled.lookup (String.ofList ['-', c]) with
    | none => .error (.fault (.unusedValue .help (String.ofList (c :: rest))))
    | some s =>
      match rest with
      | [] =>
        if s.takesValue then .ok { p with pending := some s, helpAsked := true } else .error .help
      | more => if s.takesValue then .error .help else helpLetters p more

/-- The progress after an option. -/
def Progress.readSwitch (p : Progress) (s : Switch) : Option Attached → Except Stop Progress
  | none =>
    if s = .help then .error .help
    else if s.takesValue then .ok { p with pending := some s }
    else .ok { p with arguments := p.arguments.withFlag s }
  | some a =>
    if s.takesValue then
      match p.arguments.withValue s (.ofText (String.ofList a.value)) with
      | .ok arguments => .ok { p with arguments }
      | .error e => .error (.fault e)
    else if s = .help ∧ a.behindLetter then helpLetters p a.value
    else .error (.fault (.unusedValue s (String.ofList a.value)))

/-- The progress with an argument that nothing asks for. -/
def Progress.withExtra (p : Progress) (text : String) : Progress :=
  { p with extra := p.extra ++ [text] }

/-- The progress past the word's place, if the word was just read. -/
def Progress.closeWord (p : Progress) : Progress :=
  if p.word = .justRead then { p with word := .passed } else p

/-- The progress after an argument that is no option's value. -/
def Progress.readFree (p : Progress) : Token → Except Stop Progress
  | .plain text =>
    let arguments := { p.arguments with typed := text }
    match p.word with
    | .waiting => .ok { p with arguments, word := .justRead }
    | .afterSeparator => .ok { p with arguments, word := .passed }
    | _ => .ok ({ p with word := .passed }.withExtra text)
  | .separator =>
    match p.word with
    | .waiting => .ok { p with word := .afterSeparator }
    | .justRead => .ok { p with word := .passed }
    | _ => .ok (p.withExtra separatorText)
  | .unknown text => .ok (p.closeWord.withExtra text)
  | .switch s attached => p.closeWord.readSwitch s attached

/-- The progress after an argument. -/
def Progress.read (p : Progress) (token : Token) : Except Stop Progress :=
  match p.pending, token with
  | none, token => p.readFree token
  | some s, .plain value =>
    if p.helpAsked then .error .help
    else
      match p.arguments.withValue s (.ofText value) with
      | .ok arguments => .ok { p with arguments, pending := none }
      | .error e => .error (.fault e)
  | some s, _ => .error (.fault (.noValue s))

/-- What the arguments say when all are read. -/
def Progress.finish (p : Progress) : Except Stop Arguments :=
  match p.pending with
  | some s => .error (.fault (.noValue s))
  | none => if p.extra.isEmpty then .ok p.arguments else .error (.fault (.unrecognized p.extra))

/-- What the arguments ask for. -/
def Invocation.parse (arguments : List String) : Except UsageError Invocation := do
  let tokens ← sortArguments arguments
  match tokens.foldlM Progress.read {} >>= Progress.finish with
  | .ok arguments => return .run arguments
  | .error .help => return .help
  | .error (.fault e) => throw e

end WordStrip.CommandLine
