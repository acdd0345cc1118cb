import WordStrip.Name
import WordStrip.Text.Digit
import WordStrip.Text.Letter

/-!
# The typed word

A snapshot of what the user is composing: the text so far, how shift stood when the word began, and
whether the word was taken up again or written by a gesture. Everything that casing and correction
ask about the word is read off this snapshot.
-/

namespace WordStrip

/-- How shift stood when the word began. -/
inductive CapsMode where
  | off
  | shifted
  | shiftLocked
  deriving DecidableEq, Repr, Inhabited

namespace CapsMode

/-- All modes in order. -/
def all : List CapsMode := [off, shifted, shiftLocked]

/-- The name of a mode. -/
def name : CapsMode → String
  | off => "off"
  | shifted => "shifted"
  | shiftLocked => "shift_locked"

/-- The mode with a name. -/
def ofName (s : String) : Except UnknownName CapsMode := byName "CapsMode" name all s

end CapsMode

/-- A word being composed. A gesture that the user turned down leaves the word it gave in
`rejected`. -/
structure TypedWord where
  text : String := ""
  caps : CapsMode := .off
  isResumed : Bool := false
  isGesture : Bool := false
  rejected : Option String := none
  deriving DecidableEq, Repr, Inhabited

namespace TypedWord

/-- The characters of the word. -/
def chars (w : TypedWord) : List Char := w.text.toList

/-- Whether anything is typed. -/
def isComposing (w : TypedWord) : Bool := !w.chars.isEmpty

/-- Whether the word has a digit. -/
def hasDigits (w : TypedWord) : Bool := w.chars.any Text.isDigit

/-- The count of upper-case letters. -/
def capsCount (w : TypedWord) : Nat := w.chars.countP Text.isUpperCase

/-- Whether the word has two upper-case letters or more. -/
def isMostlyCaps (w : TypedWord) : Bool := 1 < w.capsCount

/-- Whether the word is in upper case throughout. For a single character, and for none, the shift
lock decides. -/
def isAllUpperCase (w : TypedWord) : Bool :=
  if w.chars.length ≤ 1 then w.caps == .shiftLocked else w.capsCount == w.chars.length

/-- Whether the first letter alone is in upper case, or will be when typing begins. -/
def isCapitalized (w : TypedWord) : Bool :=
  match w.chars with
  | [] => w.caps != .off
  | first :: _ => Text.isUpperCase first && w.capsCount == 1

/-- Whether the word began with shift, but without its lock. -/
def wasShifted (w : TypedWord) : Bool := w.caps == .shifted

end TypedWord

end WordStrip
