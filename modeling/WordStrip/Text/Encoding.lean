import WordStrip.Text.Quoted
import WordStrip.Text.Split

/-!
# Encodings

How the bytes of a file stand for text. UTF-8 is read by a machine that goes from byte to byte and
knows, inside a sequence, where it began, how many bytes it still lacks and which values the next
one may have; it stops at the first byte that rules a text out. The variant with a signature drops
one byte order mark in front. Latin-1 takes each byte as a code point and ASCII only the lower half.

Places of faults are counted in bytes, behind a signature that was dropped.
-/

namespace WordStrip.Text

/-- The encodings that a file can have. -/
inductive Encoding where
  | utf8
  | utf8Signed
  | latin1
  | ascii
  deriving DecidableEq, Repr

/-- Why bytes are no text. -/
inductive DecodeCause where
  | invalidStart
  | invalidContinuation
  | unexpectedEnd
  | outOfRange
  deriving DecidableEq, Repr

/-- A fault in the bytes from `first` up to but not including `stop`; `byte` is the first of
them. -/
structure DecodeFault where
  cause : DecodeCause
  byte : UInt8
  first : Nat
  stop : Nat
  deriving DecidableEq, Repr

/-- The wording of a cause. -/
def DecodeCause.message : DecodeCause → String
  | invalidStart => "invalid start byte"
  | invalidContinuation => "invalid continuation byte"
  | unexpectedEnd => "unexpected end of data"
  | outOfRange => "ordinal not in range(128)"

/-- The encoding in which a cause arises. -/
def DecodeCause.codec : DecodeCause → String
  | outOfRange => "ascii"
  | _ => "utf-8"

/-- The wording of a fault. -/
def DecodeFault.message (f : DecodeFault) : String :=
  let byte := String.ofList (hexPadded 2 f.byte.toNat)
  let bytes :=
    if f.stop = f.first + 1 then s!"byte 0x{byte} in position {f.first}"
    else s!"bytes in position {f.first}-{f.stop - 1}"
  s!"'{f.cause.codec}' codec can't decode {bytes}: {f.cause.message}"

/-! ## UTF-8 -/

/-- Where the machine stands inside a sequence: the byte it began with and its place, the value so
far, the bytes lacking, and the least and greatest value of the next one. -/
structure OpenSequence where
  lead : UInt8
  first : Nat
  value : Nat
  lacking : Nat
  least : UInt8 := 0x80
  greatest : UInt8 := 0xBF
  deriving DecidableEq, Repr

/-- What a byte between two characters begins: a sequence, unless no sequence begins with it. -/
def openSequence? (place : Nat) (b : UInt8) : Option OpenSequence :=
  let n := b.toNat
  if 0xC2 ≤ n ∧ n ≤ 0xDF then some { lead := b, first := place, value := n - 0xC0, lacking := 1 }
  else if 0xE0 ≤ n ∧ n ≤ 0xEF then
    some {
      lead := b, first := place, value := n - 0xE0, lacking := 2
      least := if n = 0xE0 then 0xA0 else 0x80
      greatest := if n = 0xED then 0x9F else 0xBF }
  else if 0xF0 ≤ n ∧ n ≤ 0xF4 then
    some {
      lead := b, first := place, value := n - 0xF0, lacking := 3
      least := if n = 0xF0 then 0x90 else 0x80
      greatest := if n = 0xF4 then 0x8F else 0xBF }
  else none

/-- The sequence with the value of one byte more. -/
def OpenSequence.extend (s : OpenSequence) (b : UInt8) : OpenSequence :=
  { lead := s.lead, first := s.first
    value := 64 * s.value + b.toNat % 64, lacking := s.lacking - 1 }

/-- The characters of UTF-8 bytes from `place` on, with the sequence that is open there. -/
def decodeUtf8From (place : Nat) : Option OpenSequence → List UInt8 →
    Except DecodeFault (List Char)
  | none, [] => .ok []
  | some s, [] => .error ⟨.unexpectedEnd, s.lead, s.first, place⟩
  | none, b :: rest =>
    if b < 0x80 then do
      return Char.ofNat b.toNat :: (← decodeUtf8From (place + 1) none rest)
    else
      match openSequence? place b with
      | some s => decodeUtf8From (place + 1) (some s) rest
      | none => .error ⟨.invalidStart, b, place, place + 1⟩
  | some s, b :: rest =>
    if b < s.least ∨ s.greatest < b then .error ⟨.invalidContinuation, s.lead, s.first, place⟩
    else
      let next := s.extend b
      if next.lacking = 0 then do
        return Char.ofNat next.value :: (← decodeUtf8From (place + 1) none rest)
      else decodeUtf8From (place + 1) (some next) rest

/-- The characters of UTF-8 bytes. -/
def decodeUtf8 (bytes : List UInt8) : Except DecodeFault (List Char) :=
  decodeUtf8From 0 none bytes

/-- The bytes of a byte order mark. -/
def signature : List UInt8 := [0xEF, 0xBB, 0xBF]

/-- The characters of UTF-8 bytes behind one signature. A signature that breaks off is no text yet,
and no fault. -/
def decodeUtf8Signed (bytes : List UInt8) : Except DecodeFault (List Char) :=
  if signature.isPrefixOf bytes then decodeUtf8 (bytes.drop signature.length)
  else if bytes.isPrefixOf signature then .ok []
  else decodeUtf8 bytes

/-! ## Single bytes -/

/-- The characters of Latin-1 bytes. -/
def decodeLatin1 (bytes : List UInt8) : List Char := bytes.map fun b => Char.ofNat b.toNat

/-- The characters of ASCII bytes from `place` on. -/
def decodeAsciiFrom (place : Nat) : List UInt8 → Except DecodeFault (List Char)
  | [] => .ok []
  | b :: rest =>
    if b < 0x80 then do return Char.ofNat b.toNat :: (← decodeAsciiFrom (place + 1) rest)
    else .error ⟨.outOfRange, b, place, place + 1⟩

namespace Encoding

/-- The characters that bytes stand for. -/
def decodeChars : Encoding → List UInt8 → Except DecodeFault (List Char)
  | utf8, bytes => decodeUtf8 bytes
  | utf8Signed, bytes => decodeUtf8Signed bytes
  | latin1, bytes => .ok (decodeLatin1 bytes)
  | ascii, bytes => decodeAsciiFrom 0 bytes

/-- The text that bytes stand for. -/
def decode (encoding : Encoding) (bytes : List UInt8) : Except DecodeFault String :=
  (encoding.decodeChars bytes).map String.ofList

/-! ## Names -/

/-- The names of the encodings in their plain form. -/
def names : List (String × Encoding) := [
  ("utf_8", utf8), ("utf8", utf8), ("u8", utf8), ("utf", utf8), ("cp65001", utf8),
  ("utf8_ucs2", utf8), ("utf8_ucs4", utf8),
  ("utf_8_sig", utf8Signed),
  ("latin_1", latin1), ("latin1", latin1), ("latin", latin1), ("l1", latin1),
  ("iso_8859_1", latin1), ("iso8859_1", latin1), ("iso8859", latin1), ("8859", latin1),
  ("cp819", latin1), ("ibm819", latin1), ("csisolatin1", latin1), ("iso_ir_100", latin1),
  ("iso_8859_1_1987", latin1),
  ("ascii", ascii), ("us_ascii", ascii), ("us", ascii), ("646", ascii), ("iso646_us", ascii),
  ("cp367", ascii), ("ibm367", ascii), ("csascii", ascii), ("iso_ir_6", ascii),
  ("ansi_x3.4_1968", ascii), ("ansi_x3_4_1968", ascii), ("ansi_x3.4_1986", ascii),
  ("iso_646.irv_1991", ascii)]

/-- Whether a character belongs to a name's words. -/
def isWordChar (c : Char) : Bool := c.isAlphanum || c == '.'

/-- The plain form of a name: its words in lower case with one underscore between them. -/
def plainName (name : String) : String :=
  let parts := (pieces (fun c => !isWordChar c) name.toList).filter fun piece => !piece.isEmpty
  "_".intercalate (parts.map fun piece => String.ofList (piece.map Char.toLower))

/-- The word that, written just so, names the encoding of the system, which is UTF-8. -/
def systemName : String := "locale"

/-- The encoding with a name. -/
def ofName? (name : String) : Option Encoding :=
  if name = systemName then some utf8 else names.lookup (plainName name)

end Encoding

end WordStrip.Text
