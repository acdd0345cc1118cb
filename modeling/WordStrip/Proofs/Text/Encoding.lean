import WordStrip.Proofs.Basic
import WordStrip.Text.Encoding

/-!
# UTF-8 is read as it is written

The machine for UTF-8 is told what the next byte may be, and it stops at the first byte that rules a text
out. The law here says that these are the right bytes (`decodeUtf8_eq_ok`): it reads characters exactly
from the bytes that they are written with. So bytes are faulty only when they are those of no text
(`Encoding.exists_fault_iff`).

Between the two stand the sequences that the standard lists (`Sequence`). A character is written as the
sequence of its code point, a sequence is how its code point is written, the machine reads a sequence as
its code point, and what it reads begins with a sequence.
-/

namespace WordStrip.Text

/-! ## Steps of the machine -/

section Steps

variable {place : Nat} {s : OpenSequence} {b : UInt8} {rest : List UInt8}

theorem decode_single (small : b < 0x80) :
    decodeUtf8From place none (b :: rest) =
      (decodeUtf8From (place + 1) none rest).map (Char.ofNat b.toNat :: ·) := by
  rw [decodeUtf8From, if_pos small]
  cases decodeUtf8From (place + 1) none rest <;> rfl

theorem decode_lead (high : ¬ b < 0x80) (opens : openSequence? place b = some s) :
    decodeUtf8From place none (b :: rest) = decodeUtf8From (place + 1) (some s) rest := by
  rw [decodeUtf8From, if_neg high, opens]

theorem decode_more (fits : ¬ (b < s.least ∨ s.greatest < b)) (more : 2 ≤ s.lacking) :
    decodeUtf8From place (some s) (b :: rest) =
      decodeUtf8From (place + 1) (some (s.extend b)) rest := by
  rw [decodeUtf8From, if_neg fits]
  have stillOpen : (s.extend b).lacking ≠ 0 := by
    show s.lacking - 1 ≠ 0
    omega
  exact if_neg stillOpen

theorem decode_last (fits : ¬ (b < s.least ∨ s.greatest < b)) (last : s.lacking = 1) :
    decodeUtf8From place (some s) (b :: rest) =
      (decodeUtf8From (place + 1) none rest).map (Char.ofNat (s.extend b).value :: ·) := by
  rw [decodeUtf8From, if_neg fits]
  have closed : (s.extend b).lacking = 0 := by
    show s.lacking - 1 = 0
    omega
  dsimp only
  rw [if_pos closed]
  cases decodeUtf8From (place + 1) none rest <;> rfl

end Steps

/-! ## Sequences -/

/-- A byte that may stand inside a sequence, behind its first one. -/
def IsTrailing (b : UInt8) : Prop := 0x80 ≤ b.toNat ∧ b.toNat ≤ 0xBF

/-- The sequences of bytes that stand for a character, with its code point. What is asked of a second byte
keeps out the sequences that are longer than they need to be, those of the surrogates, and those beyond the
last code point. -/
inductive Sequence : List UInt8 → Nat → Prop
  | one {b : UInt8} (lead : b.toNat < 0x80) : Sequence [b] b.toNat
  | two {b c : UInt8} (lead : 0xC2 ≤ b.toNat ∧ b.toNat ≤ 0xDF) (second : IsTrailing c) :
    Sequence [b, c] (64 * (b.toNat - 0xC0) + c.toNat % 64)
  | three {b c d : UInt8} (lead : 0xE0 ≤ b.toNat ∧ b.toNat ≤ 0xEF) (second : IsTrailing c)
    (third : IsTrailing d) (least : b.toNat = 0xE0 → 0xA0 ≤ c.toNat)
    (greatest : b.toNat = 0xED → c.toNat ≤ 0x9F) :
    Sequence [b, c, d] (64 * (64 * (b.toNat - 0xE0) + c.toNat % 64) + d.toNat % 64)
  | four {b c d e : UInt8} (lead : 0xF0 ≤ b.toNat ∧ b.toNat ≤ 0xF4) (second : IsTrailing c)
    (third : IsTrailing d) (fourth : IsTrailing e) (least : b.toNat = 0xF0 → 0x90 ≤ c.toNat)
    (greatest : b.toNat = 0xF4 → c.toNat ≤ 0x8F) :
    Sequence [b, c, d, e]
      (64 * (64 * (64 * (b.toNat - 0xF0) + c.toNat % 64) + d.toNat % 64) + e.toNat % 64)

/-- A character is written as a sequence of its code point. -/
theorem sequence_utf8EncodeChar (char : Char) :
    Sequence (String.utf8EncodeChar char) char.toNat := by
  have valid : char.toNat < 0xD800 ∨ 0xDFFF < char.toNat ∧ char.toNat < 0x110000 := char.valid
  have byte (n : Nat) (small : n < 256) : (UInt8.ofNat n).toNat = n := UInt8.toNat_ofNat_of_lt' small
  unfold String.utf8EncodeChar
  rw [Char.toNat_val]
  generalize char.toNat = v at valid
  dsimp only
  have last := byte (v % 64 + 128) (by omega)
  by_cases one : v ≤ 0x7F
  · rw [if_pos one]
    have lead := byte v (by omega)
    have sequence := Sequence.one (b := UInt8.ofNat v) (by omega)
    rwa [lead] at sequence
  rw [if_neg one]
  by_cases two : v ≤ 0x7FF
  · rw [if_pos two]
    have lead := byte (v / 64 % 32 + 192) (by omega)
    have sequence := Sequence.two (b := UInt8.ofNat (v / 64 % 32 + 192)) (c := UInt8.ofNat (v % 64 + 128))
      (by omega) ⟨by omega, by omega⟩
    have point : 64 * (v / 64 % 32 + 192 - 0xC0) + (v % 64 + 128) % 64 = v := by omega
    rwa [lead, last, point] at sequence
  rw [if_neg two]
  have middle := byte (v / 64 % 64 + 128) (by omega)
  by_cases three : v ≤ 0xFFFF
  · rw [if_pos three]
    have lead := byte (v / 4096 % 16 + 224) (by omega)
    have sequence := Sequence.three (b := UInt8.ofNat (v / 4096 % 16 + 224))
      (c := UInt8.ofNat (v / 64 % 64 + 128)) (d := UInt8.ofNat (v % 64 + 128))
      (by omega) ⟨by omega, by omega⟩ ⟨by omega, by omega⟩ (by omega) (by omega)
    have point : 64 * (64 * (v / 4096 % 16 + 224 - 0xE0) + (v / 64 % 64 + 128) % 64) +
        (v % 64 + 128) % 64 = v := by omega
    rwa [lead, middle, last, point] at sequence
  · rw [if_neg three]
    have lead := byte (v / 262144 % 8 + 240) (by omega)
    have second := byte (v / 4096 % 64 + 128) (by omega)
    have sequence := Sequence.four (b := UInt8.ofNat (v / 262144 % 8 + 240))
      (c := UInt8.ofNat (v / 4096 % 64 + 128)) (d := UInt8.ofNat (v / 64 % 64 + 128))
      (e := UInt8.ofNat (v % 64 + 128))
      (by omega) ⟨by omega, by omega⟩ ⟨by omega, by omega⟩ ⟨by omega, by omega⟩ (by omega) (by omega)
    have point : 64 * (64 * (64 * (v / 262144 % 8 + 240 - 0xF0) + (v / 4096 % 64 + 128) % 64) +
        (v / 64 % 64 + 128) % 64) + (v % 64 + 128) % 64 = v := by omega
    rwa [lead, second, middle, last, point] at sequence

/-- A sequence is how the character with its code point is written. -/
theorem Sequence.encode {bytes : List UInt8} {n : Nat} (sequence : Sequence bytes n) :
    String.utf8EncodeChar (Char.ofNat n) = bytes := by
  have byte {n : Nat} {b : UInt8} (same : n = b.toNat) : UInt8.ofNat n = b := by
    rw [same, UInt8.ofNat_toNat]
  have point (valid : n < 0xD800 ∨ 0xDFFF < n ∧ n < 0x110000) : (Char.ofNat n).val.toNat = n := by
    rw [Char.ofNat, dif_pos valid]
    rfl
  unfold String.utf8EncodeChar
  cases sequence with
  | one lead =>
    rw [point (by omega)]
    dsimp only
    rw [if_pos (by omega), byte rfl]
  | two lead second =>
    obtain ⟨low, high⟩ := second
    rw [point (by omega)]
    dsimp only
    rw [if_neg (by omega), if_pos (by omega)]
    simp only [List.cons.injEq, and_true]
    exact ⟨byte (by omega), byte (by omega)⟩
  | three lead second third least greatest =>
    obtain ⟨low, high⟩ := second
    obtain ⟨low', high'⟩ := third
    rw [point (by omega)]
    dsimp only
    rw [if_neg (by omega), if_neg (by omega), if_pos (by omega)]
    simp only [List.cons.injEq, and_true]
    exact ⟨byte (by omega), byte (by omega), byte (by omega)⟩
  | four lead second third fourth least greatest =>
    obtain ⟨low, high⟩ := second
    obtain ⟨low', high'⟩ := third
    obtain ⟨low'', high''⟩ := fourth
    rw [point (by omega)]
    dsimp only
    rw [if_neg (by omega), if_neg (by omega), if_neg (by omega)]
    simp only [List.cons.injEq, and_true]
    exact ⟨byte (by omega), byte (by omega), byte (by omega), byte (by omega)⟩

/-! ## Decoding -/

theorem not_lt_of_toNat {b : UInt8} (high : 0x80 ≤ b.toNat) : ¬ b < 0x80 := by
  rw [UInt8.lt_iff_toNat_lt]
  simp only [UInt8.reduceToNat]
  omega

theorem fits_iff {b least greatest : UInt8} :
    ¬ (b < least ∨ greatest < b) ↔ least.toNat ≤ b.toNat ∧ b.toNat ≤ greatest.toNat := by
  simp only [UInt8.lt_iff_toNat_lt, not_or, Nat.not_lt]

theorem IsTrailing.fits {b : UInt8} (trailing : IsTrailing b) : ¬ (b < 0x80 ∨ 0xBF < b) :=
  fits_iff.mpr trailing

/-- The bounds of the second byte: those of every byte inside, and stricter ones behind two first bytes. -/
theorem second_fits_iff {b c least greatest : UInt8} {low high : Nat} (above : 0x80 ≤ least.toNat)
    (below : greatest.toNat ≤ 0xBF) :
    (if b.toNat = low then least else 0x80).toNat ≤ c.toNat ∧
        c.toNat ≤ (if b.toNat = high then greatest else 0xBF).toNat ↔
      IsTrailing c ∧ (b.toNat = low → least.toNat ≤ c.toNat) ∧
        (b.toNat = high → c.toNat ≤ greatest.toNat) := by
  simp only [IsTrailing, apply_ite UInt8.toNat, UInt8.reduceToNat]
  split <;> split <;> omega

/-- A sequence is read as the character with its code point. -/
theorem Sequence.decode {bytes : List UInt8} {n : Nat} (sequence : Sequence bytes n) (place : Nat)
    (rest : List UInt8) :
    decodeUtf8From place none (bytes ++ rest) =
      (decodeUtf8From (place + bytes.length) none rest).map (Char.ofNat n :: ·) := by
  cases sequence with
  | @one b lead =>
    have small : b < 0x80 := UInt8.lt_iff_toNat_lt.mpr lead
    exact decode_single small
  | @two b c lead second =>
    have opens : openSequence? place b =
        some { lead := b, first := place, value := b.toNat - 0xC0, lacking := 1 } := by
      rw [openSequence?, if_pos lead]
    rw [List.cons_append, decode_lead (not_lt_of_toNat (by omega)) opens]
    exact decode_last second.fits rfl
  | @three b c d lead second third least greatest =>
    have opens : openSequence? place b = some {
        lead := b, first := place, value := b.toNat - 0xE0, lacking := 2
        least := if b.toNat = 0xE0 then 0xA0 else 0x80
        greatest := if b.toNat = 0xED then 0x9F else 0xBF } := by
      rw [openSequence?, if_neg (by omega), if_pos lead]
    rw [List.cons_append, decode_lead (not_lt_of_toNat (by omega)) opens, List.cons_append,
      decode_more ?_ (Nat.le_refl 2)]
    · exact decode_last third.fits rfl
    · exact fits_iff.mpr ((second_fits_iff (by decide) (by decide)).mpr ⟨second, least, greatest⟩)
  | @four b c d e lead second third fourth least greatest =>
    have opens : openSequence? place b = some {
        lead := b, first := place, value := b.toNat - 0xF0, lacking := 3
        least := if b.toNat = 0xF0 then 0x90 else 0x80
        greatest := if b.toNat = 0xF4 then 0x8F else 0xBF } := by
      rw [openSequence?, if_neg (by omega), if_neg (by omega), if_pos lead]
    rw [List.cons_append, decode_lead (not_lt_of_toNat (by omega)) opens, List.cons_append,
      decode_more ?_ (by decide : 2 ≤ 3), List.cons_append,
      decode_more third.fits (Nat.le_refl 2)]
    · exact decode_last fourth.fits rfl
    · exact fits_iff.mpr ((second_fits_iff (by decide) (by decide)).mpr ⟨second, least, greatest⟩)

/-- Where a sequence is open and the bytes are read, the next one fits, and so on while more are lacking. -/
theorem exists_fits {place : Nat} {s : OpenSequence} {bytes : List UInt8} {cs : List Char}
    (read : decodeUtf8From place (some s) bytes = .ok cs) :
    ∃ b rest, bytes = b :: rest ∧ (s.least.toNat ≤ b.toNat ∧ b.toNat ≤ s.greatest.toNat) ∧
      (2 ≤ s.lacking → decodeUtf8From (place + 1) (some (s.extend b)) rest = .ok cs) := by
  cases bytes with
  | nil => cases read
  | cons b rest =>
    by_cases unfit : b < s.least ∨ s.greatest < b
    · rw [decodeUtf8From, if_pos unfit] at read
      cases read
    · exact ⟨b, rest, rfl, fits_iff.mp unfit, fun more => (decode_more unfit more).symm.trans read⟩

/-- Bytes that are read begin with a sequence. -/
theorem exists_sequence {place : Nat} {b : UInt8} {rest : List UInt8} {cs : List Char}
    (read : decodeUtf8From place none (b :: rest) = .ok cs) :
    ∃ bytes n later, b :: rest = bytes ++ later ∧ Sequence bytes n := by
  by_cases small : b < 0x80
  · exact ⟨[b], _, rest, rfl, .one (UInt8.lt_iff_toNat_lt.mp small)⟩
  cases opens : openSequence? place b with
  | none =>
    rw [decodeUtf8From, if_neg small, opens] at read
    cases read
  | some s =>
    rw [decode_lead small opens] at read
    unfold openSequence? at opens
    dsimp only at opens
    split at opens
    case isTrue lead =>
      obtain rfl := Option.some.inj opens
      obtain ⟨c, rest, rfl, second, -⟩ := exists_fits read
      exact ⟨[b, c], _, rest, rfl, .two lead second⟩
    split at opens
    case isTrue lead =>
      obtain rfl := Option.some.inj opens
      obtain ⟨c, rest, rfl, fits, more⟩ := exists_fits read
      obtain ⟨d, rest, rfl, third, -⟩ := exists_fits (more (Nat.le_refl 2))
      obtain ⟨second, least, greatest⟩ := (second_fits_iff (by decide) (by decide)).mp fits
      exact ⟨[b, c, d], _, rest, rfl, .three lead second third least greatest⟩
    split at opens
    case isTrue lead =>
      obtain rfl := Option.some.inj opens
      obtain ⟨c, rest, rfl, fits, more⟩ := exists_fits read
      obtain ⟨d, rest, rfl, third, more'⟩ := exists_fits (more (by decide : 2 ≤ 3))
      obtain ⟨e, rest, rfl, fourth, -⟩ := exists_fits (more' (Nat.le_refl 2))
      obtain ⟨second, least, greatest⟩ := (second_fits_iff (by decide) (by decide)).mp fits
      exact ⟨[b, c, d, e], _, rest, rfl, .four lead second third fourth least greatest⟩
    case isFalse => cases opens

/-- Bytes that are read are written with the characters that they give. -/
theorem flatMap_of_decode {place : Nat} {bytes : List UInt8} {cs : List Char}
    (read : decodeUtf8From place none bytes = .ok cs) : cs.flatMap String.utf8EncodeChar = bytes := by
  -- on the number of bytes, since a character takes several
  induction size : bytes.length using Nat.strongRecOn generalizing bytes cs place with
  | ind _ ih =>
    cases bytes with
    | nil =>
      obtain rfl : [] = cs := Except.ok.inj read
      rfl
    | cons b rest =>
      obtain ⟨front, n, later, split, sequence⟩ := exists_sequence read
      rw [split] at read size ⊢
      rw [sequence.decode] at read
      obtain ⟨tail, last, rfl⟩ := map_eq_ok.mp read
      have shorter : later.length < (front ++ later).length := by
        rw [List.length_append, ← sequence.encode, String.length_utf8EncodeChar]
        have positive := Char.utf8Size_pos (Char.ofNat n)
        omega
      rw [List.flatMap_cons, sequence.encode, ih _ (size ▸ shorter) last rfl]

/-- Bytes are read as the characters that they are written with, and fail to be read if there are none. -/
theorem decodeUtf8_eq_ok {bytes : List UInt8} {cs : List Char} :
    decodeUtf8 bytes = .ok cs ↔ cs.flatMap String.utf8EncodeChar = bytes := by
  refine ⟨flatMap_of_decode, ?_⟩
  rintro rfl
  unfold decodeUtf8
  generalize 0 = place
  induction cs generalizing place with
  | nil => rfl
  | cons c cs ih =>
    rw [List.flatMap_cons, (sequence_utf8EncodeChar c).decode, ih, Char.ofNat_toNat]
    rfl

/-! ## Texts -/

/-- The bytes of a text. -/
theorem toList_toUTF8 (text : String) :
    text.toUTF8.data.toList = text.toList.flatMap String.utf8EncodeChar := by
  rw [String.toUTF8_eq_toByteArray, ← String.utf8Encode_toList, List.utf8Encode, List.data_toByteArray]

/-- The text of bytes in UTF-8 is the one with these bytes. -/
theorem Encoding.decode_utf8_eq_ok {bytes : List UInt8} {text : String} :
    Encoding.utf8.decode bytes = .ok text ↔ text.toUTF8.data.toList = bytes := by
  show (decodeUtf8 bytes).map String.ofList = .ok text ↔ _
  rw [map_eq_ok, toList_toUTF8]
  constructor
  · rintro ⟨cs, read, rfl⟩
    rw [String.toList_ofList]
    exact decodeUtf8_eq_ok.mp read
  · exact fun written => ⟨text.toList, decodeUtf8_eq_ok.mpr written, String.ofList_toList⟩

/-- Bytes are faulty in UTF-8 exactly when they are the bytes of no text. -/
theorem Encoding.exists_fault_iff {bytes : List UInt8} :
    (∃ fault, Encoding.utf8.decode bytes = .error fault) ↔
      ∀ text : String, text.toUTF8.data.toList ≠ bytes := by
  constructor
  · rintro ⟨fault, faulty⟩ text written
    cases (Encoding.decode_utf8_eq_ok.mpr written).symm.trans faulty
  · intro unwritten
    cases read : Encoding.utf8.decode bytes with
    | error fault => exact ⟨fault, rfl⟩
    | ok text => exact absurd (Encoding.decode_utf8_eq_ok.mp read) (unwritten text)

end WordStrip.Text
