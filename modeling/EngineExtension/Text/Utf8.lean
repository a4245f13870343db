/-!
# UTF-8 text from untrusted bytes

Bytes that come from outside need not be UTF-8. `decodeLossy` reads them anyway: a byte sequence
that encodes a character gives that character, and each *broken piece* gives one replacement
character. A broken piece is the longest start of an encoded character that is not continued, or a
single byte that cannot start one.

* `Lead` — what a first byte promises: how many bytes follow, and the range of the next one;
* `decodeChar` — one character or one broken piece off the front;
* `encode`, `decodeLossy` — the two directions over whole texts;
* `decode?` — the strict reader, which refuses bytes with a broken piece.
-/

namespace EngineExtension.Text

/-- The bytes of a list of characters. -/
def encode (cs : List Char) : List UInt8 := cs.flatMap String.utf8EncodeChar

/-- What the first byte of a character of several bytes promises. -/
structure Lead where
  /-- number of bytes that follow -/
  more : Nat
  /-- least value of the byte that follows -/
  low : UInt8
  /-- greatest value of the byte that follows -/
  high : UInt8
  /-- the part of the code point that the first byte carries -/
  bits : Nat

/-- Reads the first byte of a character of several bytes. The ranges of the second byte leave out
overlong forms, surrogates and numbers above the last code point. -/
def Lead.ofByte? (b : UInt8) : Option Lead :=
  if b < 0xC2 then none
  else if b < 0xE0 then some ⟨1, 0x80, 0xBF, b.toNat % 32⟩
  else if b = 0xE0 then some ⟨2, 0xA0, 0xBF, 0⟩
  else if b = 0xED then some ⟨2, 0x80, 0x9F, 13⟩
  else if b < 0xF0 then some ⟨2, 0x80, 0xBF, b.toNat % 16⟩
  else if b = 0xF0 then some ⟨3, 0x90, 0xBF, 0⟩
  else if b < 0xF4 then some ⟨3, 0x80, 0xBF, b.toNat % 8⟩
  else if b = 0xF4 then some ⟨3, 0x80, 0x8F, 4⟩
  else none

/-- Adds `more` following bytes to the part of a code point read so far. The first of them lies
within `low` and `high`. Stops in front of the first byte that does not fit. -/
def follow : (more : Nat) → (low high : UInt8) → (bits : Nat) → List UInt8 →
    Option Nat × List UInt8
  | 0, _, _, bits, bs => (some bits, bs)
  | _ + 1, _, _, _, [] => (none, [])
  | more + 1, low, high, bits, b :: bs =>
    if low ≤ b ∧ b ≤ high then follow more 0x80 0xBF (bits * 64 + b.toNat % 64) bs
    else (none, b :: bs)

theorem follow_length (more : Nat) (low high : UInt8) (bits : Nat) (bs : List UInt8) :
    (follow more low high bits bs).2.length ≤ bs.length := by
  induction more generalizing low high bits bs with
  | zero => simp [follow]
  | succ more ih =>
    cases bs with
    | nil => simp [follow]
    | cons b bs =>
      simp only [follow]
      split
      · exact Nat.le_succ_of_le (ih ..)
      · simp

/-- The character that stands for a broken piece. -/
def replacement : Char := '\uFFFD'

/-- The character or broken piece that starts with byte `b`, and the bytes after it. `none` is a
broken piece. -/
def decodeChar (b : UInt8) (bs : List UInt8) : Option Char × List UInt8 :=
  if b < 0x80 then (some (Char.ofNat b.toNat), bs)
  else match Lead.ofByte? b with
    | none => (none, bs)
    | some lead =>
      let (bits?, rest) := follow lead.more lead.low lead.high lead.bits bs
      (bits?.map Char.ofNat, rest)

theorem decodeChar_length (b : UInt8) (bs : List UInt8) :
    (decodeChar b bs).2.length ≤ bs.length := by
  unfold decodeChar
  split
  · exact Nat.le_refl _
  · split
    · exact Nat.le_refl _
    · exact follow_length ..

/-- The characters and broken pieces that bytes consist of, in order. -/
def pieces : List UInt8 → List (Option Char)
  | [] => []
  | b :: bs => (decodeChar b bs).1 :: pieces (decodeChar b bs).2
termination_by bs => bs.length
decreasing_by
  have := decodeChar_length b bs
  simp only [List.length_cons]
  omega

/-- Reads bytes as text, with one replacement character for each broken piece. -/
def decodeLossy (bs : List UInt8) : List Char :=
  (pieces bs).map (·.getD replacement)

/-- Reads bytes as text if no piece of them is broken. -/
def decode? (bs : List UInt8) : Option (List Char) :=
  (pieces bs).mapM id

end EngineExtension.Text
