/-!
# Text and bytes

Programs exchange bytes; the shell's own commands read and print text.  `decode?` accepts bytes
that are UTF-8 and nothing else.  `decodeLossy` accepts any bytes: each maximal piece that could
begin a character but does not complete one becomes a single replacement character.

`decodeLossy` is a loop over a byte position; its step is `glyphAt`, the character found at a
position together with the number of bytes it covers.
-/

namespace PipeShell.Text

/-- The UTF-8 encoding of a text. -/
def encode (s : String) : ByteArray :=
  s.toUTF8

/-- The text that the bytes encode, if they are UTF-8. -/
def decode? (bytes : ByteArray) : Option String :=
  String.fromUTF8? bytes

/-- A text that was encoded is read back. -/
theorem decode?_encode (s : String) : decode? (encode s) = some s := by
  simp only [decode?, encode, String.fromUTF8?, String.toUTF8_eq_toByteArray, dif_pos s.isValidUTF8]
  rfl

/-- The character U+FFFD that stands for bytes which are no character. -/
def replacement : Char := '\ufffd'

/-- A byte `10xxxxxx`, which continues a character. -/
def isContinuation (b : UInt8) : Bool :=
  0x80 ≤ b && b ≤ 0xbf

/-- The number of bytes that a character with this first byte has; zero for a byte that begins
none. -/
def sequenceLength (first : UInt8) : Nat :=
  if first < 0x80 then 1
  else if 0xc2 ≤ first && first ≤ 0xdf then 2
  else if 0xe0 ≤ first && first ≤ 0xef then 3
  else if 0xf0 ≤ first && first ≤ 0xf4 then 4
  else 0

/-- The second byte can follow the first one.  The bounds of the range depend on the first byte,
since a character has one encoding only and is no surrogate. -/
def secondFits (first second : UInt8) : Bool :=
  if first == 0xe0 then 0xa0 ≤ second && second ≤ 0xbf
  else if first == 0xed then 0x80 ≤ second && second ≤ 0x9f
  else if first == 0xf0 then 0x90 ≤ second && second ≤ 0xbf
  else if first == 0xf4 then 0x80 ≤ second && second ≤ 0x8f
  else isContinuation second

/-- The length of the broken piece at position `i`: the bytes there that could still have become a
character, at least one. -/
def brokenLength (bytes : ByteArray) (i : Nat) : Nat :=
  let first := bytes[i]?.getD 0
  let fitsAt (k : Nat) (test : UInt8 → Bool) : Bool := (bytes[i + k]?.map test).getD false
  let length := sequenceLength first
  if length < 3 then 1
  else if !fitsAt 1 (secondFits first) then 1
  else if !fitsAt 2 isContinuation then 2
  else if length = 3 then 2
  else 3

/-- The character at position `i` and the number of bytes it covers. -/
def glyphAt (bytes : ByteArray) (i : Nat) : Char × Nat :=
  match bytes.utf8DecodeChar? i with
  | some c => (c, c.utf8Size)
  | none => (replacement, brokenLength bytes i)

/-- Broken bytes are passed over at least one at a time. -/
theorem brokenLength_pos (bytes : ByteArray) (i : Nat) : 0 < brokenLength bytes i := by
  unfold brokenLength
  dsimp only
  repeat' split
  all_goals omega

/-- Reading goes on by at least one byte, so it comes to an end. -/
theorem glyphAt_pos (bytes : ByteArray) (i : Nat) : 0 < (glyphAt bytes i).2 := by
  unfold glyphAt
  split
  · exact Char.utf8Size_pos _
  · exact brokenLength_pos bytes i

/-- `text` followed by the characters from position `i` on. -/
def decodeFrom (bytes : ByteArray) (i : Nat) (text : String) : String :=
  if _h : i < bytes.size then
    let glyph := glyphAt bytes i
    decodeFrom bytes (i + glyph.2) (text.push glyph.1)
  else text
termination_by bytes.size - i
decreasing_by
  have := glyphAt_pos bytes i
  omega

/-- The text of any bytes, with replacement characters for what is not UTF-8. -/
def decodeLossy (bytes : ByteArray) : String :=
  decodeFrom bytes 0 ""

/-- No bytes are the empty text. -/
@[simp] theorem decodeLossy_empty : decodeLossy .empty = "" := by
  simp [decodeLossy, decodeFrom]

end PipeShell.Text
