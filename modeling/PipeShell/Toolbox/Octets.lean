import PipeShell.Text.Utf8

/-!
# Bytes as characters

Where text is only a string of bytes, a byte is kept as the character with its number.  Such a text
has one character for each byte, and any bytes can be kept in it (`octets_ofOctets`).
-/

namespace PipeShell.Text

/-- The text with a character for each byte. -/
def ofOctets (bytes : ByteArray) : String :=
  String.ofList (bytes.data.toList.map fun b => Char.ofNat b.toNat)

/-- The bytes of a text that has a character for each. -/
def octets (s : String) : ByteArray :=
  ⟨(s.toList.map fun c => UInt8.ofNat c.toNat).toArray⟩

/-- A text with a character for each byte of its encoding. -/
def spread (s : String) : String := ofOctets (encode s)

/-- The text that was spread; bytes that are no characters become replacement characters. -/
def gather (s : String) : String := decodeLossy (octets s)

/-- The character with the number of a byte has that number. -/
theorem toNat_ofNat_byte (b : UInt8) : (Char.ofNat b.toNat).toNat = b.toNat := by
  have small : b.toNat < 256 := b.toNat_lt
  have valid : b.toNat.isValidChar := Or.inl (by omega)
  rw [Char.ofNat, dif_pos valid]
  rfl

/-- No byte is lost. -/
theorem octets_ofOctets (bytes : ByteArray) : octets (ofOctets bytes) = bytes := by
  cases bytes with
  | mk data =>
    have same : ((fun c : Char => UInt8.ofNat c.toNat) ∘ fun b : UInt8 => Char.ofNat b.toNat) = id := by
      funext b
      simp [toNat_ofNat_byte]
    simp [octets, ofOctets, same]

end PipeShell.Text
