import Mathlib.Tactic.Common
import PipeShell.Text.Utf8

/-!
# Text through bytes and back

Different texts have different encodings (`encode_inj`), and texts are encoded one after the other
(`encode_append`).  `Text.decodeLossy` finds one character after the other.  In the encoding of a
text it finds the characters of that text (`glyphAt_append`), so nothing is lost:
`decodeLossy_encode`.
-/

namespace PipeShell.Text

/-- Texts with the same bytes are the same. -/
lemma encode_inj {s t : String} : encode s = encode t ↔ s = t := by
  refine ⟨fun h => ?_, congrArg encode⟩
  have hdecode := congrArg decode? h
  rw [decode?_encode, decode?_encode] at hdecode
  exact Option.some.inj hdecode

/-- What was read is written with the same bytes. -/
lemma encode_of_decode? {bytes : ByteArray} {s : String} (h : decode? bytes = some s) :
    encode s = bytes := by
  unfold decode? String.fromUTF8? at h
  split at h
  · cases h
    rfl
  · cases h

/-- The bytes of two texts are the bytes of the first and then those of the second. -/
lemma encode_append (s t : String) : encode (s ++ t) = encode s ++ encode t :=
  String.toByteArray_append

/-- A character alone takes the bytes that it has by itself. -/
lemma size_utf8Encode_singleton (c : Char) : [c].utf8Encode.size = c.utf8Size := by
  rw [List.utf8Encode_singleton, List.size_toByteArray, String.length_utf8EncodeChar]

/-- Behind encoded characters stands the next one. -/
lemma glyphAt_append (front rest : List Char) (c : Char) :
    glyphAt (front.utf8Encode ++ (c :: rest).utf8Encode) front.utf8Encode.size =
      (c, c.utf8Size) := by
  have hchar : (front.utf8Encode ++ (c :: rest).utf8Encode).utf8DecodeChar?
      front.utf8Encode.size = some c := by
    rw [ByteArray.utf8DecodeChar?_eq_utf8DecodeChar?_extract,
      ByteArray.extract_append_eq_right rfl ByteArray.size_append]
    exact List.utf8DecodeChar?_utf8Encode_cons
  simp only [glyphAt, hchar]

/-- Behind encoded characters the rest of them is decoded. -/
lemma decodeFrom_append (front rest : List Char) (text : String) :
    decodeFrom (front.utf8Encode ++ rest.utf8Encode) front.utf8Encode.size text =
      text ++ String.ofList rest := by
  induction rest generalizing front text with
  | nil =>
      rw [decodeFrom, dif_neg (by simp)]
      exact String.append_empty.symm
  | cons c rest ih =>
      have hsize : (c :: rest).utf8Encode.size = c.utf8Size + rest.utf8Encode.size := by
        rw [List.utf8Encode_cons, ByteArray.size_append, size_utf8Encode_singleton]
      have hlt : front.utf8Encode.size <
          (front.utf8Encode ++ (c :: rest).utf8Encode).size := by
        have hpos := c.utf8Size_pos
        rw [ByteArray.size_append]
        omega
      -- the character moves from the rest to what is in front of it
      have hmove : (front ++ [c]).utf8Encode ++ rest.utf8Encode =
          front.utf8Encode ++ (c :: rest).utf8Encode := by
        rw [List.utf8Encode_append, ByteArray.append_assoc, ← List.utf8Encode_cons]
      have hnext : front.utf8Encode.size + c.utf8Size = (front ++ [c]).utf8Encode.size := by
        rw [List.utf8Encode_append, ByteArray.size_append, size_utf8Encode_singleton]
      rw [decodeFrom, dif_pos hlt, glyphAt_append]
      dsimp only
      rw [hnext, ← hmove, ih, String.push_eq_append, String.append_assoc]
      congr 1
      exact String.ofList_append.symm

/-- The text of encoded text is that text. -/
@[simp] theorem decodeLossy_encode (s : String) : decodeLossy (encode s) = s := by
  have hdecode := decodeFrom_append [] s.toList ""
  rw [List.utf8Encode_nil, ByteArray.empty_append, String.utf8Encode_toList, String.ofList_toList,
    String.empty_append] at hdecode
  exact hdecode

end PipeShell.Text
