import PipeShell.History.File
import PipeShell.Proofs.Text.Fields
import Mathlib.Data.List.Basic

/-!
# Reading back a history file

Each entry takes one line of the file (`lines_encode`), and the escapes come off again when the line
is read.  A carriage return at the end of an entry is not escaped, and there it is taken for a part
of the line ending.  An entry whose line comes out blank is skipped by the reader; a newline is
written as two characters that are not blank, so only an entry of other blanks is lost that way
(`isAllBlank_escape`).  What a file gives back is told by these two losses
(`decode_encode_eq_reread`): entries of which none is blank come back without such carriage returns
(`decode_encode_eq_map`).

A line is *storable* when it is not blank and does not end in a carriage return.  A file that was
written with storable lines gives back exactly these (`decode_encode`).  Writing some lines behind
others is writing them all at once (`encode_append`).
-/

namespace PipeShell

namespace History

/-- The line can be written to a file and read back: it is not blank, and it does not end in a
carriage return, which would be taken for a part of the line ending. -/
structure Storable (line : String) : Prop where
  not_blank : Text.isAllBlank line = false
  no_return : line.toList.getLast? ≠ some '\r'

/-! ## One line -/

/-- How one character is written. -/
def written (c : Char) : List Char :=
  if c = '\\' then ['\\', '\\'] else if c = '\n' then ['\\', 'n'] else [c]

/-- A line is written character by character. -/
lemma escape_eq_flatMap (cs : List Char) : escape cs = cs.flatMap written := by
  induction cs with
  | nil => rfl
  | cons c cs ih =>
      rw [escape, List.flatMap_cons, ← ih, written]
      split_ifs <;> rfl

/-- Only a blank other than a newline is written as blanks. -/
lemma all_isBlank_written (c : Char) :
    (written c).all Text.isBlank = (Text.isBlank c && c != '\n') := by
  unfold written
  split_ifs with hslash hnewline
  · subst hslash
    rfl
  · subst hnewline
    rfl
  · simp [hnewline]

/-- Every character leaves something in the file. -/
lemma written_ne_nil (c : Char) : written c ≠ [] := by
  unfold written
  split_ifs <;> simp

/-- Only a carriage return is written with one at its end. -/
lemma getLast?_written {c : Char} (hc : c ≠ '\r') : (written c).getLast? ≠ some '\r' := by
  unfold written
  split_ifs
  · simp
  · simp
  · simpa using hc

/-- The carriage return at the end of an entry stands at the end of its line as well. -/
lemma dropReturn_escape (cs : List Char) :
    Text.dropReturn (escape cs) = escape (Text.dropReturn cs) := by
  rcases List.eq_nil_or_concat cs with rfl | ⟨front, c, rfl⟩
  · rfl
  · rw [List.concat_eq_append]
    by_cases hc : c = '\r'
    · subst hc
      have hwritten : escape (front ++ ['\r']) = escape front ++ ['\r'] := by
        simp [escape_eq_flatMap, written]
      rw [hwritten, Text.dropReturn_concat, Text.dropReturn_concat]
    · have hlast : (escape (front ++ [c])).getLast? ≠ some '\r' := by
        rw [escape_eq_flatMap, List.flatMap_append, List.flatMap_singleton,
          List.getLast?_append_of_ne_nil _ (written_ne_nil c)]
        exact getLast?_written hc
      rw [Text.dropReturn_eq_self hlast, Text.dropReturn_eq_self (by simpa using hc)]

/-- Only an entry that ends in a carriage return is written with one at its end. -/
lemma getLast?_escape {cs : List Char} (h : cs.getLast? ≠ some '\r') :
    (escape cs).getLast? ≠ some '\r' := by
  rw [← Text.dropReturn_eq_self_iff, dropReturn_escape, Text.dropReturn_eq_self h]

/-- The entry is written as a line that is not blank: it has a character that is not blank, or a
newline. -/
def leavesLine (entry : String) : Bool :=
  entry.toList.any fun c => !(Text.isBlank c && c != '\n')

/-- An entry is written as a blank line exactly if `leavesLine` says that it leaves no other. -/
lemma isAllBlank_escape (entry : String) :
    Text.isAllBlank (String.ofList (escape (Text.dropReturn entry.toList))) = !leavesLine entry := by
  rw [Text.isAllBlank, String.toList_ofList, escape_eq_flatMap, List.all_flatMap]
  simp only [all_isBlank_written]
  rw [Text.all_dropReturn (by decide), leavesLine, List.not_any_eq_all_not]
  simp only [Bool.not_not]

/-- An entry that is not blank is written as a line that is not blank. -/
lemma leavesLine_of_not_blank {entry : String} (h : Text.isAllBlank entry = false) :
    leavesLine entry = true := by
  obtain ⟨c, hc, hblank⟩ : ∃ c ∈ entry.toList, Text.isBlank c = false := by
    simpa [Text.isAllBlank] using h
  exact List.any_eq_true.mpr ⟨c, hc, by simp [hblank]⟩

/-! ## Whole files -/

/-- Entries are written one behind the other. -/
lemma encode_cons (line : String) (entries : List String) :
    encode (line :: entries) = escapeLine line ++ encode entries := by
  simp [encode]

/-- Lines written behind others are lines written all at once. -/
lemma encode_append (entries more : List String) :
    encode (entries ++ more) = encode entries ++ encode more := by
  simp [encode]

/-- The first newline of a file is the one that ends the line of the first entry. -/
lemma fields_encode_cons (entry : String) (entries : List String) :
    Text.fields '\n' (encode (entry :: entries)).toList =
      escape entry.toList :: Text.fields '\n' (encode entries).toList := by
  rw [encode_cons, escapeLine]
  simpa using Text.fields_append_cons (newline_not_mem_escape entry.toList)
    (encode entries).toList

/-- Each entry takes one line of the file. -/
lemma lines_encode (entries : List String) :
    Text.lines (encode entries) =
      entries.map fun entry => String.ofList (escape (Text.dropReturn entry.toList)) := by
  induction entries with
  | nil => rfl
  | cons entry entries ih =>
      rw [Text.lines, fields_encode_cons, Text.linesOfFields_cons (Text.fields_ne_nil _ _),
        dropReturn_escape, List.map_cons, List.map_cons, ← ih, Text.lines]

/-- An entry without a carriage return at its end. -/
def withoutReturn (entry : String) : String :=
  String.ofList (Text.dropReturn entry.toList)

/-- Only an entry with a carriage return at its end is changed when it is taken off. -/
lemma withoutReturn_eq_self_iff {entry : String} :
    withoutReturn entry = entry ↔ entry.toList.getLast? ≠ some '\r' := by
  rw [← Text.dropReturn_eq_self_iff, withoutReturn, ← String.toList_inj, String.toList_ofList]

/-- What is read back of entries that were written. -/
def reread (entries : List String) : List String :=
  (entries.filter leavesLine).map withoutReturn

/-- A file gives back the entries it was written with, but for those that leave only a blank line
and for carriage returns at the ends. -/
theorem decode_encode_eq_reread (entries : List String) :
    decode (encode entries) = reread entries := by
  have hfilter : ((fun line => !Text.isAllBlank line) ∘ fun entry =>
      String.ofList (escape (Text.dropReturn entry.toList))) = leavesLine := by
    funext entry
    simp [isAllBlank_escape]
  rw [decode, lines_encode, List.filter_map, hfilter, List.map_map, reread]
  apply List.map_congr_left
  intro entry _
  simp [unescapeLine, unescape_escape, withoutReturn]

/-- A file that was written with entries of which none is blank gives back these entries, each
without a carriage return at its end. -/
theorem decode_encode_eq_map {entries : List String}
    (h : ∀ entry ∈ entries, Text.isAllBlank entry = false) :
    decode (encode entries) = entries.map withoutReturn := by
  have hkept : entries.filter leavesLine = entries :=
    List.filter_eq_self.mpr fun entry hentry => leavesLine_of_not_blank (h entry hentry)
  rw [decode_encode_eq_reread, reread, hkept]

/-- A file that was written with storable lines gives back exactly these. -/
theorem decode_encode {entries : List String} (h : ∀ line ∈ entries, Storable line) :
    decode (encode entries) = entries := by
  rw [decode_encode_eq_map fun line hline => (h line hline).not_blank]
  refine (List.map_congr_left fun line hline => ?_).trans (List.map_id entries)
  exact withoutReturn_eq_self_iff.mpr (h line hline).no_return

end History

end PipeShell
