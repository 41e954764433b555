import PipeShell.Proofs.History.Codec

/-!
# Entries and their lines

Every entry has a line of its own: it can be read back from the line (`unescapeLine_lineOf`), so no
two entries are written alike, and the line has no newline in it.  Entries of which each is ended by
a newline can therefore be told apart again, whatever characters they have (`fields_encode`,
`entriesOf_encode`): nothing but a newline that was written as the end of a line cuts the text.

A reader that drops blank lines, or a carriage return at the end of a line, gets less than that;
what it gets is the subject of `PipeShell.Proofs.History.Codec`.
-/

namespace PipeShell

namespace History

/-- The line that an entry is written as. -/
def lineOf (entry : String) : String := String.ofList (escape entry.toList)

/-- The line of an entry is one line, even if the entry has several. -/
lemma newline_not_mem_lineOf (entry : String) : '\n' ∉ (lineOf entry).toList := by
  rw [lineOf, String.toList_ofList]
  exact newline_not_mem_escape entry.toList

/-- The entry is read back from its line. -/
lemma unescapeLine_lineOf (entry : String) : unescapeLine (lineOf entry) = entry := by
  rw [unescapeLine, lineOf, String.toList_ofList, unescape_escape, String.ofList_toList]

/-- The newlines of a file are the ends of the lines of its entries. -/
lemma fields_encode (entries : List String) :
    Text.fields '\n' (encode entries).toList =
      entries.map (fun entry => (lineOf entry).toList) ++ [[]] := by
  induction entries with
  | nil => rfl
  | cons entry entries ih =>
      rw [fields_encode_cons, ih, List.map_cons, lineOf, String.toList_ofList, List.cons_append]

/-- The entries of a text in which each is ended by a newline. -/
def entriesOf (text : String) : List String :=
  (Text.fields '\n' text.toList).dropLast.map fun line => unescapeLine (String.ofList line)

/-- The lines that a list of entries writes give back the list. -/
lemma entriesOf_encode (entries : List String) : entriesOf (encode entries) = entries := by
  have hread : ∀ entry : String,
      unescapeLine (String.ofList (lineOf entry).toList) = entry := by
    intro entry
    rw [String.ofList_toList, unescapeLine_lineOf]
  rw [entriesOf, fields_encode, List.dropLast_concat, List.map_map]
  exact (List.map_congr_left fun entry _ => hread entry).trans (List.map_id entries)

/-- Writing entries as lines loses nothing.  The line of an entry has no newline and gives back the
entry, so different entries have different lines; and a text in which the line of each entry is
ended by a newline is cut by its newlines into just these lines, from which the entries are read
back, so different lists of entries have different texts. -/
theorem entries_recovered_from_lines :
    (∀ entry : String, '\n' ∉ (lineOf entry).toList ∧ unescapeLine (lineOf entry) = entry) ∧
      Function.Injective lineOf ∧
      (∀ entries : List String,
        encode entries = String.join (entries.map fun entry => lineOf entry ++ "\n") ∧
          Text.fields '\n' (encode entries).toList =
            entries.map (fun entry => (lineOf entry).toList) ++ [[]] ∧
          entriesOf (encode entries) = entries) ∧
      Function.Injective encode := by
  refine ⟨fun entry => ⟨newline_not_mem_lineOf entry, unescapeLine_lineOf entry⟩, ?_, ?_, ?_⟩
  · exact Function.LeftInverse.injective unescapeLine_lineOf
  · exact fun entries => ⟨rfl, fields_encode entries, entriesOf_encode entries⟩
  · exact Function.LeftInverse.injective entriesOf_encode

end History

end PipeShell
