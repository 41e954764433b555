import PipeShell.Proofs.History.Mirror

/-!
# What is lost between writing and reading

A history file is written at once (`writeFile`), or by adding to it any number of times
(`appendFile`).  However it came about, it is read back as the entries that went into it, except for
one character: a carriage return at the end of an entry is not escaped, and the reader takes it for
a part of the line ending.  `loadFile_of_written` says so for all entries that are not blank, and
with it that they are read back unchanged exactly when none of them ends in a carriage return.
-/

namespace PipeShell.History

variable {d d' : Disk} {path : String} {entries : List String}

/-- A file that was written with entries of which none is blank is read back as `withoutReturn`
leaves them. -/
lemma Holds.loadFile_eq (h : Holds d path entries)
    (hentries : ∀ entry ∈ entries, Text.isAllBlank entry = false) :
    loadFile d path = .ok (entries.map withoutReturn) := by
  rw [h.loadFile_eq_decode, decode_encode_eq_map hentries]

/-- Pieces that are added to a file, one after the other, stand behind what it held. -/
lemma Holds.of_appends {pieces : List (List String)} (h : Holds d path entries)
    (happends : pieces.foldlM (appendFile · path ·) d = .ok d') :
    Holds d' path (entries ++ pieces.flatten) := by
  induction pieces generalizing d entries with
  | nil =>
      cases happends
      simpa using h
  | cons piece pieces ih =>
      rw [List.foldlM_cons] at happends
      obtain ⟨mid, hpiece, hrest⟩ := bind_eq_ok_iff.mp happends
      have hmid : Holds mid path (entries ++ piece) :=
        Mirrors.holds_of_appendFile (.inl h) hpiece
      rw [List.flatten_cons, ← List.append_assoc]
      exact ih hmid hrest

/-- A file that was made by adding pieces to it holds these pieces. -/
lemma holds_of_appends {pieces : List (List String)} (hne : pieces ≠ [])
    (habsent : d.pathExists path = false)
    (happends : pieces.foldlM (appendFile · path ·) d = .ok d') :
    Holds d' path pieces.flatten := by
  obtain ⟨piece, rest, rfl⟩ := List.exists_cons_of_ne_nil hne
  rw [List.foldlM_cons] at happends
  obtain ⟨mid, hpiece, hrest⟩ := bind_eq_ok_iff.mp happends
  have hmid : Holds mid path piece :=
    Mirrors.holds_of_appendFile (.inr ⟨rfl, Disk.exists_fault_of_absent habsent⟩) hpiece
  exact hmid.of_appends hrest

/-- Entries of which none is blank are written to a file, or added in one or more pieces to a file
that did not exist.  The file is then read back as these entries, each without a carriage return at
its end, and so as the same entries exactly when none of them ends in a carriage return.  A device
takes what is written and keeps nothing. -/
theorem loadFile_of_written (path : String) {entries : List String}
    (hentries : ∀ entry ∈ entries, Text.isAllBlank entry = false) :
    (∀ d d', writeFile d path entries = .ok d' →
      loadFile d' path = .ok (entries.map withoutReturn) ∨
        ∃ l kind, d.lookUp path = .ok (l, .device kind)) ∧
    (∀ (pieces : List (List String)) (d d' : Disk), pieces ≠ [] → pieces.flatten = entries →
      d.pathExists path = false → pieces.foldlM (appendFile · path ·) d = .ok d' →
      loadFile d' path = .ok (entries.map withoutReturn)) ∧
    (entries.map withoutReturn = entries ↔
      ∀ entry ∈ entries, entry.toList.getLast? ≠ some '\r') := by
  refine ⟨fun d d' hwrite => ?_, fun pieces d d' hne hpieces habsent happends => ?_, ?_⟩
  · rcases holds_or_device_of_writeFile hwrite with hholds | hdevice
    · exact .inl (hholds.loadFile_eq hentries)
    · exact .inr hdevice
  · have hholds := holds_of_appends hne habsent happends
    rw [hpieces] at hholds
    exact hholds.loadFile_eq hentries
  · calc entries.map withoutReturn = entries
      _ ↔ entries.map withoutReturn = entries.map id := by rw [List.map_id]
      _ ↔ ∀ entry ∈ entries, withoutReturn entry = entry := List.map_inj_left
      _ ↔ _ := forall₂_congr fun entry _ => withoutReturn_eq_self_iff

/-- Entries with a backslash, a newline and a carriage return inside are added in three pieces, one
of them without entries, and are read back as they were. -/
theorem loadFile_of_written_in_pieces :
    (∀ entry ∈ ["a\\\n\\n", "\u00a0b\rc "], Text.isAllBlank entry = false) ∧
      (Disk.empty []).pathExists "/log" = false ∧
      ∃ d, [["a\\\n\\n"], [], ["\u00a0b\rc "]].foldlM (appendFile · "/log" ·) (Disk.empty []) =
          .ok d ∧
        loadFile d "/log" = .ok ["a\\\n\\n", "\u00a0b\rc "] := by
  have hentries : ∀ entry ∈ ["a\\\n\\n", "\u00a0b\rc "], Text.isAllBlank entry = false := by decide
  have hwritten := loadFile_of_written "/log" hentries
  have hsame := hwritten.2.2.mpr (by decide)
  refine ⟨hentries, rfl, _, rfl, ?_⟩
  rw [hwritten.2.1 [["a\\\n\\n"], [], ["\u00a0b\rc "]] (.empty []) _ (by decide) rfl rfl rfl, hsame]

/-- An entry that is not blank and ends in a carriage return is not read back as it was written. -/
theorem loadFile_loses_return :
    Text.isAllBlank "ls\r" = false ∧
      ∃ d, writeFile (.empty []) "/log" ["ls\r"] = .ok d ∧ loadFile d "/log" = .ok ["ls"] ∧
        loadFile d "/log" ≠ .ok ["ls\r"] := by
  have hload : loadFile ((Disk.empty []).put ["log"] (.file (Text.encode "ls\r\n") false)) "/log" =
      .ok ["ls"] := rfl
  refine ⟨rfl, _, rfl, hload, ?_⟩
  intro hsame
  have hsame' := hload.symm.trans hsame
  exact absurd hsame' (by decide)

end PipeShell.History
