import PipeShell.Proofs.History.Reload

/-!
# Writing a loaded log again

A log that was read from a file is written to another one, as a history does with its backing file
when its log is replaced.  Reading is lenient, so that there are entries which no written file gives
back: a line of blanks behind backslashes stands for an entry of blanks, and what is left of two
carriage returns at the end of a line is an entry that ends in one.  `rewriting_loaded_entries` says
for every text what becomes of its entries: they come back as `reread` leaves them, and so unchanged
exactly when each of them is `Rewritable`.
-/

namespace PipeShell.History

variable {d d' : Disk} {path : String} {entries : List String}

/-- The entry is read back as it was written: its line is not blank, and it does not end in a
carriage return. -/
structure Rewritable (entry : String) : Prop where
  leaves_line : leavesLine entry = true
  no_return : entry.toList.getLast? ≠ some '\r'

/-- Entries are read back unchanged exactly when each of them is. -/
lemma reread_eq_self_iff :
    reread entries = entries ↔ ∀ entry ∈ entries, Rewritable entry := by
  constructor
  · intro hsame
    -- nothing was left out, because there are as many entries as before
    have hlength := congrArg List.length hsame
    rw [reread, List.length_map, List.length_filter_eq_length_iff] at hlength
    rw [reread, List.filter_eq_self.mpr hlength] at hsame
    have hmap := hsame.trans (List.map_id entries).symm
    intro entry hentry
    exact ⟨hlength entry hentry, withoutReturn_eq_self_iff.mp (List.map_inj_left.mp hmap entry hentry)⟩
  · intro hentries
    have hkept : entries.filter leavesLine = entries :=
      List.filter_eq_self.mpr fun entry hentry => (hentries entry hentry).leaves_line
    rw [reread, hkept]
    refine (List.map_congr_left fun entry hentry => ?_).trans (List.map_id entries)
    exact withoutReturn_eq_self_iff.mpr (hentries entry hentry).no_return

/-- A file that holds entries is loaded as what is read back of them. -/
lemma Holds.loadFile_eq_reread (h : Holds d path entries) :
    loadFile d path = .ok (reread entries) := by
  rw [h.loadFile_eq_decode, decode_encode_eq_reread]

/-- So is a file that was just written, unless the path leads to a device. -/
lemma loadFile_of_writeFile (hwrite : writeFile d path entries = .ok d') :
    loadFile d' path = .ok (reread entries) ∨ ∃ l kind, d.lookUp path = .ok (l, .device kind) :=
  (holds_or_device_of_writeFile hwrite).imp_left Holds.loadFile_eq_reread

/-- A log is replaced by the entries of any file that can be read.  When the backing file could be
rewritten, it is read back like any file with these entries. -/
lemma exists_load_of_readText {h : History} {source file c : String}
    (hsource : d.readText source = .ok c) (hbacking : h.backing = some file) :
    ∃ step, h.load d source = (.ok (decode c).length, step) ∧ step.history.entries = decode c ∧
      (step.events = [] → (ofFile step.disk file).1.entries = reread (decode c) ∨
        ∃ l kind, d.lookUp file = .ok (l, .device kind)) := by
  have hload : loadFile d source = .ok (decode c) := by rw [loadFile, hsource]
  obtain ⟨count, step, hstep⟩ := exists_load_of_loadFile (h := h) hload
  cases loaded_of_load hstep with
  | unbacked _ hnone => cases hbacking.symm.trans hnone
  | replaced hread hsome hwrite =>
      cases hbacking.symm.trans hsome
      cases hload.symm.trans hread
      exact ⟨_, hstep, rfl, fun _ =>
        (loadFile_of_writeFile hwrite).imp_left entries_ofFile_of_loadFile⟩
  | notReplaced hread =>
      cases hload.symm.trans hread
      exact ⟨_, hstep, rfl, fun hnone => by cases hnone⟩

/-- The entries of any text are written and read again.  They come back as `reread` leaves them, and
unchanged exactly when each of them is `Rewritable`; so it is with a file that they are written to,
and with the backing file of a history whose log is replaced by the text.  A device takes what is
written and keeps nothing. -/
theorem rewriting_loaded_entries (c : String) :
    decode (encode (decode c)) = reread (decode c) ∧
    (decode (encode (decode c)) = decode c ↔ ∀ entry ∈ decode c, Rewritable entry) ∧
    (∀ d d' path, writeFile d path (decode c) = .ok d' →
      loadFile d' path = .ok (reread (decode c)) ∨
        ∃ l kind, d.lookUp path = .ok (l, .device kind)) ∧
    (∀ (h : History) (d : Disk) (source file : String), d.readText source = .ok c →
      h.backing = some file →
      ∃ step, h.load d source = (.ok (decode c).length, step) ∧ step.history.entries = decode c ∧
        (step.events = [] → (ofFile step.disk file).1.entries = reread (decode c) ∨
          ∃ l kind, d.lookUp file = .ok (l, .device kind))) :=
  ⟨decode_encode_eq_reread (decode c), by rw [decode_encode_eq_reread, reread_eq_self_iff],
    fun _ _ _ => loadFile_of_writeFile, fun _ _ _ _ => exists_load_of_readText⟩

/-- A text with both kinds of line endings, a line of blanks, a stray escape and a backslash at its
very end replaces the log of a history.  Its backing file is read back as the same three entries. -/
theorem rewriting_loaded_entries_at_odd_lines :
    let d := (Disk.empty []).put ["other"] (.file (Text.encode "a\\q\r\n \t\nb\\\\\nc\\") false)
    d.readText "/other" = .ok "a\\q\r\n \t\nb\\\\\nc\\" ∧
      (ofFile d "/log").1.backing = some "/log" ∧
      ∃ step, (ofFile d "/log").1.load d "/other" = (.ok 3, step) ∧ step.events = [] ∧
        step.history.entries = ["aq", "b\\", "c\\"] ∧
        (ofFile step.disk "/log").1.entries = ["aq", "b\\", "c\\"] := by
  intro d
  have hentries : decode "a\\q\r\n \t\nb\\\\\nc\\" = ["aq", "b\\", "c\\"] := by decide
  have hrewritten := rewriting_loaded_entries "a\\q\r\n \t\nb\\\\\nc\\"
  rw [hentries] at hrewritten
  obtain ⟨hreread, hsame, -, hbacked⟩ := hrewritten
  have hrewritable : ∀ entry ∈ ["aq", "b\\", "c\\"], Rewritable entry := by
    simp only [List.forall_mem_cons]
    exact ⟨⟨rfl, by decide⟩, ⟨rfl, by decide⟩, ⟨rfl, by decide⟩, List.forall_mem_nil _⟩
  obtain ⟨step, hload, hlog, hfile⟩ := hbacked (ofFile d "/log").1 d "/other" "/log" rfl rfl
  refine ⟨rfl, rfl, step, hload, ?_, hlog, ?_⟩
  · cases hload
    rfl
  · cases hload
    rcases hfile rfl with hfile | ⟨l, kind, hdevice⟩
    · exact hfile.trans (hreread.symm.trans (hsame.mpr hrewritable))
    · cases hdevice

/-- A blank behind a backslash and a line that ends in two carriage returns are read as entries that
are not read back once they are written. -/
theorem rewriting_loses_entries :
    decode "\\ \nls\r\r\n" = [" ", "ls\r"] ∧
      decode (encode (decode "\\ \nls\r\r\n")) = ["ls"] ∧
      decode (encode (decode "\\ \nls\r\r\n")) ≠ decode "\\ \nls\r\r\n" := by
  decide

end PipeShell.History
