import PipeShell.Proofs.Disk.Target
import PipeShell.Proofs.History.Mirror
import Mathlib.Data.List.DropRight

/-!
# Recording behind a text

A history is opened on a file that anyone can have written, and lines are recorded.  They are added
to the file just behind what is there.  If each line of the text is ended by a newline, the file is
then read as the entries of the text and the recorded lines (`decode_append`).  If its last line is
unfinished, the first recorded line goes on in it, and one entry stands for both
(`decode_append_encode_cons`).  `recording_behind_text` says so for whole histories, together with
what is right in both cases: the log in memory, and that every line is saved.
-/

namespace PipeShell

namespace Text

/-- The lines of a text that are ended by a newline. -/
def finishedLines (s : String) : String :=
  String.ofList (s.toList.rdropWhile (· ≠ '\n'))

/-- What follows the last newline of a text. -/
def unfinishedLine (s : String) : String :=
  String.ofList (s.toList.rtakeWhile (· ≠ '\n'))

/-- The text is empty or ends in a newline. -/
def IsFinished (s : String) : Prop :=
  s = "" ∨ ∃ front, s = front ++ "\n"

/-- A text is its finished lines and the unfinished one behind them. -/
lemma finishedLines_append_unfinishedLine (s : String) :
    finishedLines s ++ unfinishedLine s = s := by
  rw [finishedLines, unfinishedLine, ← String.ofList_append, List.rdropWhile_append_rtakeWhile,
    String.ofList_toList]

/-- The unfinished line is one line. -/
lemma newline_not_mem_unfinishedLine (s : String) : '\n' ∉ (unfinishedLine s).toList := by
  intro hmem
  rw [unfinishedLine, String.toList_ofList] at hmem
  simpa using List.mem_rtakeWhile_imp hmem

/-- The finished lines are a finished text. -/
lemma isFinished_finishedLines (s : String) : IsFinished (finishedLines s) := by
  by_cases hne : s.toList.rdropWhile (· ≠ '\n') = []
  · left
    rw [finishedLines, hne]
  · right
    have hlast : (s.toList.rdropWhile (· ≠ '\n')).getLast hne = '\n' := by
      simpa using List.rdropWhile_last_not _ _ hne
    refine ⟨String.ofList (s.toList.rdropWhile (· ≠ '\n')).dropLast, ?_⟩
    calc finishedLines s
      _ = String.ofList ((s.toList.rdropWhile (· ≠ '\n')).dropLast ++
            [(s.toList.rdropWhile (· ≠ '\n')).getLast hne]) := by
        rw [List.dropLast_concat_getLast, finishedLines]
      _ = String.ofList (s.toList.rdropWhile (· ≠ '\n')).dropLast ++ "\n" := by
        rw [hlast, String.ofList_append]

/-- Lines that are followed by something are complete, so only a carriage return is taken from their
ends. -/
lemma linesOfFields_append {xs ys : List (List Char)} (hys : ys ≠ []) :
    linesOfFields (xs ++ ys) = xs.map dropReturn ++ linesOfFields ys := by
  induction xs with
  | nil => rfl
  | cons x xs ih =>
      rw [List.cons_append, linesOfFields_cons (List.append_ne_nil_of_right_ne_nil xs hys), ih]
      rfl

/-- A text goes on in new lines behind one that is finished. -/
lemma lines_append {s : String} (hs : IsFinished s) (t : String) :
    lines (s ++ t) = lines s ++ lines t := by
  rcases hs with rfl | ⟨front, rfl⟩
  · rfl
  · have hlines : ∀ t : String, lines (front ++ "\n" ++ t) =
        ((fields '\n' front.toList).map dropReturn).map String.ofList ++ lines t := by
      intro t
      have hfields := fields_append_sep '\n' front.toList t.toList
      simp only [lines, String.toList_append, List.append_assoc, List.cons_append,
        List.nil_append, String.reduceToList, hfields]
      rw [linesOfFields_append (fields_ne_nil _ _), List.map_append]
    have hfront := hlines ""
    rw [String.append_empty] at hfront
    rw [hlines, hfront]
    simp [lines, fields, linesOfFields]

end Text

namespace History

variable {d : Disk} {path c line : String} {lines : List String}

/-! ## Entries behind a text -/

/-- The entries of a finished text and of what follows it. -/
lemma decode_append {s : String} (hs : Text.IsFinished s) (t : String) :
    decode (s ++ t) = decode s ++ decode t := by
  simp [decode, Text.lines_append hs]

/-- A text without a newline is one entry, or none if it is blank. -/
lemma decode_of_not_mem {t : String} (ht : '\n' ∉ t.toList) :
    decode t = if Text.isAllBlank t then [] else [unescapeLine t] := by
  have hlines : Text.lines t = if t = "" then [] else [t] := by
    rw [Text.lines, Text.fields_of_not_mem ht, Text.linesOfFields]
    split_ifs with hnil hempty hempty <;> simp_all
  rw [decode, hlines]
  by_cases hblank : Text.isAllBlank t = true
  · split_ifs <;> simp [hblank]
  · have hne : t ≠ "" := by
      rintro rfl
      exact hblank rfl
    simp [hne, hblank]

/-- The characters in front of the first backslash are read as they are. -/
lemma unescape_append {front : List Char} (hfront : '\\' ∉ front) (cs : List Char) :
    unescape (front ++ cs) = front ++ unescape cs := by
  induction front with
  | nil => rfl
  | cons c front ih =>
      have hc : c ≠ '\\' := fun h => hfront (h ▸ List.mem_cons_self)
      rw [List.cons_append, unescape, ih fun h => hfront (List.mem_cons_of_mem c h)]
      · rfl
      · intro h _
        exact hc h
      · intro _ _ h _
        exact hc h

/-- The entry that stands in a file when a line is added to an unfinished one. -/
def joined (unfinished line : String) : String :=
  unescapeLine (unfinished ++ String.ofList (escape line.toList))

/-- Without a backslash in the unfinished line, the new line is read right behind it. -/
lemma joined_of_not_mem {unfinished : String} (h : '\\' ∉ unfinished.toList) (line : String) :
    joined unfinished line = unfinished ++ line := by
  rw [joined, unescapeLine, String.toList_append, String.toList_ofList, unescape_append h,
    unescape_escape, String.ofList_append, String.ofList_toList, String.ofList_toList]

/-- A storable line that is added to an unfinished one ends it, and both are read as one entry. -/
lemma decode_append_escapeLine {t : String} (ht : '\n' ∉ t.toList) (hline : Storable line) :
    decode (t ++ escapeLine line) = [joined t line] := by
  have hescaped : Text.isAllBlank (String.ofList (escape line.toList)) = false := by
    have h := isAllBlank_escape line
    rwa [Text.dropReturn_eq_self hline.no_return, leavesLine_of_not_blank hline.not_blank] at h
  have hlast : (t.toList ++ escape line.toList).getLast? ≠ some '\r' := by
    have hne : escape line.toList ≠ [] := by
      intro hnil
      rw [hnil] at hescaped
      cases hescaped
    rw [List.getLast?_append_of_ne_nil _ hne]
    exact getLast?_escape hline.no_return
  have hnewline : '\n' ∉ t.toList ++ escape line.toList := by
    simp [ht, newline_not_mem_escape]
  have hlines : Text.lines (t ++ escapeLine line) = [t ++ String.ofList (escape line.toList)] := by
    have hfields := Text.fields_append_cons hnewline []
    rw [List.append_assoc] at hfields
    simp [Text.lines, escapeLine, hfields, Text.fields, Text.linesOfFields,
      Text.dropReturn_eq_self hlast]
  have hblank : Text.isAllBlank (t ++ String.ofList (escape line.toList)) = false := by
    rw [Text.isAllBlank] at hescaped ⊢
    rw [String.toList_append, List.all_append, hescaped, Bool.and_false]
  simp [decode, hlines, hblank, joined]

/-- Lines that are written behind a text: the first one goes on in the unfinished line. -/
theorem decode_append_encode_cons (c : String) (hline : Storable line)
    (hlines : ∀ l ∈ lines, Storable l) :
    decode (c ++ encode (line :: lines)) =
      decode (Text.finishedLines c) ++ joined (Text.unfinishedLine c) line :: lines := by
  have hended : Text.IsFinished (Text.unfinishedLine c ++ escapeLine line) :=
    .inr ⟨Text.unfinishedLine c ++ String.ofList (escape line.toList), by
      rw [escapeLine, String.append_assoc]⟩
  have hsplit : c ++ encode (line :: lines) = Text.finishedLines c ++
      (Text.unfinishedLine c ++ escapeLine line ++ encode lines) := by
    rw [encode_cons, ← String.append_assoc, ← String.append_assoc, ← String.append_assoc,
      Text.finishedLines_append_unfinishedLine]
  rw [hsplit, decode_append (Text.isFinished_finishedLines c), decode_append hended,
    decode_append_escapeLine (Text.newline_not_mem_unfinishedLine c) hline, decode_encode hlines]
  rfl

/-- Only an unfinished line keeps lines that are written behind a text from being read back. -/
theorem decode_append_encode_iff (c : String) (hlines : ∀ l ∈ lines, Storable l) :
    decode (c ++ encode lines) = decode c ++ lines ↔
      Text.unfinishedLine c = "" ∨ lines = [] := by
  cases lines with
  | nil => simp [encode]
  | cons line rest =>
      have hc : decode c = decode (Text.finishedLines c) ++ decode (Text.unfinishedLine c) := by
        rw [← decode_append (Text.isFinished_finishedLines c),
          Text.finishedLines_append_unfinishedLine]
      rw [decode_append_encode_cons c (hlines line List.mem_cons_self)
        fun l hl => hlines l (List.mem_cons_of_mem line hl), hc, List.append_assoc,
        List.append_cancel_left_eq, decode_of_not_mem (Text.newline_not_mem_unfinishedLine c)]
      constructor
      · intro hsame
        left
        split_ifs at hsame with hblank
        · -- blanks at the start of a line are left out when they stand alone, and here they do not
          have hslash : '\\' ∉ (Text.unfinishedLine c).toList := by
            intro hmem
            have h := List.all_eq_true.mp hblank '\\' hmem
            cases h
          rw [joined_of_not_mem hslash] at hsame
          simpa using hsame
        · -- two entries have become one
          have hlength := congrArg List.length hsame
          simp at hlength
      · rintro (hunfinished | hnil)
        · rw [hunfinished, joined_of_not_mem (by simp)]
          rfl
        · cases hnil

/-! ## Recording -/

/-- Lines are recorded one after the other. -/
def recordAll (h : History) (d : Disk) : List String → Step
  | [] => ⟨h, d, []⟩
  | line :: rest =>
    let first := h.record d line
    let later := recordAll first.history first.disk rest
    ⟨later.history, later.disk, first.events ++ later.events⟩

section Recording

variable {h : History} {l : Location} {runnable : Bool}

/-- A line is added to a backing file that exists. -/
lemma record_of_lookUp_file (hbacking : h.backing = some path)
    (hfile : d.lookUp path = .ok (l, .file (Text.encode c) runnable)) (line : String) :
    ∃ d', h.record d line = ⟨h.push line, d', []⟩ ∧
      d'.lookUp path = .ok (l, .file (Text.encode (c ++ escapeLine line)) runnable) := by
  obtain ⟨d', hedit, hafter⟩ := Disk.exists_edit_of_lookUp_file hfile
    (· ++ Text.encode (encode [line]))
  refine ⟨d', ?_, ?_⟩
  · obtain ⟨hnone, -⟩ | ⟨file, disk, hsome, happend, hrecord⟩ | ⟨file, e, hsome, happend, -⟩ :=
      record_cases h d line
    · cases hbacking.symm.trans hnone
    · cases hbacking.symm.trans hsome
      cases hedit.symm.trans (appendFile_eq_ok_iff.mp happend)
      exact hrecord
    · cases hbacking.symm.trans hsome
      cases (appendFile_eq_ok_iff.mpr hedit).symm.trans happend
  · rw [hafter]
    simp [Text.encode, encode]

/-- Lines are added to a backing file that exists, and none of them is lost. -/
lemma recordAll_of_lookUp_file (hbacking : h.backing = some path)
    (hfile : d.lookUp path = .ok (l, .file (Text.encode c) runnable)) (lines : List String) :
    (recordAll h d lines).events = [] ∧
      (recordAll h d lines).history.entries = h.entries ++ lines ∧
      (recordAll h d lines).disk.lookUp path =
        .ok (l, .file (Text.encode (c ++ encode lines)) runnable) := by
  induction lines generalizing h d c with
  | nil => simpa [recordAll, encode] using hfile
  | cons line rest ih =>
      obtain ⟨d', hrecord, hafter⟩ := record_of_lookUp_file hbacking hfile line
      obtain ⟨hevents, hentries, hlook⟩ := ih (h := h.push line) hbacking hafter
      simp only [recordAll, hrecord]
      refine ⟨by rw [hevents, List.append_nil], ?_, ?_⟩
      · rw [hentries, push, List.append_assoc]
        rfl
      · rw [hlook, encode_cons, String.append_assoc]

end Recording

/-- A history is opened on a file with any text, and storable lines are recorded.  All of them are
saved, and the log has the entries of the text and the lines.  So has the file, when it is opened
again, unless the last line of the text is unfinished: then the first recorded line goes on in it,
and one entry stands for both. -/
theorem recording_behind_text {l : Location} {runnable : Bool}
    (hfile : d.lookUp path = .ok (l, .file (Text.encode c) runnable))
    (hlines : ∀ line ∈ lines, Storable line) :
    let left := recordAll (ofFile d path).1 d lines
    left.events = [] ∧
      left.history.entries = decode c ++ lines ∧
      ((ofFile left.disk path).1.entries = decode c ++ lines ↔
        Text.unfinishedLine c = "" ∨ lines = []) ∧
      ∀ line rest, lines = line :: rest → (ofFile left.disk path).1.entries =
        decode (Text.finishedLines c) ++ joined (Text.unfinishedLine c) line :: rest := by
  intro left
  obtain ⟨hevents, hentries, hlook⟩ :=
    recordAll_of_lookUp_file (backing_ofFile d path) hfile lines
  have hopened := entries_ofFile_of_loadFile (loadFile_of_lookUp_file hfile)
  have hreopened := entries_ofFile_of_loadFile (loadFile_of_lookUp_file hlook)
  refine ⟨hevents, by rw [hentries, hopened], ?_, ?_⟩
  · rw [hreopened]
    exact decode_append_encode_iff c hlines
  · rintro line rest rfl
    rw [hreopened]
    exact decode_append_encode_cons c (hlines line List.mem_cons_self)
      fun l hl => hlines l (List.mem_cons_of_mem line hl)

/-- The last line of a text ends in a backslash and is unfinished.  Two lines are recorded, one of
them with a newline inside; the backslash is read with the first character of the first one. -/
theorem recording_behind_text_with_backslash :
    let d := (Disk.empty []).put ["log"] (.file (Text.encode "a\r\n \nls \\") false)
    let left := recordAll (ofFile d "/log").1 d ["pwd", "echo a\necho b"]
    d.lookUp "/log" = .ok (["log"], .file (Text.encode "a\r\n \nls \\") false) ∧
      (∀ line ∈ ["pwd", "echo a\necho b"], Storable line) ∧
      left.history.entries = ["a", "ls \\", "pwd", "echo a\necho b"] ∧
      (ofFile left.disk "/log").1.entries = ["a", "ls pwd", "echo a\necho b"] := by
  intro d left
  have hfile : d.lookUp "/log" = .ok (["log"], .file (Text.encode "a\r\n \nls \\") false) := rfl
  have hlines : ∀ line ∈ ["pwd", "echo a\necho b"], Storable line := by
    simp only [List.forall_mem_cons]
    exact ⟨⟨rfl, by decide⟩, ⟨rfl, by decide⟩, List.forall_mem_nil _⟩
  have hentries : decode "a\r\n \nls \\" = ["a", "ls \\"] := by decide
  have hfinished : decode (Text.finishedLines "a\r\n \nls \\") = ["a"] := by decide
  have hjoined : joined (Text.unfinishedLine "a\r\n \nls \\") "pwd" = "ls pwd" := by decide
  obtain ⟨-, hlog, -, hreopened⟩ := recording_behind_text hfile hlines
  have hfirst := hreopened "pwd" ["echo a\necho b"] rfl
  rw [hentries] at hlog
  rw [hfinished, hjoined] at hfirst
  exact ⟨hfile, hlines, hlog, hfirst⟩

/-- A line that is recorded behind a text without a newline at its end is lost, and so is the entry
of that text. -/
theorem recording_joins_unfinished_line :
    let d := (Disk.empty []).put ["log"] (.file (Text.encode "ls") false)
    let left := recordAll (ofFile d "/log").1 d ["pwd"]
    d.readText "/log" = .ok "ls" ∧ Storable "pwd" ∧ left.events = [] ∧
      (ofFile left.disk "/log").1.entries = ["lspwd"] ∧
      (ofFile left.disk "/log").1.entries ≠ decode "ls" ++ ["pwd"] := by
  have hreopened : (ofFile (recordAll (ofFile ((Disk.empty []).put ["log"]
      (.file (Text.encode "ls") false)) "/log").1 ((Disk.empty []).put ["log"]
      (.file (Text.encode "ls") false)) ["pwd"]).disk "/log").1.entries = ["lspwd"] := rfl
  refine ⟨rfl, ⟨rfl, by decide⟩, rfl, hreopened, ?_⟩
  intro hsame
  have hjoined := hreopened.symm.trans hsame
  exact absurd hjoined (by decide)

end History

end PipeShell
