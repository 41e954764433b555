import PipeShell.Proofs.Execution.Single
import PipeShell.Proofs.Text.Fields
import PipeShell.Proofs.Text.Utf8
import PipeShell.Proofs.Token.Expansion

/-!
# Setting a variable and showing it

A value that is written in single quotes, assigned by `export` and referred to again comes out as it
went in (`export_survives_expansion`).  On the way it is cut off at the first equals sign
(`assignment?_of_name`), stored in the overlay (`runLine_export`), put into a word as it is, and
printed with that word (`runLine_echo`).
-/

namespace PipeShell

variable {name value : String}

/-- An assignment ends its name at the first equals sign. -/
lemma Text.cutText_assignment (hequals : '=' ∉ name.toList) (value : String) :
    cutText '=' (name ++ "=" ++ value) = some (name, value) := by
  have hchars : (name ++ "=" ++ value).toList = name.toList ++ '=' :: value.toList := by
    simp [String.toList_append]
  rw [cutText, hchars, cut_append hequals, Option.map_some, String.ofList_toList,
    String.ofList_toList]

/-- A name, the sign of equality and a value are read as an assignment. -/
lemma Builtin.assignment?_of_name (hname : isValidName name = true) (value : String) :
    assignment? (name ++ "=" ++ value) = some (name, value) := by
  rw [assignment?, Text.cutText_assignment (equals_not_mem_of_isValidName hname)]
  exact Option.filter_some_pos hname

/-- `export` with one assignment asks for that variable to be set. -/
lemma Builtin.exportCommand_of_name (s : ShellState) (hname : isValidName name = true)
    (value : String) :
    exportCommand s [name ++ "=" ++ value] = .ask (.setVars [(name, value)]) := by
  simp [exportCommand, assignment?_of_name hname]

/-- The state with a value for a variable. -/
def ShellState.withVar (s : ShellState) (name value : String) : ShellState :=
  { s with overlay := ⟨s.overlay.changes.insert name (some value)⟩ }

namespace ShellState

/-- A variable other than the search path is set to the very value that is given. -/
lemma setVar_of_name (s : ShellState) (hname : isValidName name = true) (hpath : name ≠ "PATH")
    (value : String) : s.setVar (name, value) = .ok (s.withVar name value) := by
  have hempty : name.isEmpty = false := by
    rw [← Bool.not_eq_true, String.isEmpty_iff]
    rintro rfl
    cases hname
  rw [setVar, Overlay.set]
  simp only [hempty, hname, Overlay.storedValue, if_neg hpath]
  rfl

/-- Setting a variable other than `PATH` stores the value as it is given. -/
lemma apply_setVars_of_name (s : ShellState) (disk : Disk) (hname : isValidName name = true)
    (hpath : name ≠ "PATH") (value : String) :
    s.apply disk (.setVars [(name, value)]) = (s.withVar name value, none) := by
  change applyEach setVar s [(name, value)] = _
  rw [applyEach, setVar_of_name s hname hpath]
  rfl

/-- The variable has the value that it was given. -/
lemma var?_withVar (s : ShellState) (env : Environment) (name value : String) :
    (s.withVar name value).var? env name = some value := by
  simp only [var?, Overlay.value?, withVar, NameMap.get?_insert_self]

end ShellState

namespace Shell

variable {host : Host} {sh : Shell} {line word : String} {quoted : Bool}

/-! ## Built-in commands -/

/-- The stage of a built-in command that prints a text. -/
lemma runBuiltin_of_print {k : Nat} {stage : Stage} {b : Builtin} {input : ByteArray}
    {began : Shell} {text : String}
    (hrun : b.run (began.view host input) stage.args = (began.view host input).keep (.print text)) :
    ∃ left, runBuiltin host k stage b input began = (.ok ⟨Text.encode text, .empty, 0⟩, left) ∧
      left.state = began.state := by
  rw [runBuiltin, hrun]
  exact ⟨_, rfl, rfl⟩

/-- The stage of a built-in command that asks for a change of state. -/
lemma runBuiltin_of_ask {k : Nat} {stage : Stage} {b : Builtin} {input : ByteArray}
    {began : Shell} {change : Change} {state : ShellState}
    (hrun : b.run (began.view host input) stage.args = (began.view host input).keep (.ask change))
    (happly : ∀ disk, began.state.apply disk change = (state, none)) :
    ∃ left, runBuiltin host k stage b input began = (.ok ⟨.empty, .empty, 0⟩, left) ∧
      left.state = state := by
  rw [runBuiltin, hrun]
  simp only [View.keep, Report.ask, after, report_state, happly]
  exact ⟨_, rfl, rfl⟩

/-- The stage of a command with one argument. -/
def wordStage (command word : String) (quoted : Bool) : Stage :=
  ⟨.word command false, [.word word quoted]⟩

/-- Two words are a command with one argument, if the first has no alias. -/
lemma prepare_of_two_words {command : String}
    (hscan : Token.scanWith (sh.state.var? host.env) line =
      .ok [.word command false, .word word quoted])
    (halias : sh.state.alias? command = none) :
    (prepare host sh line).1 = .ok (.single (wordStage command word quoted)) := by
  have hwords : ∀ t ∈ (wordStage command word quoted).tokens, t.isOperator = false := by
    simp [wordStage, Stage.tokens, Token.isOperator]
  have hprepare : prepare host sh line = (.ok (.single (wordStage command word quoted)), []) :=
    prepare_of_words hscan halias hwords
  rw [hprepare]

/-- The result of one stage that printed and wrote no errors. -/
lemma completedResult_of_output (bytes : ByteArray) :
    completedResult [⟨bytes, .empty, 0⟩] = ⟨Text.decodeLossy bytes, "", 0, none⟩ := by
  simp [completedResult, flowing, errorTexts, lastFailure]

/-- An `export` of one variable sets that variable, and prints nothing. -/
lemma runStage_export (host : Host) (k : Nat) (quoted : Bool) (input : ByteArray) (began : Shell)
    (value : String) (hname : isValidName name = true) (hpath : name ≠ "PATH") :
    ∃ left, runStage host k (wordStage "export" (name ++ "=" ++ value) quoted) input began =
        (.ok ⟨.empty, .empty, 0⟩, left) ∧
      left.state = began.state.withVar name value := by
  have hrun : Builtin.exports.run (began.view host input) [name ++ "=" ++ value] =
      (began.view host input).keep (.ask (.setVars [(name, value)])) := by
    rw [Builtin.run, Builtin.exportCommand_of_name _ hname]
  exact runBuiltin_of_ask hrun fun disk =>
    began.state.apply_setVars_of_name disk hname hpath value

/-- An `echo` of one word prints it, and leaves the state as it is. -/
lemma runStage_echo (host : Host) (k : Nat) (quoted : Bool) (input : ByteArray) (began : Shell)
    (hword : word ≠ "-n") :
    ∃ left, runStage host k (wordStage "echo" word quoted) input began =
        (.ok ⟨Text.encode (word ++ "\n"), .empty, 0⟩, left) ∧ left.state = began.state := by
  have hrun : Builtin.echo.run (began.view host input) [word] =
      (began.view host input).keep (.print (word ++ "\n")) := by
    unfold Builtin.run Builtin.echoCommand
    dsimp only
    split
    · next heq =>
      cases heq
      exact absurd rfl hword
    · rw [String.intercalate_singleton]
  exact runBuiltin_of_print hrun

/-! ## Lines -/

/-- A line that is read as `export` with one assignment succeeds and sets the variable. -/
theorem runLine_export
    (hscan : Token.scanWith (sh.state.var? host.env) line =
      .ok [.word "export" false, .word (name ++ "=" ++ value) quoted])
    (halias : sh.state.alias? "export" = none) (hname : isValidName name = true)
    (hpath : name ≠ "PATH") :
    (runLine host line sh).1 = ⟨"", "", 0, none⟩ ∧
      (runLine host line sh).2.state = sh.state.withVar name value := by
  obtain ⟨left, hran, hstate⟩ := runStage_export host 0 quoted .empty
    ((ready host line sh).report [.stageBegan 0 ["export", name ++ "=" ++ value]]) value hname hpath
  rw [runLine_of_completed (Token.not_blank_of_scan hscan) (prepare_of_two_words hscan halias) hran,
    completedResult_of_output, Text.decodeLossy_empty]
  exact ⟨rfl, hstate⟩

/-- A line that is read as `echo` with one word prints it and leaves the state as it is. -/
theorem runLine_echo
    (hscan : Token.scanWith (sh.state.var? host.env) line =
      .ok [.word "echo" false, .word word quoted])
    (halias : sh.state.alias? "echo" = none) (hword : word ≠ "-n") :
    (runLine host line sh).1 = ⟨word ++ "\n", "", 0, none⟩ ∧
      (runLine host line sh).2.state = sh.state := by
  obtain ⟨left, hran, hstate⟩ := runStage_echo host 0 quoted .empty
    ((ready host line sh).report [.stageBegan 0 ["echo", word]]) hword
  rw [runLine_of_completed (Token.not_blank_of_scan hscan) (prepare_of_two_words hscan halias) hran,
    completedResult_of_output, Text.decodeLossy_encode]
  exact ⟨rfl, hstate⟩

/-- For every value: an `export` of the variable to this value in single quotes succeeds and sets
the variable, and nothing else is changed.  The lines that refer to the variable, by itself or in
double quotes, then print the value between their brackets and nothing else. -/
theorem export_survives_expansion (host : Host) (sh : Shell) {name : String} (value : String)
    (hexport : sh.state.alias? "export" = none) (hecho : sh.state.alias? "echo" = none)
    (hname : isValidName name = true) (hpath : name ≠ "PATH") :
    let exported := runLine host (Token.exportLine name value) sh
    exported.1 = ⟨"", "", 0, none⟩ ∧
    exported.2.state = sh.state.withVar name value ∧
    exported.2.state.var? host.env name = some value ∧
    (∀ other, other ≠ name →
      exported.2.state.overlay.changes.get? other = sh.state.overlay.changes.get? other) ∧
    ∀ sh', sh'.state = exported.2.state →
      ∀ line ∈ [Token.bareLine name, Token.bracedLine name],
        (runLine host line sh').1 = ⟨"[" ++ value ++ "]\n", "", 0, none⟩ ∧
        (runLine host line sh').2.state = sh'.state := by
  intro exported
  obtain ⟨hresult, hstate⟩ :=
    runLine_export (Token.scanWith_exportLine hname) hexport hname hpath
  refine ⟨hresult, hstate, ?_, ?_, ?_⟩
  · rw [hstate, ShellState.var?_withVar]
  · intro other hother
    rw [hstate]
    exact NameMap.get?_insert_of_ne _ hother _
  · intro sh' hsh' line hline
    have hvalue : sh'.state.var? host.env name = some value := by
      rw [hsh', hstate, ShellState.var?_withVar]
    have halias : sh'.state.alias? "echo" = none := by
      rw [hsh', hstate]
      exact hecho
    have hword : "[" ++ value ++ "]" ≠ "-n" := by
      intro heq
      have hchars := congrArg String.toList heq
      rw [String.toList_append, String.toList_append] at hchars
      cases hchars
    have hprinted : "[" ++ value ++ "]\n" = "[" ++ value ++ "]" ++ "\n" := by
      simp only [String.append_assoc]
      rfl
    rw [hprinted]
    rcases List.mem_cons.mp hline with rfl | hline
    · exact runLine_echo (Token.scanWith_bareLine hname hvalue) halias hword
    · obtain rfl := List.mem_singleton.mp hline
      exact runLine_echo (Token.scanWith_bracedLine hname hvalue) halias hword

/-- A value with a quote, a reference, operators and a newline. -/
theorem export_survives_expansion_at_syntax :
    let exported :=
      (runLine bareHost "export A='it'\\''s $HOME | >\n'" (newShell (.empty []))).2
    exported.state.var? bareHost.env "A" = some "it's $HOME | >\n" ∧
      (runLine bareHost "echo [$A]" exported).1 = ⟨"[it's $HOME | >\n]\n", "", 0, none⟩ ∧
      (runLine bareHost "echo \"[$\x7bA\x7d]\"" exported).1 =
        ⟨"[it's $HOME | >\n]\n", "", 0, none⟩ := by
  have hline : Token.exportLine "A" "it's $HOME | >\n" = "export A='it'\\''s $HOME | >\n'" := by
    decide
  obtain ⟨-, -, hvalue, -, hecho⟩ := export_survives_expansion bareHost (newShell (.empty []))
    "it's $HOME | >\n" rfl rfl (show isValidName "A" = true by decide) (by decide)
  rw [hline] at hvalue hecho
  exact ⟨hvalue, (hecho _ rfl _ List.mem_cons_self).1,
    (hecho _ rfl _ (List.mem_cons_of_mem _ List.mem_cons_self)).1⟩

end Shell

end PipeShell
