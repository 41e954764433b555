import PipeShell.Proofs.Builtin.Log
import PipeShell.Proofs.Execution.OwnFiles
import PipeShell.Proofs.Execution.Single

/-!
# The log of a shell

A line is recorded before anything else is done about it.  While its stages run, the log is replaced
where a stage is `history -r FILE` and succeeds (`Shell.Reloads`), and no other stage touches it
(`runStage_keeps_log`).  By induction on the stages, one that begins after stages that do not reload
finds the line at the end of the log (`Begins.log_eq`), and a run without such stages leaves the log
as it was (`Runs.keeps_log`).

Over any number of lines, therefore, the log grows by the lines that are not blank, whatever they
come to (`lines_logged_once`).
-/

namespace PipeShell.Shell

variable {host : Host} {index k : Nat} {stage stage' : Stage} {stages : List Stage}
  {input input' : ByteArray} {sh mid left began : Shell} {line : String} {lines : List String}

/-! ## Stages -/

/-- The stage at `k` is `history -r FILE` and it succeeds. -/
def Reloads (host : Host) (k : Nat) (stage : Stage) (input : ByteArray) (began : Shell) : Prop :=
  stage.command = "history" ∧ (∃ file, stage.args = ["-r", file]) ∧
    ∃ o, (runStage host k stage input began).1 = .ok o

/-- The history behind a built-in command is the one that the command left, also when its change of
state is refused. -/
lemma runBuiltin_history (b : Builtin) :
    (runBuiltin host index stage b input sh).2.history =
      (b.run (sh.view host input) stage.args).history := by
  unfold runBuiltin
  dsimp only
  split
  · rfl
  · rfl
  · split <;> rfl

/-- A program cannot reach the history. -/
lemma runProgram_history (host : Host) (index : Nat) (stage : Stage) (input : ByteArray)
    (sh : Shell) : (runProgram host index stage input sh).2.history = sh.history := by
  unfold runProgram
  dsimp only
  split <;> rfl

/-- No stage changes the lines of the log, unless it reloads them from a file. -/
theorem runStage_keeps_log (h : ¬ Reloads host index stage input sh) :
    (runStage host index stage input sh).2.history.entries = sh.history.entries := by
  unfold Reloads runStage at *
  cases hname : Builtin.ofName? stage.command with
  | none =>
      dsimp only
      rw [runProgram_history]
  | some b =>
      simp only [hname] at h ⊢
      rw [runBuiltin_history]
      apply Builtin.run_keeps_log (v := sh.view host input)
      rintro ⟨rfl, hfile, hresult⟩
      refine h ⟨Builtin.eq_history_of_ofName? hname, hfile, ?_⟩
      rw [runBuiltin]
      simp only [hresult]
      exact ⟨_, rfl⟩

/-- Between its records too, a stage keeps the log unless it reads entries from a file. -/
lemma runReported_keeps_log {result : Except StageFailure StageOutput}
    (hstage : runReported host index stage input sh = (result, left))
    (h : ¬ Reloads host index stage input (sh.report [.stageBegan index stage.argv])) :
    left.history.entries = sh.history.entries := by
  obtain ⟨-, rfl⟩ := Prod.mk.inj hstage
  exact runStage_keeps_log h

/-- A stage finds the log as it was before the first stage, if none in between has reloaded it. -/
theorem Begins.log_eq (h : Begins host index stages input sh k stage' input' began)
    (hkeep : ∀ j stage input₁ began₁, j < k →
      Begins host index stages input sh j stage input₁ began₁ →
        ¬ Reloads host j stage input₁ began₁) :
    began.history.entries = sh.history.entries := by
  induction h with
  | first => rfl
  | later hstage hlater ih =>
      have hfirst := hkeep _ _ _ _ (Nat.lt_of_succ_le hlater.le) .first
      have hrest := ih fun j stage input₁ began₁ hj hbegins =>
        hkeep j stage input₁ began₁ hj (.later hstage hbegins)
      exact hrest.trans (runReported_keeps_log hstage hfirst)

/-- Stages of which none reloads the log leave it as it was. -/
theorem Runs.keeps_log {outs : List StageOutput} {stop : Option StageFailure}
    (h : Runs host index stages input sh outs stop left)
    (hkeep : ∀ j stage input₁ began₁, Begins host index stages input sh j stage input₁ began₁ →
      ¬ Reloads host j stage input₁ began₁) :
    left.history.entries = sh.history.entries := by
  induction h with
  | done => rfl
  | completed hstage _ ih =>
      have hfirst := hkeep _ _ _ _ .first
      have hrest := ih fun j stage input₁ began₁ hbegins =>
        hkeep j stage input₁ began₁ (.later hstage hbegins)
      exact hrest.trans (runReported_keeps_log hstage hfirst)
  | stopped hstage => exact runReported_keeps_log hstage (hkeep _ _ _ _ .first)

/-! ## Lines -/

/-- No stage of the line that begins reloads the log. -/
def KeepsLog (host : Host) (line : String) (sh : Shell) : Prop :=
  ∀ k stage input began, Executes host line sh k stage input began →
    ¬ Reloads host k stage input began

/-- A line that is not blank is added to the log, and nothing else happens to the log. -/
theorem KeepsLog.entries_eq (h : KeepsLog host line sh) (hblank : Text.isAllBlank line = false) :
    (runLine host line sh).2.history.entries = sh.history.entries ++ [line] := by
  cases hline : (prepare host sh line).1 with
  | error e =>
      rw [runLine_of_rejected hblank hline, report_history, ready_history]
      rfl
  | ok p =>
      obtain ⟨outs, stop, left, hrun⟩ := exists_runs host 0 p.stages .empty (ready host line sh)
      have hkept := hrun.keeps_log fun k stage input began hbegins =>
        h k stage input began ⟨hblank, p, hline, hbegins⟩
      rw [runLine_of_prepared hblank hline, (keeps_of_execute hrun).2, hkept, ready_history]
      rfl

/-- A stage finds its own line at the end of the log, if no stage before it has reloaded it. -/
theorem Executes.log_eq (h : Executes host line sh k stage input began)
    (hkeep : ∀ j stage input₁ began₁, j < k → Executes host line sh j stage input₁ began₁ →
      ¬ Reloads host j stage input₁ began₁) :
    began.history.entries = sh.history.entries ++ [line] := by
  obtain ⟨hblank, p, hline, hbegins⟩ := h
  have hlog := hbegins.log_eq fun j stage input₁ began₁ hj hbegins₁ =>
    hkeep j stage input₁ began₁ hj ⟨hblank, p, hline, hbegins₁⟩
  rw [hlog, ready_history]
  rfl

/-- The command `history`, in a shell whose log has just got a line, shows that line last. -/
lemma runStage_history_shows_last {count : Nat} (hname : stage.command = "history")
    (hlog : began.history.entries = sh.history.entries ++ [line])
    (hshown : Builtin.shownCount? (sh.history.length + 1) stage.args = some count)
    (hcount : 0 < count) :
    (runStage host k stage input began).1 = .ok
      ⟨Text.encode (Builtin.printLines
        ((sh.history.recent (count - 1) ++ [(sh.history.length, line)]).map Builtin.historyLine)),
        .empty, 0⟩ := by
  have hlength : began.history.length = sh.history.length + 1 := by
    simp [History.length, hlog]
  have hrun := Builtin.run_history_of_shownCount? (v := began.view host input)
    ((congrArg (Builtin.shownCount? · stage.args) hlength).trans hshown)
  rw [runStage, hname, show Builtin.ofName? "history" = some .history from rfl]
  simp only [runBuiltin, hrun, View.keep, Builtin.showHistory, Report.print]
  rw [← History.recent_of_concat hlog hcount]
  rfl

/-! ## Runs of lines -/

/-- The shell after lines, one after the other. -/
def runLines (host : Host) (lines : List String) (sh : Shell) : Shell :=
  lines.foldl (fun sh line => (runLine host line sh).2) sh

/-- Lines are run one after the other. -/
lemma runLines_cons (host : Host) (line : String) (lines : List String) (sh : Shell) :
    runLines host (line :: lines) sh = runLines host lines (runLine host line sh).2 := rfl

/-- No stage of the lines that begins reloads the log. -/
def LinesKeepLog (host : Host) : List String → Shell → Prop
  | [], _ => True
  | line :: rest, sh => KeepsLog host line sh ∧ LinesKeepLog host rest (runLine host line sh).2

/-- If no stage of the lines reads entries from a file, the log has these lines behind what it had
before, except for the blank ones. -/
theorem LinesKeepLog.entries_eq (h : LinesKeepLog host lines sh) :
    (runLines host lines sh).history.entries =
      sh.history.entries ++ lines.filter (!Text.isAllBlank ·) := by
  induction lines generalizing sh with
  | nil => rw [List.filter_nil, List.append_nil]; rfl
  | cons line rest ih =>
      obtain ⟨hline, hrest⟩ := h
      rw [runLines_cons, ih hrest]
      cases hblank : Text.isAllBlank line with
      | true =>
          rw [runLine_of_blank hblank, List.filter_cons_of_neg (by simp [hblank])]
      | false =>
          rw [hline.entries_eq hblank, List.filter_cons_of_pos (by simp [hblank]),
            List.append_assoc]
          rfl

/-- The log is the log of before and the lines that are not blank, in order, whatever the lines come
to, unless a stage among them reloads it.  A stage of a line finds the line at the end of the log
already, and so `history` shows it last.  A line that is no pipeline, be it for its own tokens or
for those of an alias, is recorded, and apart from that only reported. -/
theorem lines_logged_once (host : Host) :
    (∀ lines sh, LinesKeepLog host lines sh →
      (runLines host lines sh).history.entries =
        sh.history.entries ++ lines.filter (!Text.isAllBlank ·)) ∧
    (∀ line sh k stage input began, Executes host line sh k stage input began →
      (∀ j stage input₁ began₁, j < k → Executes host line sh j stage input₁ began₁ →
        ¬ Reloads host j stage input₁ began₁) →
      began.history.entries = sh.history.entries ++ [line] ∧
      (stage.command = "history" →
        ∀ count, Builtin.shownCount? (sh.history.length + 1) stage.args = some count → 0 < count →
          (runStage host k stage input began).1 = .ok
            ⟨Text.encode (Builtin.printLines
              ((sh.history.recent (count - 1) ++ [(sh.history.length, line)]).map
                Builtin.historyLine)), .empty, 0⟩)) ∧
    (∀ line sh e, Text.isAllBlank line = false → (prepare host sh line).1 = .error e →
      (runLine host line sh).1 = .rejected e ∧
      (runLine host line sh).2.state = sh.state ∧
      (runLine host line sh).2.history = sh.history.push line ∧
      ∀ l, ¬ (runLine host line sh).2.OwnsFile l →
        (runLine host line sh).2.disk.entryAt? l = sh.disk.entryAt? l) := by
  refine ⟨fun lines sh h => h.entries_eq, ?_, ?_⟩
  · intro line sh k stage input began hexecutes hkeep
    have hlog := hexecutes.log_eq hkeep
    exact ⟨hlog, fun hname count hshown hcount =>
      runStage_history_shows_last hname hlog hshown hcount⟩
  · intro line sh e hblank hline
    have hframe := (ownFrame_ready host line sh).trans (ownFrame_report _ [.lineRejected line e])
    rw [runLine_of_rejected hblank hline]
    exact ⟨rfl, rfl, record_history sh line, hframe.entryAt?_eq⟩

/-- An open quote, blanks and `history`: the first and the last are in the log, and `history` shows
them both. -/
theorem lines_logged_once_after_open_quote :
    let sh := newShell (.empty [])
    let sh' := (runLine bareHost "echo 'open" sh).2
    LinesKeepLog bareHost ["echo 'open", " ", "history"] sh ∧
    (runLines bareHost ["echo 'open", " ", "history"] sh).history.entries =
      ["echo 'open", "history"] ∧
    ((prepare bareHost sh "echo 'open").1 = .error (.unterminatedQuote '\'') ∧
      sh'.state = sh.state ∧ ∀ l, ¬ sh'.OwnsFile l → sh'.disk.entryAt? l = sh.disk.entryAt? l) ∧
    ∃ began, Executes bareHost "history" sh' 0 (plainStage "history" []) .empty began ∧
      (runStage bareHost 0 (plainStage "history" []) .empty began).1 =
        .ok ⟨Text.encode "    1  echo 'open\n    2  history\n", .empty, 0⟩ := by
  intro sh sh'
  obtain ⟨hlog, hstage, hrejected⟩ := lines_logged_once bareHost
  have hopen : (prepare bareHost sh "echo 'open").1 = .error (.unterminatedQuote '\'') := rfl
  have hopened := hrejected "echo 'open" sh _ rfl hopen
  have hblank : runLine bareHost " " sh' = (.nothing, sh') := runLine_of_blank rfl
  have hline : (prepare bareHost sh' "history").1 = .ok (.single (plainStage "history" [])) := rfl
  have hkeep : LinesKeepLog bareHost ["echo 'open", " ", "history"] sh := by
    refine ⟨?_, ?_, ?_, trivial⟩
    · rintro k stage input began ⟨-, p, hp, -⟩
      cases hopen.symm.trans hp
    · rintro k stage input began ⟨hblank, -⟩
      cases hblank
    · rw [hblank]
      rintro k stage input began hexecutes ⟨-, ⟨file, hargs⟩, -⟩
      obtain ⟨-, rfl, -⟩ := (executes_iff_of_single rfl hline).mp hexecutes
      cases hargs
  have hexecutes : Executes bareHost "history" sh' 0 (plainStage "history" []) .empty
      ((ready bareHost "history" sh').report [.stageBegan 0 ["history"]]) :=
    (executes_iff_of_single rfl hline).mpr ⟨rfl, rfl, rfl, rfl⟩
  have hshown := (hstage _ _ _ _ _ _ hexecutes fun j _ _ _ hj => absurd hj (Nat.not_lt_zero j)).2
    rfl 2 rfl Nat.two_pos
  have htext : Builtin.printLines
      ((sh'.history.recent (2 - 1) ++ [(sh'.history.length, "history")]).map
        Builtin.historyLine) = "    1  echo 'open\n    2  history\n" := by decide +kernel
  rw [htext] at hshown
  exact ⟨hkeep, hlog _ sh hkeep, ⟨hopen, hopened.2.1, hopened.2.2.2⟩, _, hexecutes, hshown⟩

end PipeShell.Shell
