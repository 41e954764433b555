import PipeShell.Builtin
import PipeShell.Proofs.History.Operations

/-!
# What built-in commands do to the log

A built-in command is handed the history, but only `history` does anything with it, and the lines of
the log change only where they are replaced by those of a file: with `history -r FILE`, when it
succeeds (`run_keeps_log`).  Saving the log to a file moves nothing but the mark of what is saved.

Without a file `history` shows the last lines of the log, all of them or as many as it was asked for
(`shownCount?`).  A line that was just added is the last one shown (`recent_of_concat`).
-/

namespace PipeShell

namespace History

variable {h : History} {d : Disk} {path : String} {count : Nat} {step : Step}
  {result : Except HistoryError Nat}

/-- Writing the log to a file does not change its lines. -/
lemma entries_of_save (hsave : h.save d path = (result, step)) :
    step.history.entries = h.entries := by
  cases saved_of_save hsave <;> rfl

/-- Nor does adding the new lines to a file. -/
lemma entries_of_saveNew (hsave : h.saveNew d path = (result, step)) :
    step.history.entries = h.entries := by
  cases savedNew_of_saveNew hsave <;> rfl

/-- A line that was added to the log is the last one that is shown of it. -/
lemma recent_of_concat {h' : History} {line : String} (hlog : h'.entries = h.entries ++ [line])
    (hcount : 0 < count) :
    h'.recent count = h.recent (count - 1) ++ [(h.length, line)] := by
  have hnumbered : h'.numbered = h.numbered ++ [(h.length, line)] := by
    simp [numbered, hlog, List.zipIdx_append, length]
  have hlength : h'.length = h.length + 1 := by simp [length, hlog]
  have hdrop : h.length + 1 - count = h.length - (count - 1) := by omega
  have hle : h.length - (count - 1) ≤ h.numbered.length := by
    simp [numbered, length]
  rw [recent, recent, hnumbered, hlength, hdrop, List.drop_append_of_le_length hle]

end History

namespace Builtin

variable {v : View} {args : List String} {name : String} {b : Builtin}

/-- Only one name is that of the command about the history. -/
lemma eq_history_of_ofName? (h : ofName? name = some history) : name = "history" := by
  have hunique : ∀ p ∈ registry.toList, p.2 = history → p.1 = "history" := by decide
  exact hunique _ (registry.mem_toList_iff.mpr h) rfl

/-! ## Replacing the log -/

/-- The command leaves the history that the exchange has left, whether it succeeded or not. -/
@[simp] lemma history_exchanged (report : Nat → String)
    (exchange : Except HistoryError Nat × History.Step) :
    (exchanged report exchange).history = exchange.2.history := by
  unfold exchanged
  dsimp only
  split <;> rfl

/-- And the disk that the exchange has left. -/
@[simp] lemma disk_exchanged (report : Nat → String)
    (exchange : Except HistoryError Nat × History.Step) :
    (exchanged report exchange).disk = exchange.2.disk := by
  unfold exchanged
  dsimp only
  split <;> rfl

/-- Replacing the log by the lines of a file leaves the lines as they are when it fails. -/
lemma entries_of_exchanged_load {report : Nat → String} {path : String}
    (h : (exchanged report (v.history.load v.disk path)).result ≠ .ok none) :
    (exchanged report (v.history.load v.disk path)).history.entries = v.history.entries := by
  rcases hload : v.history.load v.disk path with ⟨result, step⟩
  rw [hload] at h
  cases History.loaded_of_load hload with
  | refused => rfl
  | unbacked | replaced | notReplaced => exact absurd rfl h

/-- Of the exchanges with files only a successful `-r` adds to the log. -/
lemma historyFile_keeps_log {option target : String}
    (h : ¬ (option = "-r" ∧ (historyFile v option target).result = .ok none)) :
    (historyFile v option target).history.entries = v.history.entries := by
  unfold historyFile at h ⊢
  split
  · rfl
  · next path hpath =>
    simp only [hpath] at h
    split
    · exact entries_of_exchanged_load fun hresult => h ⟨rfl, hresult⟩
    · rw [history_exchanged]
      exact History.entries_of_save rfl
    · rw [history_exchanged]
      exact History.entries_of_saveNew rfl
    · rfl

/-- So for `history` as a whole. -/
lemma historyCommand_keeps_log
    (h : ¬ ((∃ file, args = ["-r", file]) ∧ (historyCommand v args).result = .ok none)) :
    (historyCommand v args).history.entries = v.history.entries := by
  unfold historyCommand at h ⊢
  split
  · rfl
  · split_ifs
    · rfl
    · split <;> rfl
  · next option target =>
    split_ifs with hoption
    · apply historyFile_keeps_log
      rintro ⟨rfl, hresult⟩
      exact h ⟨⟨target, rfl⟩, by simpa only [if_pos hoption] using hresult⟩
    · rfl
  · rfl

/-- An exchange that failed left everything as it was. -/
lemma exchanged_of_error (x : History.Exchange) {report : Nat → String} {path : String}
    {e : CommandError}
    (h : (exchanged report (x.run v.history v.disk path)).result = .error e) :
    exchanged report (x.run v.history v.disk path) = v.refuse e := by
  rcases hrun : x.run v.history v.disk path with ⟨e' | count, step⟩
  · rw [hrun] at h
    cases h
    rw [History.Exchange.step_of_error hrun]
    rfl
  · rw [hrun] at h
    cases h

/-- A refusal is determined by its error. -/
lemma refuse_of_error {e e' : CommandError} (h : (v.refuse e).result = .error e') :
    v.refuse e = v.refuse e' := by
  cases h
  rfl

/-- An exchange that fails leaves what a refusal leaves. -/
lemma historyFile_of_error {option target : String} {e : CommandError}
    (h : (historyFile v option target).result = .error e) :
    historyFile v option target = v.refuse e := by
  unfold historyFile at h ⊢
  cases hpath : v.resolve target with
  | error => exact refuse_of_error (by simpa only [hpath] using h)
  | ok path =>
      simp only [hpath] at h ⊢
      split at h
      · exact exchanged_of_error .load h
      · exact exchanged_of_error .save h
      · exact exchanged_of_error .saveNew h
      · exact refuse_of_error h

/-- When `history` fails, whatever it was asked for, it has done nothing. -/
theorem historyCommand_of_error {e : CommandError}
    (h : (historyCommand v args).result = .error e) : historyCommand v args = v.refuse e := by
  unfold historyCommand at h ⊢
  split at h
  · cases h
  · split_ifs at h ⊢ with hoption
    · exact refuse_of_error h
    · split at h
      · cases h
      · exact refuse_of_error h
  · split_ifs at h ⊢ with hoption
    · exact historyFile_of_error h
    · exact refuse_of_error h
  · exact refuse_of_error h

/-- No built-in command changes the lines of the log, except for `history -r FILE` when it
succeeds. -/
theorem run_keeps_log (b : Builtin)
    (h : ¬ (b = history ∧ (∃ file, args = ["-r", file]) ∧ (b.run v args).result = .ok none)) :
    (b.run v args).history.entries = v.history.entries := by
  cases b with
  | history => exact historyCommand_keeps_log fun hreload => h ⟨rfl, hreload⟩
  | mkdir =>
      change (mkdirCommand v args).history.entries = _
      unfold mkdirCommand
      dsimp only
      split_ifs <;> rfl
  | touch =>
      change (touchCommand v args).history.entries = _
      unfold touchCommand
      split_ifs <;> rfl
  | aliases | cat | cd | echo | exit | exports | help | ls | pwd | type | unset => rfl

/-! ## Showing the log -/

/-- How many lines `history` with these arguments shows of a log of this length, if it shows the
log. -/
def shownCount? (length : Nat) : List String → Option Nat
  | [] => some length
  | [arg] => if isOption arg then none else Decimal.readNat? 18446744073709551615 arg
  | _ => none

/-- With a number, or without any argument, `history` shows entries and keeps everything. -/
lemma run_history_of_shownCount? {count : Nat}
    (h : shownCount? v.history.length args = some count) :
    history.run v args = v.keep (showHistory v.history count) := by
  change historyCommand v args = _
  match args, h with
  | [], h =>
      cases h
      rfl
  | [arg], h =>
      simp only [shownCount?, Option.ite_none_left_eq_some, Bool.not_eq_true] at h
      simp [historyCommand, h.1, h.2]

end Builtin

end PipeShell
