import PipeShell.Proofs.Execution.Waiting
import PipeShell.Proofs.Text.Blank
import PipeShell.Session

/-!
# Blank lines in a session

`Plays` tells what the lines of a script do when those that are blank are passed over: the others
are run in order, the line `clear` is only recorded, and the session ends with the first line that
asks to leave, with a line that cannot be read, or with the last one, and then with the status of
the last line that was run.

A session computes just this (`runScript_of_plays`), with one difference.  A blank line that is the
last to be run, `clear` apart (`ScriptLine.endsBlank`), counts as a line with the status zero.  So
blank lines change nothing that a session does, shows or remembers, but they can change the status
that it ends with (`blank_lines_change_only_status`).

The terminal is taken to be one on which no prompt is shown, and the shell to have no log file: each
line that is read, blank or not, makes a record.  It is of the least important kind, and so the
errors that are shown are the same unless such records are shown, too.
-/

namespace PipeShell

/-! ## Scripts without their blank lines -/

namespace ScriptLine

/-- The line holds nothing but blanks. -/
def isBlank : ScriptLine → Bool
  | text line => Text.isAllBlank line
  | _ => false

/-- The script without its blank lines. -/
def withoutBlanks (script : List ScriptLine) : List ScriptLine :=
  script.filter (!·.isBlank)

/-- Whether the last line run was a blank one, after one line more.  The line `clear` is not run. -/
def blankAfter (blank : Bool) : ScriptLine → Bool
  | text line => if Session.isClear line then blank else Text.isAllBlank line
  | _ => blank

/-- The last line of the script, apart from `clear`, is blank. -/
def endsBlank (script : List ScriptLine) : Bool :=
  script.foldl blankAfter false

end ScriptLine

/-- Why a session ended. -/
inductive ScriptEnd where
  | asked (code : Int)
  /-- There were no more lines; the status is that of the last line run. -/
  | endOfInput (status : Int)
  | unreadable
  | torn

namespace ScriptEnd

/-- How the session ends. -/
def toEnd : ScriptEnd → SessionEnd
  | asked code => .left code
  | endOfInput status => .left status
  | unreadable => .failed (.read (.io .notText))
  | torn => .brokeDown

/-- The ending if the last line run was a blank one. -/
def afterBlank : ScriptEnd → ScriptEnd
  | endOfInput _ => endOfInput 0
  | ending => ending

end ScriptEnd

/-- What there is to show about a line: the records that it made, and its result if it was run. -/
structure Shown where
  events : List Event
  result : Option ExecResult

namespace Shown

/-- The output of the line. -/
def output (shown : Shown) : String :=
  (shown.result.map ExecResult.outputText).getD ""

/-- The console after the line was shown. -/
def showOn (around : Surroundings) (c : Console) (shown : Shown) : Console :=
  let c' := c.showLog around.verbosity around.clock shown.events
  shown.result.elim c' (·.showOn around.palette c')

end Shown

/-- What the lines of a script do, after a line of this status and in a shell in which no records
wait: what there is to show about each of them that is not blank, why the session ends, and the
shell that is left. -/
inductive Plays (host : Host) :
    (status : Int) → List ScriptLine → Shell → List Shown → ScriptEnd → Shell → Prop
  | endOfInput (status : Int) (sh : Shell) : Plays host status [] sh [] (.endOfInput status) sh
  | unreadable (status : Int) (rest : List ScriptLine) (sh : Shell) :
      Plays host status (.unreadable :: rest) sh [] .unreadable sh
  | torn (status : Int) (rest : List ScriptLine) (sh : Shell) :
      Plays host status (.torn :: rest) sh [] .torn sh
  /-- A blank line is passed over. -/
  | blank {status : Int} {line : String} {rest : List ScriptLine} {sh left : Shell}
      {shown : List Shown} {ending : ScriptEnd} (hblank : Text.isAllBlank line = true)
      (hrest : Plays host status rest sh shown ending left) :
      Plays host status (.text line :: rest) sh shown ending left
  /-- The line `clear` is recorded and not run. -/
  | clear {status : Int} {line : String} {rest : List ScriptLine} {sh mid left : Shell}
      {shown : List Shown} {ending : ScriptEnd} (hclear : Session.isClear line = true)
      (hrecord : sh.record line = mid)
      (hrest : Plays host status rest mid.settled shown ending left) :
      Plays host status (.text line :: rest) sh (⟨mid.log, none⟩ :: shown) ending left
  /-- The line has asked to leave. -/
  | asked {status : Int} {line : String} {rest : List ScriptLine} {sh mid : Shell}
      {r : ExecResult} {code : Int} (hblank : Text.isAllBlank line = false)
      (hclear : Session.isClear line = false) (hrun : Shell.runLine host line sh = (r, mid))
      (hexit : mid.exitRequest = some code) :
      Plays host status (.text line :: rest) sh [⟨mid.log, some r⟩] (.asked code) mid.settled
  | ran {status : Int} {line : String} {rest : List ScriptLine} {sh mid left : Shell}
      {r : ExecResult} {shown : List Shown} {ending : ScriptEnd}
      (hblank : Text.isAllBlank line = false) (hclear : Session.isClear line = false)
      (hrun : Shell.runLine host line sh = (r, mid)) (hexit : mid.exitRequest = none)
      (hrest : Plays host r.status rest mid.settled shown ending left) :
      Plays host status (.text line :: rest) sh (⟨mid.log, some r⟩ :: shown) ending left

variable {host : Host} {status : Int} {script : List ScriptLine} {line : String}
  {sh left : Shell} {shown : List Shown} {ending : ScriptEnd}

/-- The line `clear` is not blank. -/
lemma Session.isClear_of_blank (h : Text.isAllBlank line = true) : isClear line = false := by
  have htrim := Text.trim_eq_nil (List.all_eq_true.mp h)
  rw [isClear, Text.trimText, htrim]
  rfl

/-- Scripts always come to some end. -/
theorem exists_plays (host : Host) (status : Int) (script : List ScriptLine) (sh : Shell) :
    ∃ shown ending left, Plays host status script sh shown ending left := by
  induction script generalizing status sh with
  | nil => exact ⟨_, _, _, .endOfInput status sh⟩
  | cons head rest ih =>
      cases head with
      | unreadable => exact ⟨_, _, _, .unreadable status rest sh⟩
      | torn => exact ⟨_, _, _, .torn status rest sh⟩
      | text line =>
          cases hblank : Text.isAllBlank line with
          | true =>
              obtain ⟨shown, ending, left, hrest⟩ := ih status sh
              exact ⟨_, _, _, .blank hblank hrest⟩
          | false =>
              cases hclear : Session.isClear line with
              | true =>
                  obtain ⟨shown, ending, left, hrest⟩ := ih status (sh.record line).settled
                  exact ⟨_, _, _, .clear hclear rfl hrest⟩
              | false =>
                  rcases hrun : Shell.runLine host line sh with ⟨r, mid⟩
                  cases hexit : mid.exitRequest with
                  | some code => exact ⟨_, _, _, .asked hblank hclear hrun hexit⟩
                  | none =>
                      obtain ⟨shown, ending, left, hrest⟩ := ih r.status mid.settled
                      exact ⟨_, _, _, .ran hblank hclear hrun hexit hrest⟩

/-- Blank lines can be put anywhere into a script. -/
theorem plays_of_withoutBlanks
    (h : Plays host status (ScriptLine.withoutBlanks script) sh shown ending left) :
    Plays host status script sh shown ending left := by
  induction script generalizing status sh shown with
  | nil => exact h
  | cons head rest ih =>
      cases hblank : head.isBlank with
      | true =>
          rw [ScriptLine.withoutBlanks, List.filter_cons_of_neg (by simp [hblank])] at h
          cases head with
          | text line => exact .blank hblank (ih h)
          | unreadable | torn => cases hblank
      | false =>
          rw [ScriptLine.withoutBlanks, List.filter_cons_of_pos (by simp [hblank])] at h
          cases h with
          | unreadable => exact .unreadable _ _ _
          | torn => exact .torn _ _ _
          | blank hblank' hrest => cases hblank.symm.trans hblank'
          | clear hclear hrecord hrest => exact .clear hclear hrecord (ih hrest)
          | asked hblank hclear hrun hexit => exact .asked hblank hclear hrun hexit
          | ran hblank hclear hrun hexit hrest => exact .ran hblank hclear hrun hexit (ih hrest)

/-! ## What is shown -/

section Show

variable {around : Surroundings}

/-- Without records nothing is shown. -/
lemma showLog_nil (c : Console) (v : Verbosity) (clock : String) : c.showLog v clock [] = c := by
  cases c
  simp [Console.showLog, Event.shownAt, Event.logText, Console.complain]

/-- Records are shown one after the other. -/
lemma showLog_append (c : Console) (v : Verbosity) (clock : String) (first rest : List Event) :
    c.showLog v clock (first ++ rest) = (c.showLog v clock first).showLog v clock rest := by
  simp [Console.showLog, Event.shownAt, Event.logText, Console.complain, String.append_assoc]

/-- Of a blank line nothing is shown. -/
lemma showOn_nothing (p : Palette) (c : Console) : ExecResult.nothing.showOn p c = c := by
  cases c
  simp [ExecResult.showOn, ExecResult.nothing, ExecResult.outputText, ExecResult.errorText,
    ExecResult.closingText, Console.print, Console.complain]

/-- Records are not shown on the output. -/
@[simp] lemma output_showLog (c : Console) (v : Verbosity) (clock : String) (events : List Event) :
    (c.showLog v clock events).output = c.output := rfl

/-- What is shown is added to the output. -/
lemma output_showOn (around : Surroundings) (c : Console) (shown : Shown) :
    (shown.showOn around c).output = c.output ++ shown.output := by
  obtain ⟨events, _ | r⟩ := shown
  · simp [Shown.showOn, Shown.output]
  · rfl

end Show

/-! ## What a session computes -/

namespace Session

variable {around : Surroundings} {s : Session} {L : List Event}

/-- A session that is about to read a line has one record more and is otherwise as before. -/
lemma awaitLine_eq (hplain : Surroundings.terminalTooPlain around.host.env = false)
    (hlog : s.shell.logFile = none) :
    awaitLine around s =
      ⟨s.shell.settled.logged (s.shell.log ++ [.inputNotATerminal]), s.console⟩ := by
  rw [awaitLine, if_neg (by simp [hplain])]
  simp [Shell.report, Shell.settled, Shell.logged, hlog]

/-- The records that wait are shown before those of the line, and then comes the result. -/
lemma runLine_logged {r : ExecResult} {mid : Shell}
    (hrun : Shell.runLine around.host line sh = (r, mid)) (c : Console) :
    runLine around line ⟨sh.logged L, c⟩ =
      (r.status, ⟨mid.settled, (Shown.mk mid.log (some r)).showOn around
        (c.showLog around.verbosity around.clock L)⟩) := by
  have hrun' := Shell.runLine_logged L around.host line sh
  rw [hrun] at hrun'
  simp only [runLine, hrun', flush]
  rw [Shown.showOn, ← showLog_append]
  rfl

/-- Records of this kind are not shown, so the console is the same with one more of them. -/
lemma showLog_concat_of_hidden (hhidden : around.verbosity.shows .debug = false) (c : Console)
    (events : List Event) :
    c.showLog around.verbosity around.clock (events ++ [.inputNotATerminal]) =
      c.showLog around.verbosity around.clock events := by
  rw [showLog_append]
  have hnone : Event.shownAt around.verbosity [.inputNotATerminal] = [] := by
    simp [Event.shownAt, Event.level, hhidden]
  rw [Console.showLog, hnone]
  exact showLog_nil _ around.verbosity around.clock

/-- What a session shows about the lines of a script: the output of each, and with it the records
and the errors, where the records that reading a line makes are not shown. -/
structure Shows (around : Surroundings) (s : Session) (shown : List Shown) (c : Console) :
    Prop where
  output_eq : c.output = s.console.output ++ String.join (shown.map Shown.output)
  eq_of_hidden : around.verbosity.shows .debug = false →
    c = shown.foldl (Shown.showOn around) (s.flush around).console

/-- The console of a session that has read one line more. -/
def readOn (around : Surroundings) (s : Session) : Console :=
  s.console.showLog around.verbosity around.clock (s.shell.log ++ [.inputNotATerminal])

/-- If records of the least weight are hidden, reading a line shows what was to be shown before and
no more. -/
lemma readOn_of_hidden (hhidden : around.verbosity.shows .debug = false) (s : Session) :
    readOn around s = (s.flush around).console :=
  showLog_concat_of_hidden hhidden s.console s.shell.log

/-- A settled session that goes no further shows no lines. -/
lemma shows_nil (sh : Shell) (c : Console) : Shows around ⟨sh.settled, c⟩ [] c where
  output_eq := by simp
  eq_of_hidden _ := (showLog_nil c around.verbosity around.clock).symm

/-- Reading a line shows no lines. -/
lemma shows_readOn (around : Surroundings) (s : Session) : Shows around s [] (readOn around s) where
  output_eq := by simp [readOn]
  eq_of_hidden hhidden := readOn_of_hidden hhidden s

/-- A line is read of which nothing is shown. -/
lemma Shows.blank {s' : Session} {c : Console} (h : Shows around s' shown c)
    (hread : (s'.flush around).console = readOn around s) : Shows around s shown c where
  output_eq := by
    have houtput := congrArg Console.output hread
    exact h.output_eq.trans (congrArg (· ++ _) houtput)
  eq_of_hidden hhidden := by
    rw [h.eq_of_hidden hhidden, hread, readOn_of_hidden hhidden]

/-- A line is read and shown. -/
lemma Shows.cons {s' : Session} {item : Shown} {c : Console} (h : Shows around s' shown c)
    (hread : (s'.flush around).console = item.showOn around (readOn around s)) :
    Shows around s (item :: shown) c where
  output_eq := by
    have houtput := (congrArg Console.output hread).trans (output_showOn around _ item)
    refine h.output_eq.trans ((congrArg (· ++ _) houtput).trans ?_)
    simp [readOn, String.append_assoc]
  eq_of_hidden hhidden := by
    rw [h.eq_of_hidden hhidden, hread, readOn_of_hidden hhidden, List.foldl_cons]

/-- Flushing after a line was read leaves what reading it has shown. -/
lemma flush_awaitLine (hplain : Surroundings.terminalTooPlain around.host.env = false)
    (hlog : s.shell.settled.logFile = none) :
    flush around (awaitLine around s) = ⟨s.shell.settled, readOn around s⟩ := by
  rw [awaitLine_eq hplain hlog, flush]
  simp [Shell.settled, Shell.logged, readOn]

/-- In a settled session there is nothing to flush. -/
lemma flush_settled (sh : Shell) (c : Console) :
    flush around ⟨sh.settled, c⟩ = ⟨sh.settled, c⟩ :=
  congrArg (Session.mk sh.settled) (showLog_nil c around.verbosity around.clock)

/-- A line is read, run and shown. -/
lemma runLine_awaitLine (hplain : Surroundings.terminalTooPlain around.host.env = false)
    (hlog : s.shell.settled.logFile = none) {r : ExecResult} {mid : Shell}
    (hrun : Shell.runLine around.host line s.shell.settled = (r, mid)) :
    runLine around line (awaitLine around s) =
      (r.status, ⟨mid.settled, (Shown.mk mid.log (some r)).showOn around (readOn around s)⟩) := by
  rw [awaitLine_eq hplain hlog, runLine_logged hrun]
  rfl

/-- A line that is run tells anew whether the last one was blank. -/
lemma blankAfter_of_run (hclear : isClear line = false) (blank : Bool) :
    ScriptLine.blankAfter blank (.text line) = Text.isAllBlank line := by
  simp [ScriptLine.blankAfter, hclear]

/-- A script ends behind the line that asks to leave. -/
lemma runScript_of_asked {s' : Session} {code code' : Int} {r : Nat} (hclear : isClear line = false)
    (hrun : runLine around line (awaitLine around s) = (r, s'))
    (hexit : s'.shell.exitRequest = some code') (rest : List ScriptLine) :
    runScript around code (.text line :: rest) s = (.left code', s') := by
  rw [runScript, if_neg (by simp [hclear]), hrun]
  simp only [hexit]

/-- After any other line it goes on, with the status of that line. -/
lemma runScript_of_ran {s' : Session} {r : Nat} (hclear : isClear line = false)
    (hrun : runLine around line (awaitLine around s) = (r, s'))
    (hexit : s'.shell.exitRequest = none) (code : Int) (rest : List ScriptLine) :
    runScript around code (.text line :: rest) s = runScript around r rest s' := by
  rw [runScript, if_neg (by simp [hclear]), hrun]
  simp only [hexit]

/-- A session does what the lines of its script do, but a blank line at the end counts as zero. -/
theorem runScript_of_plays (hplain : Surroundings.terminalTooPlain around.host.env = false)
    (h : Plays around.host status script sh shown ending left) (s : Session)
    (hsh : s.shell.settled = sh) (hlog : sh.logFile = none) (hexit : sh.exitRequest = none)
    (blank : Bool) (code : Int) (hcode : code = if blank then 0 else status) :
    ∃ c, runScript around code script s =
        ((if script.foldl ScriptLine.blankAfter blank then ending.afterBlank else ending).toEnd,
          ⟨left, c⟩) ∧ Shows around s shown c := by
  -- `status` is that of the last line run with blank lines passed over, `code` the one with them;
  -- the two differ just where the last line run was blank
  induction h generalizing s blank code with
  | endOfInput status sh =>
      subst hsh hcode
      refine ⟨readOn around s, ?_, shows_readOn around s⟩
      rw [runScript, flush_awaitLine hplain hlog]
      cases blank <;> rfl
  | unreadable status rest sh =>
      subst hsh
      refine ⟨readOn around s, ?_, shows_readOn around s⟩
      rw [runScript, flush_awaitLine hplain hlog]
      split_ifs <;> rfl
  | torn status rest sh =>
      subst hsh
      refine ⟨readOn around s, ?_, shows_readOn around s⟩
      rw [runScript, flush_awaitLine hplain hlog]
      split_ifs <;> rfl
  | @blank status line rest sh left shown ending hblank hrest ih =>
      subst hsh
      have hclear := isClear_of_blank hblank
      have hnothing : (Shown.mk [] (some .nothing)).showOn around (readOn around s) =
          readOn around s := by
        rw [Shown.showOn, showLog_nil]
        exact showOn_nothing around.palette _
      have hrun : runLine around line (awaitLine around s) =
          (0, ⟨s.shell.settled, readOn around s⟩) :=
        (runLine_awaitLine hplain hlog (Shell.runLine_of_blank hblank)).trans
          (congrArg (fun c => (0, Session.mk s.shell.settled c)) hnothing)
      obtain ⟨c, hscript, hshows⟩ :=
        ih ⟨s.shell.settled, readOn around s⟩ rfl hlog hexit true 0 rfl
      refine ⟨c, ?_, hshows.blank (congrArg Session.console (flush_settled _ _))⟩
      rw [runScript_of_ran hclear hrun hexit, List.foldl_cons, blankAfter_of_run hclear, hblank]
      exact hscript
  | @clear status line rest sh mid left shown ending hclear hrecord hrest ih =>
      subst hsh
      have hlogged : (awaitLine around s).shell.record line =
          mid.logged (s.shell.log ++ [.inputNotATerminal]) := by
        rw [awaitLine_eq hplain hlog, Shell.record_logged, hrecord]
      have hmid : mid.state = s.shell.state ∧ mid.logFile = s.shell.logFile := by
        subst hrecord
        exact ⟨rfl, rfl⟩
      obtain ⟨c, hscript, hshows⟩ := ih
        ⟨mid.logged (s.shell.log ++ [.inputNotATerminal]), s.console⟩ rfl (hmid.2.trans hlog)
        ((congrArg ShellState.exitRequest hmid.1).trans hexit) blank code hcode
      refine ⟨c, ?_, hshows.cons ?_⟩
      · rw [runScript, if_pos hclear, hlogged, List.foldl_cons, ScriptLine.blankAfter,
          if_pos hclear, ← hscript]
        rw [awaitLine_eq hplain hlog]
      · exact showLog_append _ _ _ _ _
  | @asked status line rest sh mid r code hblank hclear hrun hexit' =>
      subst hsh
      have hline := runLine_awaitLine hplain hlog hrun
      refine ⟨_, ?_, (shows_nil mid _).cons (congrArg Session.console (flush_settled _ _))⟩
      rw [runScript_of_asked hclear hline hexit']
      split_ifs <;> rfl
  | @ran status line rest sh mid left r shown ending hblank hclear hrun hmid hrest ih =>
      subst hsh
      have hline := runLine_awaitLine hplain hlog hrun
      have hlogFile : mid.logFile = none := by
        have hkept := Shell.logFile_runLine around.host line s.shell.settled
        rw [hrun] at hkept
        exact hkept.trans hlog
      obtain ⟨c, hscript, hshows⟩ := ih
        ⟨mid.settled, (Shown.mk mid.log (some r)).showOn around (readOn around s)⟩ rfl hlogFile hmid
        false r.status rfl
      refine ⟨c, ?_, hshows.cons (congrArg Session.console (flush_settled _ _))⟩
      rw [runScript_of_ran hclear hline hmid, List.foldl_cons, blankAfter_of_run hclear, hblank]
      exact hscript

/-- Blank lines change nothing about the shell that a session leaves and nothing about its output,
and nothing about its errors either, unless the least important records are shown, of which each
line that is read makes one.  In both scripts the lines that are not blank are run one after the
other, up to the first after which the shell was asked to leave, and where no such line comes, the
session ends with the status of the last line that was run: zero if there is none, and zero, too, if
there is one but a blank line comes behind it. -/
theorem blank_lines_change_only_status
    (hplain : Surroundings.terminalTooPlain around.host.env = false)
    (hlog : s.shell.logFile = none) (hexit : s.shell.exitRequest = none)
    {script script' : List ScriptLine}
    (hlines : ScriptLine.withoutBlanks script = ScriptLine.withoutBlanks script') :
    let ran := runScript around 0 script s
    let ran' := runScript around 0 script' s
    (ran.2.shell = ran'.2.shell ∧ ran.2.console.output = ran'.2.console.output ∧
      (around.verbosity.shows .debug = false → ran.2.console = ran'.2.console)) ∧
    ∃ shown ending,
      Plays around.host 0 (ScriptLine.withoutBlanks script) s.shell.settled shown ending
        ran.2.shell ∧
      ran.2.console.output = s.console.output ++ String.join (shown.map Shown.output) ∧
      ran.1 = (if ScriptLine.endsBlank script then ending.afterBlank else ending).toEnd ∧
      ran'.1 = (if ScriptLine.endsBlank script' then ending.afterBlank else ending).toEnd := by
  intro ran ran'
  obtain ⟨shown, ending, left, hplays⟩ :=
    exists_plays around.host 0 (ScriptLine.withoutBlanks script) s.shell.settled
  -- both scripts play like what is left of them without the blank lines
  obtain ⟨c, hran, hshows⟩ :=
    runScript_of_plays hplain (plays_of_withoutBlanks hplays) s rfl hlog hexit false 0 rfl
  obtain ⟨c', hran', hshows'⟩ := runScript_of_plays hplain
    (plays_of_withoutBlanks (hlines ▸ hplays)) s rfl hlog hexit false 0 rfl
  have heq : ran = _ := hran
  have heq' : ran' = _ := hran'
  rw [heq, heq']
  refine ⟨⟨rfl, hshows.output_eq.trans hshows'.output_eq.symm, fun hhidden => ?_⟩,
    shown, ending, hplays, hshows.output_eq, rfl, rfl⟩
  exact (hshows.eq_of_hidden hhidden).trans (hshows'.eq_of_hidden hhidden).symm

/-- No colours, and warnings only. -/
def plainSurroundings : Surroundings := ⟨Shell.bareHost, .plain, .warnings, ""⟩

/-- A new session on an empty disk. -/
def newSession : Session := ⟨Shell.newShell (.empty []), .empty⟩

/-- A command that does not exist and `clear`, without blank lines and with some.  The last of them
comes behind `clear`, and still the status is zero. -/
theorem blank_lines_change_only_status_behind_clear :
    let script : List ScriptLine := [.text " ", .text "nosuch", .text "clear", .text "\t"]
    let script' : List ScriptLine := [.text "nosuch", .text "clear"]
    let ran := runScript plainSurroundings 0 script newSession
    let ran' := runScript plainSurroundings 0 script' newSession
    (Surroundings.terminalTooPlain plainSurroundings.host.env = false ∧
      newSession.shell.logFile = none ∧ newSession.shell.exitRequest = none ∧
      ScriptLine.withoutBlanks script = ScriptLine.withoutBlanks script') ∧
    (ran.2.shell = ran'.2.shell ∧ ran.2.console = ran'.2.console) ∧
    (ran.1 = .left 0 ∧ ran'.1 = .left 127) ∧
    ran.2.console.errors = "sluice: nosuch: command not found\n" ∧
    ran.2.shell.history.entries = ["nosuch", "clear"] := by
  intro script script' ran ran'
  have hplain : Surroundings.terminalTooPlain plainSurroundings.host.env = false := by
    decide +kernel
  have hlines : ScriptLine.withoutBlanks script = ScriptLine.withoutBlanks script' := by
    decide +kernel
  obtain ⟨⟨hshell, -, hconsole⟩, -⟩ :=
    blank_lines_change_only_status (s := newSession) hplain rfl rfl hlines
  refine ⟨⟨hplain, rfl, rfl, hlines⟩, ⟨hshell, hconsole rfl⟩, ⟨?_, ?_⟩, ?_, ?_⟩ <;> decide +kernel

/-- A blank line at the end of a script changes the status that the session ends with. -/
theorem blank_line_resets_status :
    (runScript plainSurroundings 0 [.text "nosuch"] newSession).1 = .left 127 ∧
      (runScript plainSurroundings 0 [.text "nosuch", .text ""] newSession).1 = .left 0 := by
  constructor <;> decide +kernel

end Session

end PipeShell
