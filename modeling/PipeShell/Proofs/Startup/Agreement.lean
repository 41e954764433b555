import PipeShell.Proofs.Results
import PipeShell.Proofs.Startup.Definition

/-!
# Start-up files and command lines agree

A plain definition does the same to the state of a shell, whether its line stands in a start-up file
or is run (`PlainDefinition.applyLine_line`, `Shell.runLine_line`): either way it is
`PlainDefinition.apply`, which fails only for a name that is no variable's and for an empty search
path.

So loading a file of such lines and running the lines go side by side (`Startup.applyLines_agrees`),
with the same state in front of each line, up to the first that fails in both.  What keeps them
together is that no alias ever stands for one of the two commands (`ShellState.KeywordsFree`).
-/

namespace PipeShell

variable {name : String}

/-! ## The two commands -/

namespace Builtin

/-- Any plain word can name an alias. -/
lemma isAliasName_of_plainWord (hname : IsPlainWord name) : isAliasName name = true := by
  have hblank : ∀ c ∈ name.toList, Text.isBlank c = false :=
    fun c hc => (isBare_iff.mp (hname.1.2 c hc)).1
  simpa [isAliasName, hname.1.1] using hblank

/-- A definition of one alias asks for that alias. -/
lemma aliasCommand_of_name (s : ShellState) (hname : isAliasName name = true)
    (hequals : '=' ∉ name.toList) (value : String) :
    aliasCommand s [name ++ "=" ++ value] = .ask (.setAliases [(name, value)]) := by
  have hdefinition : aliasDefinition? (name ++ "=" ++ value) = some (name, value) := by
    rw [aliasDefinition?, Text.cutText_assignment hequals]
    exact Option.filter_some_pos hname
  simp [aliasCommand, aliasArgs, hdefinition, Report.ask]

/-- No variable can have another name than a valid one. -/
lemma exportCommand_of_not_valid (s : ShellState) (hname : isValidName name = false)
    (hequals : '=' ∉ name.toList) (value : String) :
    ∃ e, exportCommand s [name ++ "=" ++ value] = .fail e := by
  have hassignment : assignment? (name ++ "=" ++ value) = none := by
    rw [assignment?, Text.cutText_assignment hequals]
    exact Option.filter_some_neg (by simp [hname])
  simp [exportCommand, hassignment]

end Builtin

/-- A variable cannot be set under a name that it cannot have. -/
lemma ShellState.setVar_of_not_valid (s : ShellState) (hname : isValidName name = false)
    (value : String) : ∃ e, s.setVar (name, value) = .error e := by
  simp only [setVar, Overlay.set, hname, Bool.not_false, if_true]
  split_ifs <;> exact ⟨_, rfl⟩

/-- The built-in command of the keyword. -/
def Keyword.builtin : Keyword → Builtin
  | exports => .exports
  | aliases => .aliases

namespace PlainDefinition

variable (d : PlainDefinition)

/-- The change of state that the command asks for. -/
def change (d : PlainDefinition) : Change :=
  match d.keyword with
  | .exports => .setVars [(d.name, d.value)]
  | .aliases => .setAliases [(d.name, d.value)]

/-- The change that is asked for is what the definition does. -/
lemma apply_change (s : ShellState) (disk : Disk) :
    s.apply disk d.change =
      match d.apply s with
      | .ok s' => (s', none)
      | .error e => (s, some e) := by
  unfold change apply
  cases d.keyword with
  | exports =>
      change ShellState.applyEach ShellState.setVar s [(d.name, d.value)] = _
      rw [ShellState.applyEach]
      cases s.setVar (d.name, d.value) <;> rfl
  | aliases => rfl

/-- The command asks for the change, or it fails at a name at which the definition is refused. -/
lemma run_builtin (v : View) :
    d.keyword.builtin.run v [d.name ++ "=" ++ d.value] = v.keep (.ask d.change) ∨
      ∃ e, d.keyword.builtin.run v [d.name ++ "=" ++ d.value] = v.keep (.fail e) ∧
        ∃ e', d.apply v.state = .error e' := by
  unfold change apply
  cases hkeyword : d.keyword with
  | exports =>
      cases hname : isValidName d.name with
      | true => exact .inl (congrArg v.keep (Builtin.exportCommand_of_name v.state hname d.value))
      | false =>
          obtain ⟨e, hfail⟩ :=
            Builtin.exportCommand_of_not_valid v.state hname d.equals_not_mem d.value
          exact .inr ⟨e, congrArg v.keep hfail, v.state.setVar_of_not_valid hname d.value⟩
  | aliases =>
      have hname := Builtin.isAliasName_of_plainWord d.name_plain
      exact .inl (congrArg v.keep
        (Builtin.aliasCommand_of_name v.state hname d.equals_not_mem d.value))

end PlainDefinition

/-- No alias stands for one of the two commands. -/
def ShellState.KeywordsFree (s : ShellState) : Prop := ∀ k : Keyword, s.alias? k.name = none

/-! ## One line -/

namespace Shell

variable {host : Host} {k : Nat} {stage : Stage} {b : Builtin} {input : ByteArray} {began : Shell}

/-- The stage of a built-in command that fails. -/
lemma runBuiltin_of_fail {e : CommandError}
    (hrun : b.run (began.view host input) stage.args = (began.view host input).keep (.fail e)) :
    ∃ failure left, runBuiltin host k stage b input began = (.error failure, left) ∧
      left.state = began.state := by
  rw [runBuiltin, hrun]
  exact ⟨_, _, rfl, rfl⟩

/-- The stage of a built-in command that asks for a change of state and is refused. -/
lemma runBuiltin_of_refused {change : Change} {e : StateError}
    (hrun : b.run (began.view host input) stage.args = (began.view host input).keep (.ask change))
    (happly : ∀ disk, began.state.apply disk change = (began.state, some e)) :
    ∃ failure left, runBuiltin host k stage b input began = (.error failure, left) ∧
      left.state = began.state := by
  rw [runBuiltin, hrun]
  simp only [View.keep, Report.ask, after, report_state, happly]
  exact ⟨_, _, rfl, rfl⟩

variable (d : PlainDefinition) {s : ShellState} {e : StateError}

/-- The stage that the line of a definition consists of. -/
def definitionStage (d : PlainDefinition) : Stage :=
  wordStage d.keyword.name (d.name ++ "=" ++ d.value) d.quoting.isQuoted

/-- The stage of a definition is the built-in command of its keyword. -/
lemma runStage_definitionStage (host : Host) (k : Nat) (input : ByteArray) (began : Shell) :
    runStage host k (definitionStage d) input began =
      runBuiltin host k (definitionStage d) d.keyword.builtin input began := by
  have hname : Builtin.ofName? (definitionStage d).command = some d.keyword.builtin := by
    change Builtin.ofName? d.keyword.name = _
    cases d.keyword <;> rfl
  rw [runStage, hname]

/-- A definition that is accepted changes the state, and its stage completes in silence. -/
lemma runStage_of_apply_ok (host : Host) (input : ByteArray) (h : d.apply began.state = .ok s) :
    ∃ left, runStage host 0 (definitionStage d) input began = (.ok ⟨.empty, .empty, 0⟩, left) ∧
      left.state = s := by
  rw [runStage_definitionStage]
  rcases d.run_builtin (began.view host input) with hrun | ⟨-, -, e, he⟩
  · exact runBuiltin_of_ask hrun fun disk => by rw [d.apply_change, h]
  · cases h.symm.trans he

/-- A definition that is refused leaves the state as it was, and its stage fails. -/
lemma runStage_of_apply_error (host : Host) (input : ByteArray)
    (h : d.apply began.state = .error e) :
    ∃ failure left, runStage host 0 (definitionStage d) input began = (.error failure, left) ∧
      left.state = began.state := by
  rw [runStage_definitionStage]
  rcases d.run_builtin (began.view host input) with hrun | ⟨error, hrun, -⟩
  · exact runBuiltin_of_refused hrun fun disk => by rw [d.apply_change, h]
  · exact runBuiltin_of_fail hrun

/-- The line of a definition is that stage. -/
lemma prepare_line (host : Host) {sh : Shell} (hfree : sh.state.KeywordsFree) :
    (prepare host sh d.line).1 = .ok (.single (definitionStage d)) :=
  prepare_of_two_words (d.scanWith_line _) (hfree d.keyword)

/-- On the command line a definition does to the state what it says, and the line succeeds unless
the definition is refused. -/
theorem runLine_line (host : Host) {sh : Shell} (hfree : sh.state.KeywordsFree) :
    (∀ s, d.apply sh.state = .ok s → (runLine host d.line sh).1.success = true ∧
      (runLine host d.line sh).2.state = s) ∧
    ∀ e, d.apply sh.state = .error e → (runLine host d.line sh).1.success = false ∧
      (runLine host d.line sh).2.state = sh.state := by
  have hblank := Token.not_blank_of_scan (d.scanWith_line fun _ => none)
  have hline := prepare_line d host hfree
  -- the stage begins in the state that the line begins in
  let began := (ready host d.line sh).report [.stageBegan 0 (definitionStage d).argv]
  have hstart : began.state = sh.state := rfl
  rw [← hstart]
  constructor
  · intro s happly
    obtain ⟨left, hran, hstate⟩ := runStage_of_apply_ok d host .empty happly
    rw [runLine_of_completed hblank hline hran, completedResult_of_output]
    exact ⟨rfl, hstate⟩
  · intro e happly
    obtain ⟨failure, left, hran, hstate⟩ := runStage_of_apply_error d host .empty happly
    rw [runLine_of_failed hblank hline hran]
    exact ⟨Bool.and_false _, hstate⟩

/-! ## Lines up to the first that fails -/

/-- Runs lines up to the first that fails, with its number, if there is one.  The first line has the
number `number`. -/
def runUntilFailure (host : Host) (number : Nat) : List String → Shell → Option Nat × Shell
  | [], sh => (none, sh)
  | line :: rest, sh =>
    let ran := runLine host line sh
    if ran.1.success then runUntilFailure host (number + 1) rest ran.2 else (some number, ran.2)

variable {number : Nat} {line : String} {rest : List String} {sh : Shell}

/-- After a line that succeeds the others are run. -/
lemma runUntilFailure_cons_of_success (h : (runLine host line sh).1.success = true) :
    runUntilFailure host number (line :: rest) sh =
      runUntilFailure host (number + 1) rest (runLine host line sh).2 := by
  simp only [runUntilFailure, h, if_true]

/-- After a line that fails no other is run. -/
lemma runUntilFailure_cons_of_failure (h : (runLine host line sh).1.success = false) :
    runUntilFailure host number (line :: rest) sh = (some number, (runLine host line sh).2) := by
  simp only [runUntilFailure, h, Bool.false_eq_true, if_false]

end Shell

/-- A definition leaves the two commands free of aliases. -/
lemma PlainDefinition.keywordsFree_of_apply (d : PlainDefinition) {s s' : ShellState}
    (h : d.apply s = .ok s') (hfree : s.KeywordsFree) : s'.KeywordsFree := by
  unfold apply at h
  cases hkeyword : d.keyword with
  | exports =>
      rw [hkeyword] at h
      obtain ⟨overlay, -, rfl⟩ := map_eq_ok_iff.mp h
      exact hfree
  | aliases =>
      rw [hkeyword] at h
      cases h
      intro k
      have hne : k.name ≠ d.name := (d.name_free hkeyword k).symm
      exact (NameMap.get?_insert_of_ne _ hne _).trans (hfree k)

namespace Startup

open Shell

variable {env : Environment} {number applied : Nat} {s s' : ShellState} {text : String}
  {texts : List String}

/-- A line that cannot be applied ends the file, and its number is told. -/
lemma applyLines_cons_of_error {e : StateError} (h : applyLine env s (.read text) = .error e) :
    applyLines env number applied s (text :: texts) =
      ⟨s, .error (.invalidLine number e.message), (Line.read text).events⟩ := by
  rw [applyLines]
  simp only [h]

/-- A line that is applied and counts is followed by the next one, with one more applied. -/
lemma applyLines_cons_of_ok (h : applyLine env s (.read text) = .ok (s', true)) :
    (applyLines env number applied s (text :: texts)).state =
        (applyLines env (number + 1) (applied + 1) s' texts).state ∧
      (applyLines env number applied s (text :: texts)).result =
        (applyLines env (number + 1) (applied + 1) s' texts).result := by
  rw [applyLines]
  simp only [h, if_true, and_self]

/-- A file that can be read is loaded line by line. -/
lemma load_of_readText (env : Environment) (s : ShellState) {disk : Disk} {path : String}
    (hread : disk.readText path = .ok text) :
    (load env disk path s).state = (applyLines env 1 0 s (Text.lines text)).state ∧
      (load env disk path s).result = (applyLines env 1 0 s (Text.lines text)).result := by
  have hexists : disk.pathExists path = true := by
    unfold Disk.pathExists
    cases hlook : disk.lookUp path with
    | ok found => rfl
    | error fault =>
        rw [Disk.readText, Disk.readBytes, hlook] at hread
        cases hread
  unfold load
  simp only [hexists, Bool.not_true, Bool.false_eq_true, if_false, hread]
  split
  · exact ⟨rfl, rfl⟩
  · exact ⟨rfl, rfl⟩

/-- How loading and running end, if they end alike: both accept all lines, or both stop at the same
one. -/
inductive EndsAlike (count : Nat) : Except ConfigError Nat → Option Nat → Prop
  | all : EndsAlike count (.ok count) none
  | stopped (number : Nat) (reason : String) :
      EndsAlike count (.error (.invalidLine number reason)) (some number)

/-- No line failed exactly if all lines were applied. -/
lemma EndsAlike.eq_none_iff {count : Nat} {result : Except ConfigError Nat} {stop : Option Nat}
    (h : EndsAlike count result stop) : stop = none ↔ result = .ok count := by
  cases h with
  | all => exact iff_of_true rfl rfl
  | stopped number reason => exact iff_of_false nofun nofun

/-- A line failed exactly if the file was refused at that line. -/
lemma EndsAlike.eq_some_iff {count : Nat} {result : Except ConfigError Nat} {stop : Option Nat}
    (h : EndsAlike count result stop) (number : Nat) :
    stop = some number ↔ ∃ reason, result = .error (.invalidLine number reason) := by
  cases h with
  | all => exact iff_of_false nofun nofun
  | stopped number' reason =>
      refine ⟨fun heq => ⟨reason, Option.some.inj heq ▸ rfl⟩, ?_⟩
      rintro ⟨reason', heq⟩
      cases heq
      rfl

/-- Loading and running leave the same state and end alike. -/
structure Agrees (count : Nat) (loaded : Loaded) (ran : Option Nat × Shell) : Prop where
  state_eq : loaded.state = ran.2.state
  ends : EndsAlike count loaded.result ran.1

/-- The lines of definitions do the same in both ways, whatever lines were before them. -/
theorem applyLines_agrees (host : Host) (ds : List PlainDefinition) (number applied : Nat)
    {sh : Shell} (hfree : sh.state.KeywordsFree) :
    Agrees (applied + ds.length)
      (applyLines host.env number applied sh.state (ds.map PlainDefinition.line))
      (runUntilFailure host number (ds.map PlainDefinition.line) sh) := by
  induction ds generalizing number applied sh with
  | nil => exact ⟨rfl, .all⟩
  | cons d ds ih =>
      obtain ⟨haccepted, hrefused⟩ := runLine_line d host hfree
      have hline := d.applyLine_line host.env sh.state
      rw [List.map_cons]
      cases happly : d.apply sh.state with
      | error e =>
          obtain ⟨hfails, hstate⟩ := hrefused e happly
          rw [happly] at hline
          rw [applyLines_cons_of_error hline, runUntilFailure_cons_of_failure hfails]
          exact ⟨hstate.symm, .stopped _ _⟩
      | ok s =>
          obtain ⟨hsucceeds, hstate⟩ := haccepted s happly
          rw [happly, ← hstate] at hline
          -- a definition makes no alias for a keyword, so the next line is read as it is written
          have hfree' := d.keywordsFree_of_apply happly hfree
          rw [← hstate] at hfree'
          obtain ⟨hrest, hends⟩ := ih (number + 1) (applied + 1) hfree'
          obtain ⟨hleft, hresult⟩ := applyLines_cons_of_ok hline
          rw [runUntilFailure_cons_of_success hsucceeds]
          refine ⟨hleft.trans hrest, ?_⟩
          rw [hresult, List.length_cons, Nat.add_comm ds.length, ← Nat.add_assoc]
          exact hends

/-- A start-up file and the command line agree about plain definitions.  Whatever file has these
lines, loading it leaves the state that running the lines does, up to and including the first that
fails.  Loading fails exactly where a line fails, with the number of the first of them, and counts
all lines otherwise.  There is such a file: each line ended by a newline. -/
theorem loading_agrees_with_running (host : Host) (ds : List PlainDefinition) :
    let lines := ds.map PlainDefinition.line
    Text.lines (String.join (lines.map (· ++ "\n"))) = lines ∧
    ∀ (sh : Shell) (disk : Disk) (path text : String), disk.readText path = .ok text →
      Text.lines text = lines → sh.state.KeywordsFree →
      let loaded := load host.env disk path sh.state
      let ran := runUntilFailure host 1 lines sh
      loaded.state = ran.2.state ∧
      (ran.1 = none ↔ loaded.result = .ok ds.length) ∧
      ∀ number, ran.1 = some number ↔
        ∃ reason, loaded.result = .error (.invalidLine number reason) := by
  intro lines
  refine ⟨Text.lines_join_newline ?_, ?_⟩
  · intro text htext
    obtain ⟨d, -, rfl⟩ := List.mem_map.mp htext
    exact d.one_line
  · intro sh disk path text hread hlines hfree loaded ran
    obtain ⟨hleft, hresult⟩ := load_of_readText host.env sh.state hread
    obtain ⟨hstate, hends⟩ := applyLines_agrees host ds 1 0 hfree
    rw [hlines] at hleft hresult
    rw [← hresult, Nat.zero_add] at hends
    exact ⟨hleft.trans hstate, hends.eq_none_iff, hends.eq_some_iff⟩

/-- Definitions with an equals sign and blanks in their values, of which the third is refused. -/
def mixedDefinitions : List PlainDefinition :=
  [⟨.exports, "A", .bare, "1=2", by decide, by decide, by decide, nofun⟩,
   ⟨.aliases, "ll", .single, "ls | cat", by decide, by decide, by decide,
    fun _ k => by cases k <;> decide⟩,
   ⟨.exports, "PATH", .double, "", by decide, by decide, by decide, nofun⟩,
   ⟨.exports, "B", .bare, "", by decide, by decide, by decide, nofun⟩]

/-- A file of these, and a new shell.  Both readers stop at the third line. -/
theorem loading_agrees_with_running_up_to_empty_path :
    let text := "export A=1=2\nalias ll='ls | cat'\nexport PATH=\"\"\nexport B="
    let disk := (Disk.empty []).put ["rc"] (.file (Text.encode text) false)
    let sh := newShell disk
    let lines := mixedDefinitions.map PlainDefinition.line
    disk.readText "/rc" = .ok text ∧ Text.lines text = lines ∧ sh.state.KeywordsFree ∧
    (load bareHost.env disk "/rc" sh.state).state = (runUntilFailure bareHost 1 lines sh).2.state ∧
    (load bareHost.env disk "/rc" sh.state).state.alias? "ll" = some "ls | cat" ∧
    (runUntilFailure bareHost 1 lines sh).1 = some 3 ∧
    ∃ reason, (load bareHost.env disk "/rc" sh.state).result = .error (.invalidLine 3 reason) := by
  intro text disk sh lines
  have hread : disk.readText "/rc" = .ok text := by decide +kernel
  have hlines : Text.lines text = lines := by decide +kernel
  have hfree : sh.state.KeywordsFree := fun k => rfl
  have halias : (load bareHost.env disk "/rc" sh.state).state.alias? "ll" = some "ls | cat" := by
    decide +kernel
  have hran : (runUntilFailure bareHost 1 lines sh).1 = some 3 := by decide +kernel
  obtain ⟨hstate, -, hstop⟩ := (loading_agrees_with_running bareHost mixedDefinitions).2
    sh disk "/rc" text hread hlines hfree
  exact ⟨hread, hlines, hfree, hstate, halias, hran, (hstop 3).mp hran⟩

end Startup

end PipeShell
