import PipeShell.Proofs.Execution.Completion
import PipeShell.Proofs.Execution.Line
import PipeShell.Proofs.Text.Blank
import PipeShell.Proofs.Text.Fields
import PipeShell.Proofs.Variable.Child

/-!
# The names of aliases

Two things define aliases: the command `alias`, and the lines of a start-up file.  The command takes
no name that is empty or has a blank in it.  The start-up file takes whatever stands before the
equals sign, without the blanks around it.

So a name that could not be given to the command is the name of an alias only where a line of a
start-up file says so (`alias_names_of_reached`).  No alias at all has an equals sign in its name,
or a blank at either end of it.

What is shown of the states is that all their aliases have names of some kind
(`ShellState.AliasesNamed`).  One lemma for each part of the shell says that it keeps this, and the
reachable states have it by induction (`ShellState.Reached`).
-/

namespace PipeShell

/-! ## Where names come from -/

/-- A name that the command `alias` gives: not empty, without blanks, and without equals signs. -/
def Builtin.GivesName (name : String) : Prop :=
  isAliasName name = true ∧ '=' ∉ name.toList

/-- The name of a definition that the built-in command can read is one that it gives. -/
lemma Builtin.givesName_of_aliasDefinition? {arg : String} {p : String × String}
    (h : aliasDefinition? arg = some p) : GivesName p.1 := by
  obtain ⟨hcut, hname⟩ := Option.filter_eq_some_iff.mp h
  obtain ⟨⟨front, rest⟩, hchars, rfl⟩ := Option.map_eq_some_iff.mp hcut
  refine ⟨hname, ?_⟩
  rw [String.toList_ofList]
  exact (Text.eq_append_of_cut hchars).2

/-- Such a name has no blanks around it. -/
lemma Builtin.GivesName.trimText_eq {name : String} (h : GivesName name) :
    Text.trimText name = name := by
  have hblank : ∀ c ∈ name.toList, Text.isBlank c = false := by
    simpa using (Bool.and_eq_true_iff.mp h.1).2
  rw [Text.trimText, Text.trim_eq_self hblank, String.ofList_toList]

/-- A line of a start-up file gives no name with an equals sign, or with a blank at either end. -/
lemma Startup.name_of_read {text name body : String}
    (h : Line.read text = .defineAlias name body) :
    '=' ∉ name.toList ∧ Text.trimText name = name := by
  have hdefinition : ∃ rest, definition .defineAlias rest = .defineAlias name body := by
    rw [Line.read] at h
    split_ifs at h
    split at h
    · unfold definition at h
      split at h <;> cases h
    · split at h
      · exact ⟨_, h⟩
      · cases h
  obtain ⟨rest, hrest⟩ := hdefinition
  unfold definition at hrest
  split at hrest
  · cases hrest
  · next front value hcut =>
    cases hrest
    rw [Text.trimText, String.toList_ofList, Text.trim_trim]
    exact ⟨fun hmem => (Text.eq_append_of_cut hcut).2 (Text.mem_of_mem_trim hmem), rfl⟩

namespace ShellState

variable {s s' : ShellState} {P : String → Prop}

/-- All aliases have names of this kind. -/
def AliasesNamed (P : String → Prop) (s : ShellState) : Prop :=
  ∀ name body, s.alias? name = some body → P name

/-- A new shell has no aliases, so there is nothing to say about their names. -/
lemma aliasesNamed_of_startIn {disk : Disk} {path : String} (h : startIn disk path = .ok s) :
    s.AliasesNamed P := by
  unfold startIn at h
  split at h
  · split_ifs at h
    cases h
    intro name body hname
    cases hname
  · cases h

/-- Only the aliases of a state matter. -/
lemma AliasesNamed.of_eq (h : s.AliasesNamed P) (heq : s'.aliases = s.aliases) :
    s'.AliasesNamed P := by
  intro name body hname
  rw [alias?, heq] at hname
  exact h name body hname

/-- New aliases with names of the kind keep it. -/
lemma AliasesNamed.withAliases (h : s.AliasesNamed P) {definitions : List (String × String)}
    (hnew : ∀ p ∈ definitions, P p.1) : (s.withAliases definitions).AliasesNamed P := by
  intro name body hname
  by_cases hold : ∀ p ∈ definitions, p.1 ≠ name
  · rw [alias?, ShellState.withAliases, NameMap.get?_foldl_insert_of_forall_ne hold] at hname
    exact h name body hname
  · obtain ⟨p, hp, rfl⟩ : ∃ p ∈ definitions, p.1 = name := by simpa using hold
    exact hnew p hp

end ShellState

/-! ## Running lines -/

namespace Shell

variable {host : Host} {index : Nat} {stage : Stage} {input : ByteArray} {sh : Shell}
  {P : String → Prop}

/-- A stage defines aliases only under names that the command `alias` gives. -/
lemma aliasesNamed_of_runStage (hP : ∀ name, Builtin.GivesName name → P name)
    (hsh : sh.state.AliasesNamed P) :
    (runStage host index stage input sh).2.state.AliasesNamed P := by
  rcases hrun : runStage host index stage input sh with ⟨result, left⟩
  cases altered_of_runStage hrun with
  | not hstate => exact hsh.of_eq (congrArg ShellState.aliases hstate)
  | changed _ hasks happlied _ =>
      cases hasks with
      | aliases hnames =>
          generalize left.state = state at happlied ⊢
          cases happlied
          refine hsh.withAliases fun p hp => ?_
          obtain ⟨arg, -, harg⟩ := hnames p hp
          exact hP p.1 (Builtin.givesName_of_aliasDefinition? harg)
      | cd | exit | exports | unset =>
          refine hsh.of_eq (happlied.aliases_eq ?_)
          simp

/-- A line defines aliases only under names that the command `alias` gives. -/
theorem aliasesNamed_of_runLine (hP : ∀ name, Builtin.GivesName name → P name) (line : String)
    (hsh : sh.state.AliasesNamed P) : (runLine host line sh).2.state.AliasesNamed P := by
  cases hblank : Text.isAllBlank line with
  | true => rwa [runLine_of_blank hblank]
  | false =>
      cases hline : (prepare host sh line).1 with
      | error e => rwa [runLine_of_rejected hblank hline]
      | ok p =>
          obtain ⟨outs, stop, left, hrun⟩ := exists_runs host 0 p.stages .empty (ready host line sh)
          rw [runLine_of_prepared hblank hline, (keeps_of_execute hrun).1]
          refine hrun.keeps (fun sh => sh.state.AliasesNamed P) (fun _ _ h => ?_)
            (fun _ _ _ _ _ h => ?_) hsh
          · exact h
          · exact aliasesNamed_of_runStage hP h

end Shell

/-! ## Loading start-up files -/

namespace Startup

variable {env : Environment} {s : ShellState} {P : String → Prop}

/-- A line of the start-up file defines at most the alias that it names. -/
lemma aliasesNamed_of_applyLine {line : Line} {s' : ShellState} {counts : Bool}
    (hP : ∀ name body, line = .defineAlias name body → P name)
    (h : applyLine env s line = .ok (s', counts)) (hs : s.AliasesNamed P) : s'.AliasesNamed P := by
  cases line with
  | nothing | unknown =>
      cases h
      exact hs
  | «variable» name value =>
      obtain ⟨set, hset, heq⟩ := map_eq_ok_iff.mp h
      cases heq
      obtain ⟨overlay, -, rfl⟩ := map_eq_ok_iff.mp hset
      exact hs
  | defineAlias name body =>
      cases h
      have hnew : ∀ p ∈ [(name, body)], P p.1 := by simpa using hP name body rfl
      exact hs.withAliases hnew

/-- Lines define aliases only under the names that they give. -/
lemma aliasesNamed_of_applyLines {texts : List String} {number applied : Nat}
    (hP : ∀ text ∈ texts, ∀ name body, Line.read text = .defineAlias name body → P name)
    (hs : s.AliasesNamed P) : (applyLines env number applied s texts).state.AliasesNamed P := by
  induction texts generalizing number applied s with
  | nil => exact hs
  | cons text texts ih =>
      obtain ⟨htext, htexts⟩ := List.forall_mem_cons.mp hP
      unfold applyLines
      dsimp only
      split
      · exact hs
      · next s' counts happly => exact ih htexts (aliasesNamed_of_applyLine htext happly hs)

/-- The lines of a start-up file; none where it cannot be read. -/
def linesOf (disk : Disk) (path : String) : List String :=
  match disk.readText path with
  | .ok text => Text.lines text
  | .error _ => []

/-- A start-up file defines aliases only under the names that its lines give. -/
theorem aliasesNamed_of_load {disk : Disk} {path : String}
    (hP : ∀ text ∈ linesOf disk path, ∀ name body, Line.read text = .defineAlias name body → P name)
    (hs : s.AliasesNamed P) : (load env disk path s).state.AliasesNamed P := by
  unfold load
  split_ifs
  · exact hs
  · cases hread : disk.readText path with
    | error fault => exact hs
    | ok text =>
        rw [linesOf, hread] at hP
        dsimp only
        split
        · exact aliasesNamed_of_applyLines hP hs
        · exact aliasesNamed_of_applyLines hP hs

end Startup

/-! ## All reachable states -/

namespace ShellState

/-- The states that a shell can come to, from a new one, by loading start-up files and running lines
in any order, with the lines of all files that were loaded. -/
inductive Reached (host : Host) : List String → ShellState → Prop
  | start {disk : Disk} {path : String} {s : ShellState} (h : startIn disk path = .ok s) :
      Reached host [] s
  /-- The file is loaded up to its end, or up to the line that is refused. -/
  | loaded {texts : List String} {s : ShellState} (h : Reached host texts s) (disk : Disk)
      (path : String) :
      Reached host (texts ++ Startup.linesOf disk path) (Startup.load host.env disk path s).state
  /-- The line is run with any history, and on any disk. -/
  | line {texts : List String} {sh : Shell} (h : Reached host texts sh.state) (line : String) :
      Reached host texts (Shell.runLine host line sh).2.state

variable {host : Host} {texts : List String} {s : ShellState} {name body : String}

/-- The name has no equals sign and no blank at either end, and the command `alias` could have given
it, or one of these lines of a start-up file does. -/
def AliasNameFrom (texts : List String) (name : String) : Prop :=
  '=' ∉ name.toList ∧ Text.trimText name = name ∧
    (Builtin.isAliasName name = true ∨
      ∃ text ∈ texts, ∃ body, Startup.Line.read text = .defineAlias name body)

/-- A name from the built-in command is allowed, whatever texts were read. -/
lemma aliasNameFrom_of_givesName (h : Builtin.GivesName name) : AliasNameFrom texts name :=
  ⟨h.2, h.trimText_eq, .inl h.1⟩

/-- So is a name from a line of one of the texts. -/
lemma aliasNameFrom_of_read {text : String} (hmem : text ∈ texts)
    (h : Startup.Line.read text = .defineAlias name body) : AliasNameFrom texts name :=
  ⟨(Startup.name_of_read h).1, (Startup.name_of_read h).2, .inr ⟨text, hmem, body, h⟩⟩

/-- Reading more texts allows no fewer names. -/
lemma AliasNameFrom.append (h : AliasNameFrom texts name) (more : List String) :
    AliasNameFrom (texts ++ more) name := by
  obtain ⟨hsign, htrim, hfrom⟩ := h
  refine ⟨hsign, htrim, hfrom.imp_right ?_⟩
  rintro ⟨text, hmem, hread⟩
  exact ⟨text, List.mem_append_left more hmem, hread⟩

/-- All aliases of a state that a shell can come to have such names. -/
lemma aliasesNamed_of_reached (h : Reached host texts s) :
    s.AliasesNamed (AliasNameFrom texts) := by
  induction h with
  | start h => exact aliasesNamed_of_startIn h
  | loaded _ disk path ih =>
      refine Startup.aliasesNamed_of_load (fun text hmem name body hread => ?_) ?_
      · exact aliasNameFrom_of_read (List.mem_append_right _ hmem) hread
      · exact fun name body hname => (ih name body hname).append _
  | line _ line ih =>
      exact Shell.aliasesNamed_of_runLine (fun _ => aliasNameFrom_of_givesName) line ih

/-- In every state that a shell can come to, an alias has no equals sign in its name and no blank at
either end of it, and the name is not empty and has no blank inside, unless a line of a start-up
file gives just this name. -/
theorem alias_names_of_reached (h : Reached host texts s) (hname : s.alias? name = some body) :
    '=' ∉ name.toList ∧ Text.trimText name = name ∧
      (Builtin.isAliasName name = true ∨
        ∃ text ∈ texts, ∃ body, Startup.Line.read text = .defineAlias name body) :=
  aliasesNamed_of_reached h name body hname

/-- A disk with a start-up file that defines two aliases which the command `alias` would not. -/
def oddStartupDisk : Disk :=
  (Disk.empty []).put ["rc"] (.file (Text.encode "alias =x\nalias a b=y\n") false)

/-- A new state with this file loaded. -/
def oddStartupState : ShellState :=
  (Startup.load Shell.bareHost.env oddStartupDisk "/rc" ⟨"/", .empty, ∅, none⟩).state

/-- Of two aliases, one comes from the start-up file and one from a command. -/
theorem alias_names_of_reached_after_both :
    let s := (Shell.runLine Shell.bareHost "alias ll='ls -l'"
      (.ofParts oddStartupState .inMemory oddStartupDisk)).2.state
    let texts := ["alias =x", "alias a b=y"]
    Reached Shell.bareHost texts s ∧ s.alias? "a b" = some "y" ∧ s.alias? "ll" = some "ls -l" ∧
      AliasNameFrom texts "a b" ∧ AliasNameFrom texts "ll" := by
  intro s texts
  have hreached : Reached Shell.bareHost texts s := by
    have hstart : startIn oddStartupDisk "/" = .ok ⟨"/", .empty, ∅, none⟩ := rfl
    exact .line (.loaded (.start hstart) oddStartupDisk "/rc") "alias ll='ls -l'"
  have hfile : s.alias? "a b" = some "y" := by decide +kernel
  have hcommand : s.alias? "ll" = some "ls -l" := by decide +kernel
  exact ⟨hreached, hfile, hcommand, alias_names_of_reached hreached hfile,
    alias_names_of_reached hreached hcommand⟩

/-- The start-up file has defined an alias without a name, and one with a blank in its name. -/
theorem startup_file_breaks_alias_rule :
    (∃ texts, Reached Shell.bareHost texts oddStartupState) ∧
      oddStartupState.alias? "" = some "x" ∧ Builtin.isAliasName "" = false ∧
      oddStartupState.alias? "a b" = some "y" ∧ Builtin.isAliasName "a b" = false := by
  have hstart : startIn oddStartupDisk "/" = .ok ⟨"/", .empty, ∅, none⟩ := rfl
  refine ⟨⟨_, .loaded (.start hstart) oddStartupDisk "/rc"⟩, ?_, rfl, ?_, rfl⟩ <;> decide +kernel

end ShellState

end PipeShell
