import PipeShell.Proofs.Builtin.Type
import PipeShell.Proofs.Execution.Ending
import PipeShell.Proofs.Execution.OwnFiles
import PipeShell.Proofs.Execution.Single
import PipeShell.Proofs.Token.Expansion

/-!
# What a name stands for when it is run

A line that is one plain word is read as that word.  Then the word is replaced by the tokens of its
alias, if it has one (`Shell.Replaces`), or it is the name of a built-in command, or the first stage
of the line starts the program that is found under it (`Shell.Starts`) or finds none and stops
(`Shell.Misses`).  The stage begins after the line was recorded and reported, but recording and
reporting neither make nor remove a program, so what it finds is what is found before (`starts_iff`,
`misses_iff`).

`type` goes by other means: it looks at the list of the names of the built-in commands, not at the
table that they are run from, and searches for the program itself.  `type_tells_what_runs` says that
it always agrees.
-/

namespace PipeShell.Shell

open Builtin

variable {host : Host} {sh : Shell} {w body path : String}

/-- The stage of a command without arguments. -/
def bareStage (w : String) : Stage := ⟨.word w false, []⟩

/-- Alias expansion replaces the line `w` by the tokens of `body`, and the line is the pipeline that
these tokens write. -/
def Replaces (host : Host) (sh : Shell) (w body : String) : Prop :=
  (∃ ts, Token.scanWith (sh.state.var? host.env) w = .ok ts ∧
    Alias.expand sh.state.alias? (sh.state.var? host.env) ts =
      (Token.scanWith (sh.state.var? host.env) body, [.aliasUsed w body])) ∧
  prepare host sh w =
    ((Token.scanWith (sh.state.var? host.env) body).bind Pipeline.ofTokens, [.aliasUsed w body])

/-- When the line is run, its first stage reports that it starts the program at `path`, calls it,
and comes to what the ending of that call gives. -/
def Starts (host : Host) (sh : Shell) (line path : String) : Prop :=
  ∃ stage input began result left, Executes host line sh 0 stage input began ∧
    runStage host 0 stage input began = (result, left) ∧
    Calls host 0 stage input began path result left

/-- When the line is run, its first stage stops because there is no such command.  It has called
nothing and reported nothing. -/
def Misses (host : Host) (sh : Shell) (line : String) : Prop :=
  ∃ stage input began, Executes host line sh 0 stage input began ∧
    runStage host 0 stage input began =
      (.error ⟨127, .notFound 0 stage.command none⟩, began)

/-! ## Reading the word -/

/-- Expansion of a single word goes by the alias of that word alone. -/
lemma expand_word (aliases : String → Option String) (vars : Lookup) (w : String) :
    Alias.expand aliases vars [.word w false] =
      match aliases w with
      | none => (.ok [.word w false], [])
      | some body => (Token.scanWith vars body, [.aliasUsed w body]) := by
  cases halias : aliases w with
  | none => simp [Alias.expand, Alias.expandFrom, Alias.body?, halias, Except.map]
  | some body =>
      cases hscan : Token.scanWith vars body with
      | error e => simp [Alias.expand, Alias.expandFrom, Alias.body?, halias, hscan, Token.text]
      | ok inserted =>
          simp [Alias.expand, Alias.expandFrom, Alias.body?, halias, hscan, Token.text, Except.map]

/-- A plain word is replaced by its alias, and by nothing else. -/
lemma replaces_iff (hw : IsPlainWord w) :
    Replaces host sh w body ↔ sh.state.alias? w = some body := by
  have hscan : Token.scanWith (sh.state.var? host.env) w = .ok [.word w false] :=
    Token.scanWith_plainWord hw
  have hexpand := expand_word sh.state.alias? (sh.state.var? host.env) w
  constructor
  · rintro ⟨⟨ts, hts, hbody⟩, -⟩
    cases hscan.symm.trans hts
    cases halias : sh.state.alias? w with
    | none =>
        rw [hexpand, halias] at hbody
        cases congrArg Prod.snd hbody
    | some body' =>
        rw [hexpand, halias] at hbody
        cases congrArg Prod.snd hbody
        rfl
  · intro halias
    rw [halias] at hexpand
    refine ⟨⟨_, hscan, hexpand⟩, ?_⟩
    simp only [prepare, hscan, hexpand]

/-- Without an alias the line is one stage. -/
lemma prepare_plainWord (hw : IsPlainWord w) (halias : sh.state.alias? w = none) :
    (prepare host sh w).1 = .ok (.single (bareStage w)) := by
  have hwords : ∀ t ∈ (bareStage w).tokens, t.isOperator = false := by
    simp [bareStage, Stage.tokens, Token.isOperator]
  have hprepare : prepare host sh w = (.ok (.single (bareStage w)), []) :=
    prepare_of_words (Token.scanWith_plainWord hw) halias hwords
  rw [hprepare]

/-! ## Looking for a program -/

/-- What comes before the first stage of a line changes nothing about the programs. -/
lemma find_of_began (host : Host) (sh : Shell) (line name : String) (events : List Event) :
    Program.find host.env ((ready host line sh).report events).disk sh.state name =
      Program.find host.env sh.disk sh.state name :=
  Program.find_eq_of_isRunnable_eq
    ((ownFrame_ready host line sh).trans (ownFrame_report _ events)).isRunnable_eq

/-- What the first stage of a plain word finds, if the word has no alias. -/
lemma executes_plainWord_iff (hw : IsPlainWord w) (halias : sh.state.alias? w = none)
    {stage : Stage} {input : ByteArray} {began : Shell} :
    Executes host w sh 0 stage input began ↔ stage = bareStage w ∧ input = .empty ∧
      began = (ready host w sh).report [.stageBegan 0 (bareStage w).argv] := by
  rw [executes_iff_of_single (Token.not_blank_of_plainWord hw) (prepare_plainWord hw halias)]
  exact ⟨And.right, fun h => ⟨rfl, h⟩⟩

/-- A plain word that is no alias and no built-in command starts the program that is found under it
before the line, and no other. -/
lemma starts_iff (hw : IsPlainWord w) (halias : sh.state.alias? w = none)
    (hbuiltin : ofName? w = none) :
    Starts host sh w path ↔ Program.find host.env sh.disk sh.state w = some path := by
  have hname : ofName? (bareStage w).command = none := hbuiltin
  have hfound := find_of_began host sh w w [.stageBegan 0 (bareStage w).argv]
  rw [← hfound]
  constructor
  · rintro ⟨stage, input, began, result, left, hexecutes, hran, hcalls⟩
    obtain ⟨rfl, rfl, rfl⟩ := (executes_plainWord_iff hw halias).mp hexecutes
    obtain ⟨rfl, rfl⟩ := Prod.mk.inj hran
    exact (calls_runStage_iff hname).mp hcalls
  · intro hfind
    exact ⟨_, _, _, _, _, (executes_plainWord_iff hw halias).mpr ⟨rfl, rfl, rfl⟩, rfl,
      (calls_runStage_iff hname).mpr hfind⟩

/-- It stops if none is found, and only then. -/
lemma misses_iff (hw : IsPlainWord w) (halias : sh.state.alias? w = none)
    (hbuiltin : ofName? w = none) :
    Misses host sh w ↔ Program.find host.env sh.disk sh.state w = none := by
  have hname : ofName? (bareStage w).command = none := hbuiltin
  have hfound := find_of_began host sh w w [.stageBegan 0 (bareStage w).argv]
  rw [← hfound]
  constructor
  · rintro ⟨stage, input, began, hexecutes, hran⟩
    obtain ⟨rfl, rfl, rfl⟩ := (executes_plainWord_iff hw halias).mp hexecutes
    exact (runStage_eq_unknown_iff hname).mp hran
  · intro hfind
    exact ⟨_, _, _, (executes_plainWord_iff hw halias).mpr ⟨rfl, rfl, rfl⟩,
      (runStage_eq_unknown_iff hname).mpr hfind⟩

/-- A line that stops there has no output, and its error names the word. -/
lemma runLine_of_misses (hw : IsPlainWord w) (halias : sh.state.alias? w = none)
    (hmisses : Misses host sh w) :
    (runLine host w sh).1 = ⟨"", "", 127, some (.notFound 0 w none)⟩ := by
  obtain ⟨stage, input, began, hexecutes, hran⟩ := hmisses
  obtain ⟨rfl, rfl, rfl⟩ := (executes_plainWord_iff hw halias).mp hexecutes
  rw [runLine_of_failed (Token.not_blank_of_plainWord hw) (prepare_plainWord hw halias) hran]
  rfl

/-! ## The agreement -/

/-- `type` tells what would run.  A plain word has a text about an alias exactly if alias expansion
replaces it by the tokens of that alias, a text about a built-in command exactly if it has no alias
and is in the table of those commands, and a path exactly if it is neither and the line that is the
word starts the program at this path.  It is not found by `type` exactly if the first stage of the
line finds no program and stops the line.  Several names are told in order, up to the first that is
not found. -/
theorem type_tells_what_runs (host : Host) (sh : Shell) (input : ByteArray) :
    (∀ w, IsPlainWord w →
      (∀ body, Tells (sh.view host input) w (aliasText body) ↔ Replaces host sh w body) ∧
      (Tells (sh.view host input) w builtinText ↔
        sh.state.alias? w = none ∧ (ofName? w).isSome = true) ∧
      (∀ path, TellsPath (sh.view host input) w path ↔
        sh.state.alias? w = none ∧ ofName? w = none ∧ Starts host sh w path) ∧
      ((type.run (sh.view host input) [w]).result = .error (.notFound w) ↔
        sh.state.alias? w = none ∧ ofName? w = none ∧ Misses host sh w ∧
          (runLine host w sh).1 = ⟨"", "", 127, some (.notFound 0 w none)⟩)) ∧
    ∀ args, args ≠ [] → ∃ told rest, args = told.map Prod.fst ++ rest ∧
      (∀ p ∈ told, Tells (sh.view host input) p.1 p.2) ∧
      (type.run (sh.view host input) args).output =
        Text.encode (printLines (tellingLines told)) ∧
      ((rest = [] ∧ (type.run (sh.view host input) args).result = .ok none) ∨
        ∃ bad more, rest = bad :: more ∧
          (type.run (sh.view host input) [bad]).result = .error (.notFound bad) ∧
          (type.run (sh.view host input) args).result = .error (.notFound bad)) := by
  refine ⟨fun w hw => ⟨fun body => ?_, tellsBuiltin_iff hw.1, fun path => ?_, ?_⟩,
    fun args hargs => run_type_splits _ hargs⟩
  · exact (tellsAlias_iff hw.1).trans (replaces_iff hw).symm
  · rw [tellsPath_iff hw.1]
    refine and_congr_right fun halias => and_congr_right fun hbuiltin => ?_
    exact (starts_iff hw halias hbuiltin).symm
  · rw [run_type_notFound_iff]
    refine and_congr_right fun halias => and_congr_right fun hbuiltin => ?_
    refine (misses_iff hw halias hbuiltin).symm.trans ?_
    exact ⟨fun hmisses => ⟨hmisses, runLine_of_misses hw halias hmisses⟩, And.left⟩

/-- A shell with an alias, on a disk with a program. -/
def toolShell : Shell :=
  { newShell (((Disk.empty []).put ["bin"] .directory).put ["bin", "tool"] (.program "tool")) with
    state := ⟨"/", .empty, NameMap.empty.insert "ll" "ls -l", none⟩ }

/-- An alias, a built-in command, a program and a name that stands for nothing. -/
theorem type_tells_what_runs_of_each_kind :
    (Replaces bareHost toolShell "ll" "ls -l" ∧
      Tells (toolShell.view bareHost .empty) "ll" (aliasText "ls -l")) ∧
    Tells (toolShell.view bareHost .empty) "cd" builtinText ∧
    (Starts bareHost toolShell "bin/tool" "/bin/tool" ∧
      TellsPath (toolShell.view bareHost .empty) "bin/tool" "/bin/tool") ∧
    ((type.run (toolShell.view bareHost .empty) ["nope"]).result = .error (.notFound "nope") ∧
      (runLine bareHost "nope" toolShell).1 = ⟨"", "", 127, some (.notFound 0 "nope" none)⟩) ∧
    ∃ told rest, ["cd", "nope", "ll"] = told.map Prod.fst ++ rest ∧
      (type.run (toolShell.view bareHost .empty) ["cd", "nope", "ll"]).output =
        Text.encode (printLines (tellingLines told)) := by
  obtain ⟨hone, hmany⟩ := type_tells_what_runs bareHost toolShell .empty
  obtain ⟨halias, -⟩ := hone "ll" (by decide)
  obtain ⟨-, hbuiltin, -⟩ := hone "cd" (by decide)
  obtain ⟨-, -, hpath, -⟩ := hone "bin/tool" (by decide)
  obtain ⟨-, -, -, hnope⟩ := hone "nope" (by decide)
  have hreplaces : Replaces bareHost toolShell "ll" "ls -l" := ⟨⟨_, rfl, rfl⟩, rfl⟩
  have hfind : Program.find bareHost.env toolShell.disk toolShell.state "bin/tool" =
      some "/bin/tool" := rfl
  have hstarts := (starts_iff (by decide) rfl rfl).mpr hfind
  have hunknown : (type.run (toolShell.view bareHost .empty) ["nope"]).result =
      .error (.notFound "nope") := rfl
  obtain ⟨told, rest, hargs, -, houtput, -⟩ := hmany ["cd", "nope", "ll"] (List.cons_ne_nil _ _)
  exact ⟨⟨hreplaces, (halias _).mpr hreplaces⟩, hbuiltin.mpr ⟨rfl, rfl⟩,
    ⟨hstarts, (hpath _).mpr ⟨rfl, rfl, hstarts⟩⟩,
    ⟨hunknown, (hnope.mp hunknown).2.2.2⟩, told, rest, hargs, houtput⟩

end PipeShell.Shell
