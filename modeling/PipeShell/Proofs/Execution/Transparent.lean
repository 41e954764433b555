import PipeShell.Proofs.Execution.Redirection
import PipeShell.Proofs.Execution.Separate
import PipeShell.Proofs.Execution.Waiting
import PipeShell.Proofs.Text.Utf8

/-!
# A stage that only copies

`cat` without arguments prints the text that is piped into it.  As a stage of a pipeline it is
therefore transparent but for one thing: text is decoded and encoded again, so bytes that are no
text do not come through as they were (`bare_cat_is_transparent`).

The pipeline with one more stage is set beside the pipeline itself, run with the bytes at that place
replaced (`executeVia`).  Up to there the two do the same.  From there on they are in shells that
differ in their records only, and the stages of the one count one higher than those of the other
(`runStages_oneLater`).

Log records name the index of their stage, so the shells here write to no log file.
-/

namespace PipeShell

/-- The same error when the stages from `k` on count one higher. -/
def ExecError.makeRoom (k : Nat) (e : ExecError) : ExecError :=
  match e.stage? with
  | some stage => if k ≤ stage then e.atStage (stage + 1) else e
  | none => e

namespace StageFailure

/-- The same failure when the stages from `k` on count one higher. -/
def makeRoom (k : Nat) (failure : StageFailure) : StageFailure :=
  ⟨failure.status, failure.error.makeRoom k⟩

variable {failure : StageFailure} {index k : Nat} {name : String}

/-- A failure of a stage in front of the new one stays where it is. -/
lemma Names.makeRoom_of_lt (h : failure.Names index name) (hlt : index < k) :
    failure.makeRoom k = failure := by
  simp only [makeRoom, ExecError.makeRoom, h.stage_eq, if_neg (Nat.not_le.mpr hlt)]

/-- A failure of a stage behind it moves by one. -/
lemma Names.makeRoom_of_le (h : failure.Names index name) (hle : k ≤ index) :
    failure.makeRoom k = failure.atStage (index + 1) := by
  simp only [makeRoom, ExecError.makeRoom, h.stage_eq, if_pos hle, atStage]

/-- The failure of a program at another stage is the same, but for the index. -/
lemma ofProgram_atStage (i j : Nat) (name : String) (e : ProgramError) :
    (ofProgram i name e).atStage j = ofProgram j name e := by
  cases e <;> rfl

end StageFailure

namespace Pipeline

/-- The pipeline with one more stage at position `k`. -/
def insert (p : Pipeline) (k : Nat) (s : Stage) : Pipeline :=
  ⟨p.stages.take k ++ s :: p.stages.drop k, p.redirection, by simp⟩

/-- An error of the pipeline as it reads with one more stage `s` at position `k`: the stages from
there on count one higher.  A redirection that fails is an error of the last stage, and this is `s`
where `s` stands behind all others. -/
def errorWith (p : Pipeline) (k : Nat) (s : Stage) : ExecError → ExecError
  | .io stage command path fault =>
    .io (stage + 1) (if k < p.length then command else s.command) path fault
  | e => e.makeRoom k

variable {p : Pipeline} {k : Nat} {s : Stage}

/-- An inserted stage is one more. -/
lemma length_insert (p : Pipeline) (k : Nat) (s : Stage) :
    (p.insert k s).length = p.length + 1 := by
  simp [insert, length]
  omega

/-- So the last index moves by one. -/
lemma lastIndex_insert (p : Pipeline) (k : Nat) (s : Stage) :
    (p.insert k s).lastIndex = p.lastIndex + 1 := by
  rw [lastIndex, lastIndex, length_insert, Nat.add_sub_cancel, Nat.sub_add_cancel p.length_pos]

/-- The last stage is the old one, unless the new one was put behind it. -/
lemma last_insert (p : Pipeline) (k : Nat) (s : Stage) :
    (p.insert k s).last = if k < p.length then p.last else s := by
  unfold insert last length
  dsimp only
  split_ifs with hk
  · have hdrop : p.stages.drop k ≠ [] := by simpa using hk
    rw [List.getLast_append_of_ne_nil _ (List.cons_ne_nil _ _), List.getLast_cons hdrop,
      List.getLast_drop]
  · have hdrop : p.stages.drop k = [] := by simpa using hk
    simp [hdrop]

/-- An error that does not come from the redirection only makes room for the new stage. -/
lemma errorWith_of_not_isIo {e : ExecError} (h : ¬ e.IsIo) : p.errorWith k s e = e.makeRoom k := by
  cases e with
  | io => exact absurd trivial h
  | parse | notFound | execution => rfl

end Pipeline

namespace Shell

variable {host : Host} {sh sh' left : Shell} {stage : Stage} {stages : List Stage}
  {index k : Nat} {f f' : Flow} {input : ByteArray} {failure : StageFailure}

/-! ## One stage at another index -/

/-- What a built-in command hands on, if it completes, is what it has printed. -/
lemma output_of_builtin {b : Builtin} {o : StageOutput}
    (h : (runBuiltin host k stage b input sh).1 = .ok o) :
    o = ⟨(b.run (sh.view host input) stage.args).output, .empty, 0⟩ := by
  simp only [runBuiltin] at h
  split at h
  · cases h
  · exact (Except.ok.inj h).symm
  · split at h
    · exact (Except.ok.inj h).symm
    · cases h

/-- A built-in command does the same at another index, and an error is then about that index. -/
lemma runBuiltin_atStage (h : SameWorld sh sh') (host : Host) (k j : Nat) (stage : Stage)
    (b : Builtin) (input : ByteArray) :
    (runBuiltin host k stage b input sh).1 =
        (runBuiltin host j stage b input sh').1.mapError (StageFailure.atStage k) ∧
      SameWorld (runBuiltin host k stage b input sh).2
        (runBuiltin host j stage b input sh').2 := by
  obtain ⟨hend, hworld⟩ := runBuiltin_sameWorld h host k j stage b input input
  refine ⟨?_, hworld⟩
  rcases hran : (runBuiltin host k stage b input sh).1 with failure | o <;>
    rcases hran' : (runBuiltin host j stage b input sh').1 with failure' | o' <;>
    rw [hran, hran'] at hend <;> cases hend
  · rfl
  · have hview : sh'.view host input = sh.view host input := h.view_eq host input input
    rw [output_of_builtin hran, output_of_builtin hran', hview]
    rfl

/-- So does a program. -/
lemma runProgram_atStage (h : SameWorld sh sh') (host : Host) (k j : Nat) (stage : Stage)
    (input : ByteArray) :
    (runProgram host k stage input sh).1 =
        (runProgram host j stage input sh').1.mapError (StageFailure.atStage k) ∧
      SameWorld (runProgram host k stage input sh).2 (runProgram host j stage input sh').2 := by
  have hdisk := fun events => report_disk h.logFile_eq_none events
  have hdisk' := fun events => report_disk h.logFile_eq_none' events
  simp only [runProgram, report_state, hdisk, hdisk', ← h.state_eq, ← h.disk_eq]
  cases Program.find host.env sh.disk sh.state stage.command with
  | none => exact ⟨rfl, h⟩
  | some program =>
      refine ⟨?_, SameWorld.report ?_ _ _⟩
      · dsimp only
        cases (Program.launch host sh.state sh.disk program stage.command stage.args input).result
          with
        | ok o => rfl
        | error e => exact congrArg Except.error (StageFailure.ofProgram_atStage j k _ e).symm
      · exact ⟨rfl, h.history_eq, rfl, h.logFile_eq_none, h.logFile_eq_none'⟩

/-- So does a stage, between its records. -/
lemma runReported_atStage (h : SameWorld sh sh') (host : Host) (k j : Nat) (stage : Stage)
    (input : ByteArray) :
    (runReported host k stage input sh).1 =
        (runReported host j stage input sh').1.mapError (StageFailure.atStage k) ∧
      SameWorld (runReported host k stage input sh).2 (runReported host j stage input sh').2 := by
  have hbegan := h.report [.stageBegan k stage.argv] [.stageBegan j stage.argv]
  simp only [runReported, runStage]
  cases Builtin.ofName? stage.command with
  | some b =>
      obtain ⟨hresult, hworld⟩ := runBuiltin_atStage hbegan host k j stage b input
      exact ⟨hresult, hworld.report _ _⟩
  | none =>
      obtain ⟨hresult, hworld⟩ := runProgram_atStage hbegan host k j stage input
      exact ⟨hresult, hworld.report _ _⟩

/-! ## Runs whose failures differ in the index only -/

/-- What a run of stages comes to: the flow or what stopped it, and the shell that is left. -/
abbrev Ran := Except (Flow × StageFailure) Flow × Shell

/-- The runs come to the same, with the failure of the first renamed in the second. -/
structure SameRun (rename : StageFailure → StageFailure) (ran ran' : Ran) : Prop where
  result_eq : ran'.1 = ran.1.mapError fun stop => (stop.1, rename stop.2)
  world : SameWorld ran.2 ran'.2

/-- What stops a run is the failure of one of its stages. -/
lemma names_of_runStages (h : (runStages host index stages f sh).1 = .error (f', failure)) :
    ∃ i name, index ≤ i ∧ i < index + stages.length ∧ failure.Names i name := by
  obtain ⟨outs, stop, left, hrun⟩ := exists_runs host index stages f.bytes sh
  rw [runStages_eq_of_runs hrun rfl] at h
  cases stop with
  | none => cases h
  | some failure' =>
      cases h
      obtain ⟨stage, -, hnames⟩ := hrun.names rfl
      exact ⟨_, _, Nat.le_add_right .., Nat.add_lt_add_left (hrun.length_lt nofun) _, hnames⟩

/-- Stages open no log file and close none. -/
lemma logFile_runStages (host : Host) (index : Nat) (stages : List Stage) (f : Flow) (sh : Shell) :
    (runStages host index stages f sh).2.logFile = sh.logFile := by
  obtain ⟨outs, stop, left, hrun⟩ := exists_runs host index stages f.bytes sh
  rw [runStages_eq_of_runs hrun rfl]
  exact hrun.logFile_eq

/-- Stages behind `k` do the same one index later. -/
theorem runStages_oneLater (host : Host) (hle : k ≤ index) (stages : List Stage) (f : Flow)
    (h : SameWorld sh sh') :
    SameRun (StageFailure.makeRoom k) (runStages host index stages f sh)
      (runStages host (index + 1) stages f sh') := by
  induction stages generalizing index f sh sh' with
  | nil => exact ⟨rfl, h⟩
  | cons stage rest ih =>
      obtain ⟨hresult, hworld⟩ :=
        runReported_atStage h.symm host (index + 1) index stage f.bytes
      rcases hran : runReported host index stage f.bytes sh with ⟨failure | o, left⟩ <;>
        rcases hran' : runReported host (index + 1) stage f.bytes sh' with ⟨result', left'⟩ <;>
        rw [hran, hran'] at hresult hworld
      · obtain ⟨ran, hfails, -⟩ := fails_of_runReported hran
        cases hresult
        rw [runStages_cons_of_error hran, runStages_cons_of_error hran']
        refine ⟨congrArg (fun failure => Except.error (f, failure)) ?_, hworld.symm⟩
        exact (hfails.names.makeRoom_of_le hle).symm
      · cases hresult
        rw [runStages_cons_of_ok hran, runStages_cons_of_ok hran']
        exact ih (Nat.le_succ_of_le hle) (f.next o) hworld.symm

/-! ## Stages before and behind a position -/

/-- A run goes on, unless it was stopped. -/
def andThen (ran : Ran) (next : Flow → Shell → Ran) : Ran :=
  match ran with
  | (.error stop, sh) => (.error stop, sh)
  | (.ok f, sh) => next f sh

/-- Stages can be run in two parts. -/
lemma runStages_append (host : Host) (index : Nat) (before rest : List Stage) (f : Flow)
    (sh : Shell) :
    runStages host index (before ++ rest) f sh =
      andThen (runStages host index before f sh) fun f mid =>
        runStages host (index + before.length) rest f mid := by
  induction before generalizing index f sh with
  | nil => rfl
  | cons stage before ih =>
      rw [List.cons_append, List.length_cons, Nat.add_comm _ 1, ← Nat.add_assoc]
      rcases hran : runReported host index stage f.bytes sh with ⟨failure | o, left⟩
      · rw [runStages_cons_of_error hran, runStages_cons_of_error hran]
        rfl
      · rw [runStages_cons_of_ok hran, runStages_cons_of_ok hran, ih]

/-- The stages of a pipeline are run with the bytes before position `k` changed. -/
def runVia (host : Host) (change : ByteArray → ByteArray) (k : Nat) (stages : List Stage)
    (sh : Shell) : Ran :=
  andThen (runStages host 0 (stages.take k) .start sh) fun f mid =>
    runStages host k (stages.drop k) { f with bytes := change f.bytes } mid

/-- The bytes that flow at position `k`, if the run comes that far. -/
def flowAt (host : Host) (k : Nat) (stages : List Stage) (sh : Shell) : Option ByteArray :=
  match (runStages host 0 (stages.take k) .start sh).1 with
  | .error _ => none
  | .ok f => some f.bytes

/-- A change that leaves the bytes as they are is none. -/
lemma runVia_eq_runStages {change : ByteArray → ByteArray} (hk : k ≤ stages.length)
    (hfixed : ∀ b, flowAt host k stages sh = some b → change b = b) :
    runVia host change k stages sh = runStages host 0 stages .start sh := by
  conv_rhs => rw [← List.take_append_drop k stages]
  rw [runStages_append, List.length_take_of_le hk, Nat.zero_add, runVia]
  rcases hran : runStages host 0 (stages.take k) .start sh with ⟨stop | f, mid⟩
  · rfl
  · have hbytes : change f.bytes = f.bytes := hfixed _ (by rw [flowAt, hran])
    simp only [andThen, hbytes]

/-! ## The stage that only copies -/

/-- The bytes of the text that the bytes are read as. -/
def throughText (bytes : ByteArray) : ByteArray := Text.encode (Text.decodeLossy bytes)

/-- What has gone through text once does so unchanged. -/
lemma throughText_throughText (bytes : ByteArray) :
    throughText (throughText bytes) = throughText bytes := by
  rw [throughText, throughText, Text.decodeLossy_encode]

/-- Bytes that are a text come through unchanged. -/
lemma throughText_of_text {bytes : ByteArray} (h : (Text.decode? bytes).isSome) :
    throughText bytes = bytes := by
  obtain ⟨text, htext⟩ := Option.isSome_iff_exists.mp h
  rw [← Text.encode_of_decode? htext, throughText, Text.decodeLossy_encode]

/-- A bare `cat` hands on the text of what flows into it, and leaves all as it was. -/
lemma runReported_bareCat (hcat : stage.argv = ["cat"]) (h : SameWorld sh sh') (host : Host)
    (index : Nat) (input : ByteArray) :
    ∃ left, runReported host index stage input sh' =
      (.ok ⟨throughText input, .empty, 0⟩, left) ∧ SameWorld sh left := by
  obtain ⟨hcommand, hargs⟩ := List.cons.inj hcat
  have hb : Builtin.ofName? stage.command = some .cat := by
    rw [hcommand]
    rfl
  let began := sh'.report [.stageBegan index stage.argv]
  have hrun : Builtin.cat.run (began.view host input) stage.args =
      ⟨.ok none, throughText input, began.history, began.disk, []⟩ := by
    rw [hargs]
    rfl
  have hbegan : SameWorld began sh := h.symm.report_left _
  refine ⟨_, by simp only [runReported, runStage, hb, runBuiltin, began, hrun]; rfl, ?_⟩
  exact ((hbegan.report_left _).report_left _).symm

/-- With a bare `cat` at position `k` the stages do what they do with the bytes there turned into
text. -/
theorem sameRun_insert {p : Pipeline} (hk : k ≤ p.length) (hcat : stage.argv = ["cat"])
    (hlog : sh.logFile = none) (host : Host) :
    SameRun (StageFailure.makeRoom k) (runVia host throughText k p.stages sh)
      (runStages host 0 (p.insert k stage).stages .start sh) := by
  have hlength : (p.stages.take k).length = k := List.length_take_of_le hk
  rw [Pipeline.insert, runStages_append, hlength, Nat.zero_add, runVia]
  have hmid := (logFile_runStages host 0 (p.stages.take k) .start sh).trans hlog
  rcases hran : runStages host 0 (p.stages.take k) .start sh with ⟨⟨f, failure⟩ | f, mid⟩ <;>
    rw [hran] at hmid
  · obtain ⟨i, name, -, hlt, hnames⟩ := names_of_runStages (congrArg Prod.fst hran)
    rw [hlength, Nat.zero_add] at hlt
    refine ⟨congrArg (fun failure => Except.error (f, failure)) ?_, .refl hmid⟩
    exact (hnames.makeRoom_of_lt hlt).symm
  · obtain ⟨left, hstage, hleft⟩ := runReported_bareCat hcat (.refl hmid) host k f.bytes
    have hnext : f.next ⟨throughText f.bytes, .empty, 0⟩ =
        { f with bytes := throughText f.bytes } := by
      rw [Flow.next]
      simp
    rw [andThen, andThen, runStages_cons_of_ok hstage, hnext]
    exact runStages_oneLater host le_rfl _ _ hleft

/-! ## Results -/

/-- What a pipeline comes to whose stages have run. -/
def conclude (host : Host) (p : Pipeline) : Ran → ExecResult × Shell
  | (.error (f, failure), sh) => (⟨"", f.errors, failure.status, some failure.error⟩, sh)
  | (.ok f, sh) => finish host p f sh

/-- A pipeline runs its stages and concludes. -/
lemma execute_eq_conclude (host : Host) (p : Pipeline) (sh : Shell) :
    execute host p sh = conclude host p (runStages host 0 p.stages .start sh) := rfl

/-- Executes a pipeline with the bytes before position `k` changed. -/
def executeVia (host : Host) (change : ByteArray → ByteArray) (k : Nat) (p : Pipeline)
    (sh : Shell) : ExecResult × Shell :=
  conclude host p (runVia host change k p.stages sh)

/-- The same texts and status, the same error but for its name in the second, and the same is
left. -/
structure SameOutcome (rename : ExecError → ExecError) (ran ran' : ExecResult × Shell) : Prop where
  result_eq : ran'.1 = { ran.1 with error := ran.1.error.map rename }
  world : SameWorld ran.2 ran'.2

variable {p : Pipeline}

/-- Shells in the same world write the output alike and stay in the same world. -/
lemma writeOutput_sameWorld (h : SameWorld sh sh') (host : Host) (r : Redirection)
    (bytes : ByteArray) :
    (writeOutput host r bytes sh').1 = (writeOutput host r bytes sh).1 ∧
      SameWorld (writeOutput host r bytes sh).2 (writeOutput host r bytes sh').2 := by
  unfold writeOutput
  rw [← h.state_eq]
  cases sh.state.resolve host.env r.path with
  | error e => exact ⟨rfl, h⟩
  | ok path =>
      have hreport := h.report [.redirected bytes.size path] [.redirected bytes.size path]
      dsimp only
      rw [← hreport.disk_eq]
      cases redirect r.mode (sh.report [.redirected bytes.size path]).disk path bytes with
      | error fault => exact ⟨rfl, hreport⟩
      | ok disk =>
          exact ⟨rfl, h.state_eq, h.history_eq, rfl, h.logFile_eq_none, h.logFile_eq_none'⟩

/-- The same output is written or shown, whatever stage stands at its end. -/
lemma finish_insert (h : SameWorld sh sh') (host : Host) (p : Pipeline) (k : Nat) (stage : Stage)
    (f : Flow) :
    SameOutcome (p.errorWith k stage) (finish host p f sh)
      (finish host (p.insert k stage) f sh') := by
  have hredirection : (p.insert k stage).redirection = p.redirection := rfl
  unfold finish
  rw [hredirection]
  cases p.redirection with
  | none => exact ⟨rfl, h⟩
  | some r =>
      obtain ⟨hwritten, hworld⟩ := writeOutput_sameWorld h host r f.bytes
      dsimp only
      rcases hran : writeOutput host r f.bytes sh with ⟨⟨path, fault⟩ | ⟨⟩, left⟩ <;>
        rcases hran' : writeOutput host r f.bytes sh' with ⟨result, left'⟩ <;>
        rw [hran, hran'] at hwritten hworld <;> cases hwritten
      · refine ⟨?_, hworld⟩
        have hcommand : (p.insert k stage).last.command =
            if k < p.length then p.last.command else stage.command := by
          rw [Pipeline.last_insert]
          split_ifs <;> rfl
        simp only [Pipeline.errorWith, Pipeline.lastIndex_insert, hcommand, Option.map_some]
      · exact ⟨rfl, hworld⟩

/-- Runs with the same end come to the same result, if no stage fails like a redirection. -/
lemma conclude_insert {ran ran' : Ran} (h : SameRun (StageFailure.makeRoom k) ran ran')
    (hnames : ∀ f failure, ran.1 = .error (f, failure) → ¬ failure.error.IsIo) (host : Host)
    (p : Pipeline) (stage : Stage) :
    SameOutcome (p.errorWith k stage) (conclude host p ran)
      (conclude host (p.insert k stage) ran') := by
  obtain ⟨hresult, hworld⟩ := h
  rcases ran with ⟨⟨f, failure⟩ | f, left⟩ <;> rcases ran' with ⟨result, left'⟩ <;>
    cases hresult
  · refine ⟨?_, hworld⟩
    simp only [conclude, Option.map_some, Pipeline.errorWith_of_not_isIo (hnames f failure rfl),
      StageFailure.makeRoom]
  · exact finish_insert hworld host p k stage f

/-- No stage fails because of the redirection. -/
lemma not_isIo_of_runVia {change : ByteArray → ByteArray}
    (h : (runVia host change k stages sh).1 = .error (f, failure)) : ¬ failure.error.IsIo := by
  unfold runVia andThen at h
  split at h
  · next heq =>
    cases h
    obtain ⟨i, name, -, -, hnames⟩ := names_of_runStages (congrArg Prod.fst heq)
    exact hnames.not_isIo
  · obtain ⟨i, name, -, -, hnames⟩ := names_of_runStages h
    exact hnames.not_isIo

/-- With a bare `cat` at position `k` a pipeline does what it does with the bytes there turned into
text. -/
theorem execute_insert (hk : k ≤ p.length) (hcat : stage.argv = ["cat"]) (hlog : sh.logFile = none)
    (host : Host) :
    SameOutcome (p.errorWith k stage) (executeVia host throughText k p sh)
      (execute host (p.insert k stage) sh) :=
  conclude_insert (sameRun_insert hk hcat hlog host) (fun _ _ h => not_isIo_of_runVia h) host p
    stage

/-- Where the bytes at position `k` stay as they are, so does all the rest. -/
lemma executeVia_eq_execute {change : ByteArray → ByteArray} (hk : k ≤ p.length)
    (hfixed : ∀ b, flowAt host k p.stages sh = some b → change b = b) :
    executeVia host change k p sh = execute host p sh := by
  rw [executeVia, runVia_eq_runStages hk hfixed, execute_eq_conclude]

/-- Behind a bare `cat` flow the bytes of a text. -/
lemma throughText_flowAt_insert (hk : k ≤ p.length) (hcat : stage.argv = ["cat"])
    (hlog : sh.logFile = none) {bytes : ByteArray}
    (h : flowAt host (k + 1) (p.insert k stage).stages sh = some bytes) :
    throughText bytes = bytes := by
  have hlength : (p.stages.take k).length = k := List.length_take_of_le hk
  have htake : (p.insert k stage).stages.take (k + 1) = p.stages.take k ++ [stage] := by
    rw [Pipeline.insert, List.take_append, List.take_of_length_le (by omega), hlength,
      Nat.add_sub_cancel_left]
    rfl
  rw [flowAt, htake, runStages_append, hlength, Nat.zero_add] at h
  have hmid := (logFile_runStages host 0 (p.stages.take k) .start sh).trans hlog
  rcases hran : runStages host 0 (p.stages.take k) .start sh with ⟨stop | f, mid⟩ <;>
    rw [hran] at h hmid
  · cases h
  · obtain ⟨left, hstage, -⟩ := runReported_bareCat hcat (.refl hmid) host k f.bytes
    simp only [andThen, runStages_cons_of_ok hstage] at h
    obtain rfl := Option.some.inj h
    exact throughText_throughText f.bytes

/-- A bare `cat` is transparent, at every position of every pipeline: executing the pipeline with it
is the same as executing the pipeline with the bytes at that position turned into text, and so the
same as executing the pipeline alone where these bytes are a text.  Only the errors differ, in the
index of their stage and, where a redirection fails behind the `cat`, in its command.  A second bare
`cat` right behind the first changes nothing more, whatever the bytes are. -/
theorem bare_cat_is_transparent (host : Host) (p : Pipeline) {k : Nat} (hk : k ≤ p.length)
    {cat : Stage} (hcat : cat.argv = ["cat"]) (state : ShellState) (history : History)
    (disk : Disk) :
    let sh := ofParts state history disk
    let p' := p.insert k cat
    SameOutcome (p.errorWith k cat) (executeVia host throughText k p sh) (execute host p' sh) ∧
    ((∀ bytes, flowAt host k p.stages sh = some bytes → (Text.decode? bytes).isSome) →
      SameOutcome (p.errorWith k cat) (execute host p sh) (execute host p' sh)) ∧
    ∀ cat' : Stage, cat'.argv = ["cat"] →
      SameOutcome (p'.errorWith (k + 1) cat') (execute host p' sh)
        (execute host (p'.insert (k + 1) cat') sh) := by
  intro sh p'
  have honce : SameOutcome (p.errorWith k cat) (executeVia host throughText k p sh)
      (execute host p' sh) := execute_insert hk hcat rfl host
  refine ⟨honce, fun htext => ?_, fun cat' hcat' => ?_⟩
  · rwa [executeVia_eq_execute hk fun bytes hbytes => throughText_of_text (htext bytes hbytes)]
      at honce
  · have hk' : k + 1 ≤ p'.length := by
      rw [Pipeline.length_insert]
      exact Nat.succ_le_succ hk
    have htwice : SameOutcome (p'.errorWith (k + 1) cat')
        (executeVia host throughText (k + 1) p' sh) (execute host (p'.insert (k + 1) cat') sh) :=
      execute_insert hk' hcat' rfl host
    rwa [executeVia_eq_execute hk' fun _ hbytes => throughText_flowAt_insert hk hcat rfl hbytes]
      at htwice

/-- Behind `cat f > out` it replaces the byte that is no text, and behind `echo hi > d/out` it is
the command that could not write its output. -/
theorem bare_cat_is_transparent_at_end :
    (plainStage "cat" []).argv = ["cat"] ∧
    SameOutcome ((catFile.redirectedTo ⟨"out", .overwrite⟩).errorWith 1 (plainStage "cat" []))
      (executeVia bareHost throughText 1 (catFile.redirectedTo ⟨"out", .overwrite⟩) shellWithFile)
      (execute bareHost
        ((catFile.redirectedTo ⟨"out", .overwrite⟩).insert 1 (plainStage "cat" []))
        shellWithFile) ∧
    (execute bareHost
      ((catFile.redirectedTo ⟨"out", .overwrite⟩).insert 1 (plainStage "cat" []))
      shellWithFile).2.disk.readBytes "/out" = .ok ⟨#[0xef, 0xbf, 0xbd, 10]⟩ ∧
    (execute bareHost
      ((echoHi.redirectedTo ⟨"d/out", .overwrite⟩).insert 1 (plainStage "cat" []))
      shellWithFile).1.error = some (.io 1 "cat" "/d/out" .notFound) := by
  have hk : 1 ≤ (catFile.redirectedTo ⟨"out", .overwrite⟩).length := by decide
  have hcat : (plainStage "cat" []).argv = ["cat"] := rfl
  obtain ⟨honce, -, -⟩ := bare_cat_is_transparent bareHost
    (catFile.redirectedTo ⟨"out", .overwrite⟩) hk hcat ⟨"/", .empty, ∅, none⟩ .inMemory
    shellWithFile.disk
  exact ⟨hcat, honce, by decide +kernel, by rfl⟩

end Shell

end PipeShell
