import PipeShell.Proofs.Execution.Line
import PipeShell.Proofs.Pipeline.Grammar

/-!
# Lines of one command

A pipeline of one stage comes to what that stage comes to (`execute_single_of_completed`,
`execute_single_of_failed`).  A line whose tokens are all words is such a pipeline
(`Pipeline.ofTokens_of_words`), unless its first word has an alias (`prepare_of_words`), and so it
comes to that as well: `runLine_of_completed` and `runLine_of_failed`.
-/

namespace PipeShell

namespace Alias

variable {aliases : String → Option String} {vars : Lookup} {ts : List Token}

/-- Behind the first word no alias is looked for. -/
lemma expandFrom_of_words (hwords : ∀ t ∈ ts, t.isOperator = false) :
    expandFrom aliases vars false ts = (.ok ts, []) := by
  induction ts with
  | nil => rfl
  | cons t ts ih =>
      obtain ⟨ht, hts⟩ := List.forall_mem_cons.mp hwords
      obtain ⟨text, quoted, rfl⟩ := Token.exists_eq_word ht
      have hbody : body? aliases false (.word text quoted) = none := by cases quoted <;> rfl
      simp only [expandFrom, hbody, Token.isPipe_word, ih hts]
      rfl

/-- Words stand for themselves, if the first has no alias. -/
lemma expand_of_words {t : Token} (hbody : body? aliases true t = none)
    (hwords : ∀ u ∈ t :: ts, u.isOperator = false) :
    expand aliases vars (t :: ts) = (.ok (t :: ts), []) := by
  obtain ⟨ht, hts⟩ := List.forall_mem_cons.mp hwords
  obtain ⟨text, quoted, rfl⟩ := Token.exists_eq_word ht
  simp only [expand, expandFrom, hbody, Token.isPipe_word, expandFrom_of_words hts]
  rfl

end Alias

namespace Pipeline

/-- One stage, with its output going to the user. -/
def single (s : Stage) : Pipeline := ⟨[s], none, List.cons_ne_nil _ _⟩

/-- Words are one stage. -/
lemma ofTokens_of_words {s : Stage} (hwords : ∀ t ∈ s.tokens, t.isOperator = false) :
    ofTokens s.tokens = .ok (single s) := by
  apply ofTokens_of_grammar
  refine ⟨List.cons_ne_nil _ _, ?_, [], .none, ?_⟩
  · intro seg hseg
    obtain rfl := List.mem_singleton.mp hseg
    refine ⟨s.tokens_ne_nil, fun t ht => ?_⟩
    obtain ⟨text, quoted, rfl⟩ := Token.exists_eq_word (hwords t ht)
    exact ⟨rfl, rfl⟩
  · rw [List.append_nil]
    exact (List.intercalate_singleton ..).symm

end Pipeline

namespace Shell

variable {host : Host} {line : String} {sh left : Shell} {stage : Stage}

/-- A line of words is one stage, if its first word has no alias. -/
theorem prepare_of_words
    (hscan : Token.scanWith (sh.state.var? host.env) line = .ok stage.tokens)
    (hbody : Alias.body? sh.state.alias? true stage.head = none)
    (hwords : ∀ t ∈ stage.tokens, t.isOperator = false) :
    prepare host sh line = (.ok (.single stage), []) := by
  have hexpand : Alias.expand sh.state.alias? (sh.state.var? host.env) stage.tokens =
      (.ok stage.tokens, []) := Alias.expand_of_words hbody hwords
  rw [prepare, hscan]
  simp only [hexpand, Except.bind, Pipeline.ofTokens_of_words hwords]

/-- The only stage of a line is the only one that begins. -/
lemma executes_iff_of_single (hblank : Text.isAllBlank line = false)
    (hline : (prepare host sh line).1 = .ok (.single stage)) {k : Nat} {stage' : Stage}
    {input : ByteArray} {began : Shell} :
    Executes host line sh k stage' input began ↔ k = 0 ∧ stage' = stage ∧ input = .empty ∧
      began = (ready host line sh).report [.stageBegan 0 stage.argv] := by
  constructor
  · rintro ⟨-, p, hp, hbegins⟩
    cases hline.symm.trans hp
    cases hbegins with
    | first => exact ⟨rfl, rfl, rfl, rfl⟩
    | later _ hlater => cases hlater
  · rintro ⟨rfl, rfl, rfl, rfl⟩
    exact ⟨hblank, .single stage', hline, .first⟩

/-- A stage on its own that completes is all of the result. -/
lemma execute_single_of_completed {o : StageOutput}
    (h : runReported host 0 stage .empty sh = (.ok o, left)) :
    execute host (.single stage) sh = (completedResult [o], left) := by
  have hrun : Runs host 0 (Pipeline.single stage).stages .empty sh [o] none left :=
    .completed h (.done _ _ _)
  exact execute_of_shown hrun rfl

/-- A stage on its own that fails is all of the result. -/
lemma execute_single_of_failed {failure : StageFailure}
    (h : runReported host 0 stage .empty sh = (.error failure, left)) :
    execute host (.single stage) sh =
      (⟨"", "", failure.status, some failure.error⟩, left) := by
  have hrun : Runs host 0 (Pipeline.single stage).stages .empty sh [] (some failure) left :=
    .stopped h
  rw [execute_of_stopped hrun]
  rfl

/-- The only stage of a line completes, and its output is shown. -/
theorem runLine_of_completed (hblank : Text.isAllBlank line = false)
    (hline : (prepare host sh line).1 = .ok (.single stage)) {o : StageOutput}
    (hran : runStage host 0 stage .empty ((ready host line sh).report [.stageBegan 0 stage.argv]) =
      (.ok o, left)) :
    runLine host line sh = (completedResult [o], left.report (stageEvents 0 (.ok o))) := by
  have hstage : runReported host 0 stage .empty (ready host line sh) =
      (.ok o, left.report (stageEvents 0 (.ok o))) := by
    rw [runReported, hran]
  rw [runLine_of_prepared hblank hline, execute_single_of_completed hstage]

/-- The only stage of a line fails, and nothing is shown. -/
theorem runLine_of_failed (hblank : Text.isAllBlank line = false)
    (hline : (prepare host sh line).1 = .ok (.single stage)) {failure : StageFailure}
    (hran : runStage host 0 stage .empty ((ready host line sh).report [.stageBegan 0 stage.argv]) =
      (.error failure, left)) :
    runLine host line sh =
      (⟨"", "", failure.status, some failure.error⟩,
        left.report [.stageFailed 0 failure.error.message]) := by
  have hstage : runReported host 0 stage .empty (ready host line sh) =
      (.error failure, left.report [.stageFailed 0 failure.error.message]) := by
    rw [runReported, hran]
    rfl
  rw [runLine_of_prepared hblank hline, execute_single_of_failed hstage]

end Shell

end PipeShell
