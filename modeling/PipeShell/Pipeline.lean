import PipeShell.SyntaxError
import PipeShell.Token

/-!
# Pipelines

A pipeline is a list of stages, each a command with its arguments, and at most one redirection of
the last stage's output.  A stage always has a command and a pipeline always has a stage, so both
are built into the types.

`Pipeline.ofTokens` groups the tokens of a line.  It cuts them at the pipe operators, and its checks
have a fixed order: no tokens at all, an empty stage, a redirection before the last stage, and
last the form of the redirection.  `Pipeline.toTokens` writes a pipeline as tokens again.
-/

namespace PipeShell

/-- Whether a redirection replaces its target or adds to it. -/
inductive RedirectMode where
  | overwrite
  | append
deriving Repr, DecidableEq

/-- The file that takes the output of a pipeline. -/
structure Redirection where
  path : String
  mode : RedirectMode
deriving Repr, DecidableEq

/-- A command and its arguments, as tokens. -/
structure Stage where
  head : Token
  tail : List Token
deriving Repr, DecidableEq

namespace Stage

/-- All tokens of the stage. -/
def tokens (s : Stage) : List Token := s.head :: s.tail

/-- The name of the command. -/
def command (s : Stage) : String := s.head.text

/-- The arguments of the command. -/
def args (s : Stage) : List String := s.tail.map Token.text

/-- The command and its arguments. -/
def argv (s : Stage) : List String := s.command :: s.args

/-- The stage with these tokens, if there are any. -/
def ofTokens? : List Token → Option Stage
  | [] => none
  | t :: ts => some ⟨t, ts⟩

/-- The stages of the segments; the first segment without tokens is an error.  The segments are
counted from `index`. -/
def ofSegments (index : Nat) : List (List Token) → Except SyntaxError (List Stage)
  | [] => .ok []
  | segment :: rest =>
    match ofTokens? segment with
    | none => .error (.emptyStage index)
    | some s => (ofSegments (index + 1) rest).map (s :: ·)

end Stage

/-- Stages joined by pipes, and where the output goes. -/
structure Pipeline where
  stages : List Stage
  redirection : Option Redirection
  stages_ne_nil : stages ≠ []
deriving DecidableEq

namespace Pipeline

/-- The number of stages. -/
def length (p : Pipeline) : Nat := p.stages.length

/-- The last stage. -/
def last (p : Pipeline) : Stage := p.stages.getLast p.stages_ne_nil

/-- The position of the last stage. -/
def lastIndex (p : Pipeline) : Nat := p.length - 1

/-! ## Reading -/

/-- The runs of tokens between pipe operators; there is always one more run than operators. -/
def segments : List Token → List (List Token)
  | [] => [[]]
  | t :: ts =>
    if t.isPipe then [] :: segments ts
    else match segments ts with
      | [] => [[t]]
      | s :: ss => (t :: s) :: ss

/-- The kind of redirection that an operator begins. -/
def modeOf (operator : Token) : RedirectMode :=
  if operator.text = ">>" then .append else .overwrite

/-- The redirection written by an operator and the tokens after it. -/
def redirectionOf (operator : Token) : List Token → Except SyntaxError Redirection
  | [] => .error .missingRedirectTarget
  | [target] =>
    if target.isOperator then .error .missingRedirectTarget
    else .ok ⟨target.text, modeOf operator⟩
  | _ :: _ :: _ => .error .malformedRedirection

/-- The tokens of the last stage up to the first redirection operator, and the redirection. -/
def splitRedirection (ts : List Token) : Except SyntaxError (List Token × Option Redirection) :=
  match ts.dropWhile (!·.isRedirect) with
  | [] => .ok (ts, none)
  | operator :: rest =>
    (redirectionOf operator rest).map fun r => (ts.takeWhile (!·.isRedirect), some r)

/-- The pipeline of stages that are known not to be empty: only the last may redirect. -/
def ofStages (front : List Stage) (last : Stage) : Except SyntaxError Pipeline :=
  match front.findIdx? (·.tokens.any Token.isRedirect) with
  | some i => .error (.redirectNotFinal i)
  | none =>
    match splitRedirection last.tokens with
    | .error e => .error e
    | .ok (ts, redirection) =>
      match Stage.ofTokens? ts with
      | none => .error (.emptyStage front.length)
      | some s => .ok ⟨front ++ [s], redirection, by simp⟩

/-- The pipeline that the tokens of a line form. -/
def ofTokens (ts : List Token) : Except SyntaxError Pipeline :=
  if ts.isEmpty then .error .emptyPipeline
  else
    match Stage.ofSegments 0 (segments ts) with
    | .error e => .error e
    | .ok stages =>
      if h : stages = [] then .error .emptyPipeline
      else ofStages stages.dropLast (stages.getLast h)

/-! ## Writing -/

/-- The operator of a redirection. -/
def RedirectMode.operator : RedirectMode → Token
  | .overwrite => .operator ">"
  | .append => .operator ">>"

/-- The tokens of stages, with a pipe between neighbours. -/
def joinStages : List Stage → List Token
  | [] => []
  | [s] => s.tokens
  | s :: ss => s.tokens ++ .pipe :: joinStages ss

/-- The tokens of a pipeline. -/
def toTokens (p : Pipeline) : List Token :=
  joinStages p.stages ++
    match p.redirection with
    | none => []
    | some r => [RedirectMode.operator r.mode, .word r.path false]

/-- There is at least one segment, even if it is empty. -/
theorem segments_ne_nil (ts : List Token) : segments ts ≠ [] := by
  cases ts with
  | nil => simp [segments]
  | cons t ts =>
    rw [segments]
    split
    · simp
    · split <;> simp

end Pipeline

end PipeShell
