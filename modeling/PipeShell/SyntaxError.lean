/-!
# Errors in a command line

What can be wrong with a line before anything runs.  Stages are counted from zero.
-/

namespace PipeShell

/-- Why a command line is not a pipeline. -/
inductive SyntaxError where
  /-- The line ends inside quotes opened by `quote`. -/
  | unterminatedQuote (quote : Char)
  /-- There are no tokens at all. -/
  | emptyPipeline
  /-- No token stands between two pipe operators, or at an end of the line. -/
  | emptyStage (index : Nat)
  /-- A redirection operator has no word after it. -/
  | missingRedirectTarget
  /-- A stage before the last one holds a redirection. -/
  | redirectNotFinal (stage : Nat)
  /-- More than one token follows the redirection operator. -/
  | malformedRedirection
deriving Repr, DecidableEq

/-- The text shown to the user. -/
def SyntaxError.message : SyntaxError → String
  | unterminatedQuote quote => "unterminated " ++ quote.toString ++ " quote"
  | emptyPipeline => "empty pipeline"
  | emptyStage index => "empty stage at position " ++ toString index
  | missingRedirectTarget => "redirection is missing a target"
  | redirectNotFinal stage =>
    "redirection in stage " ++ toString stage ++ " is not at the end of the pipeline"
  | malformedRedirection => "redirection must be followed by exactly one path"

end PipeShell
