/-!
# Tokens

A command line is a sequence of tokens: words, and the operators that join words into a pipeline.
A word remembers whether any part of it was quoted or escaped, because a quoted word is never an
alias.  An operator only ever comes from bare characters of the line.
-/

namespace PipeShell

/-- A word or an operator of a command line. -/
inductive Token where
  /-- A word; `quoted` when some part of it stood in quotes or after a backslash. -/
  | word (text : String) (quoted : Bool)
  /-- An operator; on a command line its text is `|`, `>` or `>>`. -/
  | operator (text : String)
deriving Repr, DecidableEq, Inhabited

namespace Token

/-- The text of the token, without the quotes it was written with. -/
def text : Token → String
  | word s _ => s
  | operator s => s

/-- The token is an operator. -/
def isOperator : Token → Bool
  | word _ _ => false
  | operator _ => true

/-- The token is a word that was quoted in some part. -/
def isQuoted : Token → Bool
  | word _ quoted => quoted
  | operator _ => false

/-- The operator between two stages. -/
def pipe : Token := .operator "|"

/-- The token separates two stages. -/
def isPipe : Token → Bool
  | operator s => s == "|"
  | word _ _ => false

/-- The token begins a redirection. -/
def isRedirect : Token → Bool
  | operator s => s == ">" || s == ">>"
  | word _ _ => false

/-- A word is no pipe, whatever its text is. -/
@[simp] theorem isPipe_word (s : String) (q : Bool) : (word s q).isPipe = false := rfl

/-- A word is no redirection either. -/
@[simp] theorem isRedirect_word (s : String) (q : Bool) : (word s q).isRedirect = false := rfl

/-- The pipe is one. -/
@[simp] theorem isPipe_pipe : pipe.isPipe = true := by decide

end Token

end PipeShell
