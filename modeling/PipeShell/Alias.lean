import PipeShell.Event
import PipeShell.Token.Scan

/-!
# Aliases

A word in command position, which is the first token of a line or of what follows a pipe, stands for
the tokens of its alias when it has one.  A quoted word never does.  The tokens of a body are put in
as they are: no alias is looked for in them.
-/

namespace PipeShell.Alias

/-- The body that a token stands for. -/
def body? (aliases : String → Option String) (atCommand : Bool) : Token → Option String
  | .word text false => if atCommand then aliases text else none
  | _ => none

/-- The tokens with aliases replaced, and the aliases used.  The error is that of the first body
that is no sequence of tokens. -/
def expandFrom (aliases : String → Option String) (vars : Lookup) (atCommand : Bool) :
    List Token → Except SyntaxError (List Token) × List Event
  | [] => (.ok [], [])
  | t :: ts =>
    match body? aliases atCommand t with
    | none =>
      let rest := expandFrom aliases vars t.isPipe ts
      (rest.1.map (t :: ·), rest.2)
    | some body =>
      match Token.scanWith vars body with
      | .error e => (.error e, [.aliasUsed t.text body])
      | .ok inserted =>
        let rest := expandFrom aliases vars t.isPipe ts
        (rest.1.map (inserted ++ ·), .aliasUsed t.text body :: rest.2)

/-- The tokens of a line with aliases replaced, and the aliases used. -/
def expand (aliases : String → Option String) (vars : Lookup) (ts : List Token) :
    Except SyntaxError (List Token) × List Event :=
  expandFrom aliases vars true ts

end PipeShell.Alias
