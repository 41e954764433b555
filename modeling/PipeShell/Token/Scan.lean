import PipeShell.SyntaxError
import PipeShell.Token
import PipeShell.Token.Mode
import PipeShell.Variable.Name

/-!
# From a line to tokens

Reading a line has two steps.  `pieces` cuts it into *pieces* (characters of words, quotes, gaps,
operators, references to variables) without looking at any variable's value, and says in which mode
the line ends.  `assemble` joins the pieces into tokens, putting in the values.  So what a variable
holds can lengthen a word but never start or end one: that is decided before its value is read.

A word exists as soon as it has a character or a quote; a reference to an empty variable does not
start one.  A backslash at the end of the line is dropped.
-/

namespace PipeShell

/-- The values of variables. -/
abbrev Lookup := String → Option String

/-- A part of a line, as it counts for the tokens. -/
inductive Piece where
  /-- A character of a word; `escaped` when a backslash stands before it. -/
  | char (c : Char) (escaped : Bool)
  /-- An opening or closing quote. -/
  | quote
  | gap
  | operator (text : String)
  /-- A reference to a variable. -/
  | variable (name : String)
deriving Repr, DecidableEq

/-! ## Cutting a line into pieces -/

/-- The operator that begins with the character `c` in front of `rest`: `>` takes a second `>`
with it. -/
def operatorText (c : Char) (rest : List Char) : String :=
  if c = '>' && rest.head? = some '>' then ">>" else c.toString

/-- The pieces of a line that is read from mode `m` on, and the mode at its end.  The first `skip`
characters are part of the piece before them.  Dollar signs begin references only when `expand` is
set. -/
def pieces (expand : Bool) : (skip : Nat) → Mode → List Char → List Piece × Mode
  | _, m, [] => ([], m)
  | skip + 1, m, _ :: cs => pieces expand skip m cs
  | 0, m, c :: cs =>
    let next := (m.step c).1
    match (m.step c).2 with
    | .push c => push (.char c false) (pieces expand 0 next cs)
    | .escaped c => push (.char c true) (pieces expand 0 next cs)
    | .openQuote => push .quote (pieces expand 0 next cs)
    | .closeQuote => push .quote (pieces expand 0 next cs)
    | .gap => push .gap (pieces expand 0 next cs)
    | .operator c =>
      let text := operatorText c cs
      push (.operator text) (pieces expand (text.length - 1) next cs)
    | .variable =>
      match if expand then Reference.read? cs else none with
      | some ref => push (.variable (String.ofList ref.name)) (pieces expand ref.width next cs)
      | none => push (.char c false) (pieces expand 0 next cs)
    | .skip => pieces expand 0 next cs
where
  /-- One more piece in front. -/
  push (p : Piece) (rest : List Piece × Mode) : List Piece × Mode := (p :: rest.1, rest.2)

/-- The quote that is still open in a mode. -/
def Mode.openQuote? : Mode → Option Char
  | plain => none
  | singleQuote => some '\''
  | doubleQuote => some '"'
  | escape .plain => none
  | escape .doubleQuote => some '"'

/-! ## Joining pieces into tokens -/

/-- A word that has begun. -/
structure Draft where
  text : String
  quoted : Bool
deriving Repr, DecidableEq

namespace Draft

/-- The word, begun if it was not, with `more` at its end. -/
def extend (more : String) (quoted : Bool) : Option Draft → Draft
  | none => ⟨more, quoted⟩
  | some d => ⟨d.text ++ more, d.quoted || quoted⟩

/-- The word, begun if it was not, with one more character. -/
def push (c : Char) (quoted : Bool) : Option Draft → Draft
  | none => ⟨c.toString, quoted⟩
  | some d => ⟨d.text.push c, d.quoted || quoted⟩

/-- The token of a word that ends here, if one had begun. -/
def finish : Option Draft → List Token
  | none => []
  | some d => [.word d.text d.quoted]

end Draft

/-- The tokens made of a word that has begun, or not, and the pieces after it. -/
def assemble (vars : Lookup) : Option Draft → List Piece → List Token
  | d, [] => Draft.finish d
  | d, .char c escaped :: ps => assemble vars (some (Draft.push c escaped d)) ps
  | d, .quote :: ps => assemble vars (some (Draft.extend "" true d)) ps
  | d, .gap :: ps => Draft.finish d ++ assemble vars none ps
  | d, .operator text :: ps => Draft.finish d ++ .operator text :: assemble vars none ps
  | d, .variable name :: ps =>
    let value := (vars name).getD ""
    if value.isEmpty then assemble vars d ps
    else assemble vars (some (Draft.extend value false d)) ps

/-- The tokens of a line, with references replaced by the values in `vars` when it is given. -/
def Token.scan (vars : Option Lookup) (line : String) : Except SyntaxError (List Token) :=
  let scanned := pieces vars.isSome 0 .plain line.toList
  match scanned.2.openQuote? with
  | some quote => .error (.unterminatedQuote quote)
  | none => .ok (assemble (vars.getD fun _ => none) none scanned.1)

/-- The tokens of a line in which a dollar sign is an ordinary character. -/
def Token.scanPlain (line : String) : Except SyntaxError (List Token) :=
  Token.scan none line

/-- The tokens of a line with references replaced by values. -/
def Token.scanWith (vars : Lookup) (line : String) : Except SyntaxError (List Token) :=
  Token.scan (some vars) line

end PipeShell
