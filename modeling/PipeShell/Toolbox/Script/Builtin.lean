import PipeShell.Toolbox.Script.Search

/-!
# Commands that scripts carry out themselves

What these commands have in common: how they read options and numbers, and how they write texts that
a script can read again.  The commands stand in modules by what they are about, and each is a
function from its arguments to a run (`BuiltIn`).

What goes wrong in a special command ends the script.
-/

namespace PipeShell.Script

/-- What a command does with its arguments. -/
abbrev BuiltIn := List String → Run Unit

/-! ## Arguments -/

/-- Options with their values, and the other arguments. -/
abbrev Options := List (Char × String) × List String

/-- The options in an argument after its dash, when some take a value; whether the next argument is
the value of the last one. -/
def readLetters (plain valued : List Char) (next : Option String) :
    List Char → Run (List (Char × String) × Bool)
  | [] => pure ([], false)
  | c :: cs => do
    if valued.contains c then
      match cs, next with
      | [], none => Run.fail ("No arg for -" ++ c.toString ++ " option")
      | [], some value => return ([(c, value)], true)
      | cs, _ => return ([(c, String.ofList cs)], false)
    else if plain.contains c then
      let (more, used) ← readLetters plain valued next cs
      return ((c, "") :: more, used)
    else Run.fail ("Illegal option -" ++ c.toString)

/-- The options in front of other arguments. -/
def readOptions (plain valued : List Char) : (fuel : Nat) → List String → Run Options
  | 0, args => pure ([], args)
  | fuel + 1, args =>
    match args with
    | [] => pure ([], [])
    | arg :: rest =>
      match arg.toList with
      | ['-', '-'] => pure ([], rest)
      | '-' :: c :: cs => do
        let (options, used) ← readLetters plain valued rest.head? (c :: cs)
        let (more, operands) ← readOptions plain valued fuel (if used then rest.tail else rest)
        return (options ++ more, operands)
      | _ => pure ([], args)

/-- The options in front of other arguments. -/
def options (plain valued : List Char) (args : List String) : Run Options :=
  readOptions plain valued (args.length + 1) args

/-- The number from zero up that an argument writes. -/
def number (text : String) : Run Nat :=
  match Arithmetic.decimal? text with
  | some n => if 0 ≤ n && n ≤ 2147483647 then pure n.toNat else Run.fail (Arithmetic.badNumber text)
  | none => Run.fail (Arithmetic.badNumber text)

/-! ## Quotes -/

/-- A text in quotes, so that a script reads it as that text. -/
def quotedFrom : (fuel : Nat) → List Char → List Char
  | 0, _ => []
  | fuel + 1, cs =>
    let plain := cs.takeWhile (· ≠ '\'')
    let rest := cs.drop plain.length
    let quotes := rest.takeWhile (· == '\'')
    let after := rest.drop quotes.length
    let first := '\'' :: plain ++ ['\'']
    if rest.isEmpty then first
    else
      let second := '"' :: quotes ++ ['"']
      first ++ second ++ if after.isEmpty then [] else quotedFrom fuel after

/-- A text in quotes, so that a script reads it as that text. -/
def inQuotes (text : String) : String :=
  String.ofList (quotedFrom (text.length + 1) text.toList)

/-- A name and its value as a script writes it. -/
def assignmentText (name value : String) : String := name ++ "=" ++ inQuotes value

end PipeShell.Script
