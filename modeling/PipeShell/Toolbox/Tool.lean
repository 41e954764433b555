import PipeShell.Toolbox.Copy
import PipeShell.Toolbox.Count
import PipeShell.Toolbox.Format
import PipeShell.Toolbox.Order
import PipeShell.Toolbox.Remove
import PipeShell.Toolbox.Replace

/-!
# The tools

The table of tools.  A `Tool` is what it does with a job, and what it says when its output cannot be
written.
-/

namespace PipeShell.Toolbox

/-! ## Waiting -/

/-- The seconds in a unit of time. -/
def timeUnit? : List Char → Option Nat
  | [] => some 1
  | ['s'] => some 1
  | ['m'] => some 60
  | ['h'] => some 3600
  | ['d'] => some 86400
  | _ => none

/-- A time such as `5`, `0.25`, `1m` or `inf`, in nanoseconds. -/
def readTime? (text : String) : Option Nat :=
  let cs := text.toList
  let read := Decimal.Precision.double.read cs
  if read.rest.length = cs.length then none
  else
    (timeUnit? read.rest).bind fun unit =>
      match read.value with
      | .infinite false => some forever
      | .finite negative size =>
        let (num, den) := size.fraction
        if negative && size.significand != 0 then none
        else some ((num * unit * 1000000000 + den - 1) / den)
      | _ => none

/-- Lets time pass. -/
def sleep : Task Unit := do
  let given := (← read).args
  let (_, operands) ← Task.arguments [] false 1 () (fun _ _ _ => pure ()) given
  if given.isEmpty then Task.misuse 1 "missing operand"
  let bad := operands.filter fun a => (readTime? a).isNone
  match bad.getLast? with
  | some last =>
    bad.dropLast.forM fun a => Task.complain ("invalid time interval " ++ quoted a)
    Task.misuse 1 ("invalid time interval " ++ quoted last)
  | none =>
    let nanos := (operands.filterMap readTime?).foldl (· + ·) 0
    modify fun p => { p with nanos }

/-! ## Formatted output -/

/-- Writes its arguments by a format. -/
def printf : Task Unit := do
  let given := (← read).args
  if given == ["--help"] || given == ["--version"] then Task.stop
  match if given.head? == some "--" then given.tail else given with
  | [] => Task.misuse 1 "missing operand"
  | format :: args =>
    let (f, unused) := formatText .program format args
    f.events.reverse.forM fun
      | .ok text => Task.say text
      | .error fault => do
        Task.complain (fault.message .program)
        if fault.counts then modify fun p => { p with status := 1 }
    match f.stopped, unused with
    | some fault, _ => Task.fail 1 (fault.message .program)
    | none, arg :: _ =>
      if f.more then
        Task.complain ("warning: ignoring excess arguments, starting with " ++ quoted arg)
    | none, [] => pure ()
    if !f.more then modify fun p => { p with status := 0 }

/-! ## The table -/

/-- A tool. -/
structure Tool where
  task : Task Unit
  /-- What comes in is passed on before all of it has come in. -/
  streams : Bool
  /-- What it says when its output cannot be written, and its status then. -/
  fault : Fault → List String × Nat
  /-- What it says when its output is closed from the start. -/
  closed : Option String

/-- What most tools say when their output cannot be written. -/
def writeFault (fault : Fault) : List String × Nat :=
  (["write error: " ++ faultText fault], 1)

/-- What `wc` says when its output cannot be written. -/
def countFault (fault : Fault) : List String × Nat :=
  (["write error" ++ if fault = .noSpace then "" else ": " ++ faultText fault], 1)

/-- What `sort` says when its output cannot be written. -/
def sortFault (fault : Fault) : List String × Nat :=
  (["fflush failed: 'standard output': " ++ faultText fault, "write error"], 2)

/-- A tool that says what most say. -/
def Tool.plain (streams : Bool) (task : Task Unit) : Tool := ⟨task, streams, writeFault, none⟩

/-- The tools. -/
def table : List (String × Tool) :=
  [("cat", ⟨cat, true, writeFault, some ("standard output: " ++ faultText .badChannel)⟩),
   ("false", .plain false (Task.leave 1)), ("head", .plain true head),
   ("printf", .plain false printf), ("rm", .plain false rm), ("sleep", .plain false sleep),
   ("sort", ⟨sort, false, sortFault, none⟩), ("tr", .plain true tr),
   ("true", .plain false (pure ())), ("wc", ⟨wc, false, countFault, none⟩)]

/-- The name of the script interpreter. -/
def interpreterName : String := "sh"

end PipeShell.Toolbox
