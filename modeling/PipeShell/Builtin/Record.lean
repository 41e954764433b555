import PipeShell.Builtin.Words

/-!
# The command about the history

`history` shows the log with its line numbers, which count from one, or exchanges it with a file.
-/

namespace PipeShell.Builtin

/-- A line of the log with its number. -/
def historyLine (p : Nat × String) : String :=
  Text.padLeft 5 (toString (p.1 + 1)) ++ "  " ++ p.2

/-- Shows the last lines of the log. -/
def showHistory (h : History) (count : Nat) : Report :=
  .print (printLines ((h.recent count).map historyLine))

/-- The outcome of an exchange with a file: what it left, and a line about it if it succeeded. -/
def exchanged (report : Nat → String) (exchange : Except HistoryError Nat × History.Step) :
    Outcome :=
  let step := exchange.2
  match exchange.1 with
  | .error e => ⟨.error (.history e), .empty, step.history, step.disk, step.events⟩
  | .ok count =>
    ⟨.ok none, Text.encode (report count ++ "\n"), step.history, step.disk, step.events⟩

/-- An exchange of the log with a file. -/
def historyFile (v : View) (option target : String) : Outcome :=
  match v.resolve target with
  | .error e => v.refuse e
  | .ok path =>
    match option with
    | "-r" =>
      exchanged (fun n => "Loaded " ++ toString n ++ " commands from " ++ target)
        (v.history.load v.disk path)
    | "-w" =>
      exchanged (fun n => "Wrote " ++ toString n ++ " commands to " ++ target)
        (v.history.save v.disk path)
    | "-a" =>
      exchanged (fun n =>
          if n = 0 then "No new commands to append"
          else "Appended " ++ toString n ++ " new commands to " ++ target)
        (v.history.saveNew v.disk path)
    | other => v.refuse (.invalidArguments ("unknown history option '" ++ other ++ "'"))

/-- The argument looks like an option. -/
def isOption (arg : String) : Bool :=
  arg.toList.head? = some '-'

/-- `history [N]`, `history -r FILE`, `history -w FILE`, `history -a FILE`. -/
def historyCommand (v : View) (args : List String) : Outcome :=
  match args with
  | [] => v.keep (showHistory v.history v.history.length)
  | [arg] =>
    if isOption arg then v.refuse (.invalidArguments (arg ++ " requires a file name"))
    else
      match Decimal.readNat? 18446744073709551615 arg with
      | some count => v.keep (showHistory v.history count)
      | none => v.refuse (.invalidArguments (arg ++ ": numeric argument required"))
  | [option, target] =>
    if isOption option then historyFile v option target
    else v.refuse (.invalidArguments "Usage: history [N] | history -r|-w|-a FILE")
  | _ => v.refuse (.invalidArguments "Usage: history [N] | history -r|-w|-a FILE")

end PipeShell.Builtin
