import PipeShell.Builtin.Outcome
import PipeShell.Decimal.Numeral

/-!
# Commands about words

`echo` prints its arguments, `help` describes the built-in commands, and `exit` asks to leave.
-/

namespace PipeShell.Builtin

/-- Each text on a line of its own. -/
def printLines (ls : List String) : String :=
  String.join (ls.map (· ++ "\n"))

/-- `echo [-n] [ARG...]`: the arguments with a space between them, and a newline unless the first
argument is `-n`. -/
def echoCommand (args : List String) : Report :=
  match args with
  | "-n" :: words => .print (" ".intercalate words)
  | words => .print (" ".intercalate words ++ "\n")

/-- `exit [CODE]`: asks to leave with a status, zero by default. -/
def exitCommand (args : List String) : Report :=
  match args with
  | [] => .ask (.requestExit 0)
  | [code] =>
    match Decimal.readInt? (-2147483648) 2147483647 code with
    | some n => .ask (.requestExit n)
    | none => .fail (.invalidArguments (code ++ ": numeric argument required"))
  | _ => .fail (.invalidArguments "too many arguments")

/-- The built-in commands with a line of description each. -/
def summaries : List (String × String) :=
  [("alias", "alias [NAME=VALUE...]   define or list aliases"),
   ("cat", "cat [FILE...]           print files, or the piped input"),
   ("cd", "cd [DIR]                change the working directory"),
   ("echo", "echo [-n] [ARG...]      print arguments"),
   ("exit", "exit [CODE]             leave the shell"),
   ("export", "export [NAME=VALUE...]  set or list shell variables"),
   ("help", "help [COMMAND]          show this help"),
   ("history", "history [N|-r|-w|-a F]  show or save command history"),
   ("ls", "ls [-a] [-l] [PATH...]  list directory contents"),
   ("mkdir", "mkdir [-p] DIR...       create directories"),
   ("pwd", "pwd                     print the working directory"),
   ("touch", "touch FILE...           create files or update their times"),
   ("type", "type NAME...            tell whether NAME is built in or on PATH"),
   ("unset", "unset NAME...           remove shell variables")]

/-- The line under the list of commands. -/
def helpFooter : String :=
  "Anything else is looked up on PATH. Join commands with '|', end with '> file' or '>> file'."

/-- `help [COMMAND...]`: all descriptions, or those of the commands named. -/
def helpCommand (args : List String) : Report :=
  if args.isEmpty then
    .print (printLines
      ("Built-in commands:" :: summaries.map (fun s => "  " ++ s.2) ++ [helpFooter]))
  else
    .each (fun name =>
      match summaries.lookup name with
      | some summary => .ok (Text.encode (summary ++ "\n"))
      | none => .error (.invalidArguments ("no help topics match '" ++ name ++ "'"))) args

end PipeShell.Builtin
