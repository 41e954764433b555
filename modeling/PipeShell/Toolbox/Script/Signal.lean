/-!
# Signals

The names and numbers of the signals that processes send each other, and what a process does that
has made no arrangement for one.
-/

namespace PipeShell.Script.Signal

/-- The names of the signals from one on.  Those without a name of their own have their number. -/
def names : List String :=
  ["HUP", "INT", "QUIT", "ILL", "TRAP", "ABRT", "BUS", "FPE", "KILL", "USR1", "SEGV", "USR2",
   "PIPE", "ALRM", "TERM", "16", "CHLD", "CONT", "STOP", "TSTP", "TTIN", "TTOU", "URG", "XCPU",
   "XFSZ", "VTALRM", "PROF", "WINCH", "IO", "PWR", "SYS", "32", "33", "RTMIN"]
  ++ (List.range 15).map (fun n => "RTMIN+" ++ toString (n + 1))
  ++ (List.range 14).map (fun n => "RTMAX-" ++ toString (14 - n)) ++ ["RTMAX"]

/-- The name of a signal; zero stands for the end of a script. -/
def nameOf (signal : Nat) : String :=
  if signal = 0 then "EXIT" else names.getD (signal - 1) (toString signal)

/-- The signal that a number or a name stands for. -/
def read? (text : String) : Option Nat :=
  if !text.isEmpty && text.all Char.isDigit then
    text.toNat?.filter (· ≤ names.length)
  else
    let name := text.map Char.toUpper
    if name == "EXIT" then some 0 else (names.findIdx? (· == name)).map (· + 1)

/-- The texts by which a shell reports how a process ended, from one on. -/
def texts : List String :=
  ["Hangup", "Interrupt", "Quit", "Illegal instruction", "Trace/breakpoint trap", "Aborted",
   "Bus error", "Floating point exception", "Killed", "User defined signal 1", "Segmentation fault",
   "User defined signal 2", "Broken pipe", "Alarm clock", "Terminated", "Stack fault",
   "Child exited", "Continued", "Stopped (signal)", "Stopped", "Stopped (tty input)",
   "Stopped (tty output)", "Urgent I/O condition", "CPU time limit exceeded",
   "File size limit exceeded", "Virtual timer expired", "Profiling timer expired",
   "Window changed", "I/O possible", "Power failure", "Bad system call"]

/-- What a shell reports about a process that a signal ended.  Interrupts and broken pipes are
nothing to report. -/
def report? (signal : Nat) : Option String :=
  if signal = 2 || signal = 13 then none
  else some (texts.getD (signal - 1) ("Real-time signal " ++ toString (signal - 34)))

/-- The signals that by themselves do nothing to a process. -/
def harmless : List Nat := [0, 17, 18, 23, 28]

/-- Nothing can be arranged for these. -/
def absolute : List Nat := [9, 19]

end PipeShell.Script.Signal
