import PipeShell.Toolbox.Format
import PipeShell.Toolbox.Script.Builtin
import PipeShell.Toolbox.Script.Test

/-!
# Commands about texts and names

Writing texts, testing them, and saying what names stand for.
-/

namespace PipeShell.Script

/-! ## Writing and testing -/

/-- Has no effect and succeeds, or does not. -/
def plainStatus (status : Nat) : BuiltIn := fun _ => Run.setStatus status

/-- Writes its arguments. -/
def echo : BuiltIn := fun args => Run.say (Toolbox.echoText args)

/-- Writes its arguments by a format.  What is written leaves after all messages. -/
def printFormatted : BuiltIn := fun args => do
  let (_, operands) ← options [] [] args
  match operands with
  | [] => Run.fail "usage: printf format [arg ...]"
  | format :: args =>
    let (f, _) := Toolbox.formatText .script format args
    f.faults.forM fun fault => Run.complain (fault.message .script)
    f.stopped.forM fun fault => Run.complain (fault.message .script)
    Run.say f.output
    if f.faults.any (·.counts) then Run.setStatus 1
    if f.stopped.isSome then
      Run.setStatus 2
      throw .failed

/-- Tests something. -/
def test (bracket : Bool) : BuiltIn := fun args => do
  if bracket && !(args.getLast?.any (·.startsWith "]")) then Run.fail "missing ]"
  let words := if bracket then args.dropLast else args
  match Test.judge (← get) (words.length + 1) words with
  | .ok true => Run.setStatus 0
  | .ok false => Run.setStatus 1
  | .error text => Run.fail text

/-! ## Names -/

/-- An alias as a listing shows it. -/
def aliasLine (p : String × String) : String := assignmentText p.1 p.2 ++ "\n"

/-- The number of buckets in which aliases are kept. -/
def aliasBuckets : Nat := 39

/-- The number of buckets in which programs are kept. -/
def trackedBuckets : Nat := 31

/-- The alias with this name replaced, or one more. -/
def setAlias (name value : String) : List (String × String) → List (String × String)
  | [] => [(name, value)]
  | p :: rest => if p.1 = name then (name, value) :: rest else p :: setAlias name value rest

/-- The equals sign that cuts an alias is not its first character. -/
def cutAlias? (text : String) : Option (String × String) :=
  match text.toList with
  | [] => none
  | c :: cs =>
    let name := c :: cs.takeWhile (· ≠ '=')
    if name.length < cs.length + 1 then
      some (String.ofList name, String.ofList (cs.drop name.length))
    else none

/-- Makes or lists aliases. -/
def makeAliases : BuiltIn := fun args => do
  if args.isEmpty then
    Run.say (String.join ((inBuckets aliasBuckets (← get).aliases).map aliasLine))
  else
    let (out, failed) ← args.foldlM (fun (s : String × Bool) text => do
      match cutAlias? text with
      | some (name, value) =>
        modify fun m => { m with aliases := setAlias name value m.aliases }
        return s
      | none =>
        match (← get).aliases.lookup text with
        | some value => return (s.1 ++ aliasLine (text, value), s.2)
        | none =>
          Run.report ("alias: " ++ text ++ " not found\n")
          return (s.1, true)) ("", false)
    Run.say out
    if failed then Run.setStatus 1

/-- Removes aliases. -/
def removeAliases : BuiltIn := fun args => do
  let (opts, names) ← options ['a'] [] args
  if !opts.isEmpty then
    modify fun m => { m with aliases := [] }
    Run.setStatus 0
  else
    let failed ← names.foldlM (fun failed name => do
      let m ← get
      if (m.aliases.lookup name).isSome then
        set { m with aliases := m.aliases.filter (·.1 ≠ name) }
        return failed
      else
        Run.report ("unalias: " ++ name ++ " not found\n")
        return true) false
    Run.setStatus (if failed then 1 else 0)

/-- What a name stands for, in words, and whether it stands for anything. -/
def describe (name : String) : Meaning → String × Bool
  | .keyword => (name ++ " is a shell keyword\n", true)
  | .alias value => (name ++ " is an alias for " ++ value ++ "\n", true)
  | .function => (name ++ " is a shell function\n", true)
  | .builtIn special =>
    (name ++ (if special then " is a special shell builtin\n" else " is a shell builtin\n"), true)
  | .program path tracked =>
    (name ++ (if tracked then " is a tracked alias for " else " is ") ++ path ++ "\n", true)
  | .nothing => (name ++ ": not found\n", false)

/-- What a name stands for, in a form that a script can use. -/
def identify (name : String) : Meaning → String × Bool
  | .alias value => ("alias " ++ aliasLine (name, value), true)
  | .program path _ => (path ++ "\n", true)
  | .nothing => ("", false)
  | _ => (name ++ "\n", true)

/-- Says what names stand for. -/
def tellMeanings (tell : String → Meaning → String × Bool) : BuiltIn := fun names => do
  let told ← names.mapM fun name => do
    let told := tell name (meaning (← get) name)
    Run.trackNamed name
    return told
  Run.say (String.join (told.map Prod.fst))
  if told.any fun t => !t.2 then Run.setStatus 127

/-- Lists, forgets or looks for programs. -/
def trackPrograms : BuiltIn := fun args => do
  let (opts, names) ← options ['r', 'v'] [] args
  if opts.any (·.1 == 'r') then
    modify fun m => { m with tracked := [] }
    Run.setStatus 0
  else if names.isEmpty then
    let entries := inBuckets trackedBuckets (← get).tracked
    Run.say (String.join (entries.map fun p => p.2 ++ "\n"))
  else
    let failed ← names.foldlM (fun failed name => do
      let m ← get
      match meaning m name with
      | .program path _ => Run.track name path; return failed
      | .nothing => Run.complain (name ++ ": not found"); return true
      | _ => return failed) false
    Run.setStatus (if failed then 1 else 0)

end PipeShell.Script
