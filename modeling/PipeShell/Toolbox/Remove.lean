import PipeShell.Toolbox.Arguments

/-!
# Removing files

`rm` removes its operands, directories with all that is in them if it is told to.  It can ask about
each of them, and reads the answers from its input.
-/

namespace PipeShell.Toolbox

/-- When `rm` asks. -/
inductive Asking where
  | never
  | once
  | always
deriving Repr, DecidableEq

/-- How `rm` removes. -/
structure Removing where
  asking : Asking
  /-- What is missing does not matter. -/
  force : Bool
  recursive : Bool
  /-- Empty directories are removed. -/
  empties : Bool
  /-- What was removed is told. -/
  tells : Bool
  /-- The root is not removed. -/
  keepsRoot : Bool

/-- The options of `rm`. -/
def rmForms : List OptionForm :=
  [⟨"d", "dir", .nothing⟩, ⟨"f", "force", .nothing⟩, ⟨"i", "", .nothing⟩, ⟨"I", "", .nothing⟩,
   ⟨"interactive", "interactive", .maybe⟩, ⟨"one-file-system", "one-file-system", .nothing⟩,
   ⟨"no-preserve-root", "no-preserve-root", .nothing⟩, ⟨"preserve-root", "preserve-root", .maybe⟩,
   ⟨"r", "recursive", .nothing⟩, ⟨"R", "recursive", .nothing⟩, ⟨"v", "verbose", .nothing⟩]

/-- The times to ask that an argument can name. -/
def askingChoices : List (String × Asking) :=
  [("never", .never), ("no", .never), ("none", .never), ("once", .once), ("always", .always),
   ("yes", .always)]

/-- What an option of `rm` asks for. -/
def Removing.add (r : Removing) (key : String) (value : Option String) : Task Removing := do
  match key with
  | "d" => return { r with empties := true }
  | "f" => return { r with asking := .never, force := true }
  | "i" => return { r with asking := .always, force := false }
  | "I" => return { r with asking := .once, force := false }
  | "interactive" =>
    let asking ← value.elim (pure .always) (Task.choose "--interactive" 1 askingChoices)
    return { r with asking, force := r.force && asking = .never }
  | "no-preserve-root" => return { r with keepsRoot := false }
  | "preserve-root" =>
    match value with
    | none => return { r with keepsRoot := true }
    | some "all" => return { r with keepsRoot := true }
    | some text => Task.fail 1 ("unrecognized --preserve-root argument: " ++ quoted text)
  | "v" => return { r with tells := true }
  | "one-file-system" => return r
  | _ => return { r with recursive := true }

/-- Asks something; whether the answer is yes. -/
def asks (question : String) : Task Bool := do
  Task.report ((← read).name ++ ": " ++ question ++ "? ")
  let p ← get
  match p.left with
  | .bytes data =>
    let length := (data.data.toList.takeWhile (· ≠ 10)).length
    set { p with
      left := .bytes (data.extract (length + 1) data.size)
      used := p.used + length + 1 }
    return data.data[0]? == some 121 || data.data[0]? == some 89
  | .zeros => Task.hang
  | .fault _ => return false

/-- What kind of thing it is that is to be removed. -/
def kindText : Entry → String
  | .directory => "directory"
  | .file data _ => if data.isEmpty then "regular empty file" else "regular file"
  | .program _ => "regular file"
  | .link _ => "symbolic link"
  | .device _ => "character special file"

namespace Removing

/-- Something cannot be removed. -/
def refuse (path : String) (fault : Fault) : Task Bool := do
  Task.warn 1 ("cannot remove " ++ shellQuoted true path ++ ": " ++ faultText fault)
  return false

/-- The path is that of a link with a slash behind it. -/
def isSlashedLink (disk : Disk) (path : String) : Bool :=
  Path.endsWithSlash path &&
    match disk.lookUpLink (Path.ofNames (Path.names path)) with
    | .ok (_, .link _) => true
    | _ => false

/-- Removes what nothing is in. -/
def excise (r : Removing) (path : String) (directory : Bool) : Task Bool := do
  let whole ← Task.path path
  let p ← get
  let removed := if !directory then p.disk.removeFile whole
    else if isSlashedLink p.disk whole then .error .notADirectory
    else p.disk.removeDirectory whole
  match removed with
  | .ok disk =>
    set { p with disk }
    if r.tells then
      Task.say ((if directory then "removed directory " else "removed ")
        ++ shellQuoted true path ++ "\n")
    return true
  | .error fault => refuse path fault

/-- Asks about a removal, if `rm` asks always. -/
def confirm (r : Removing) (action path : String) : Task Bool :=
  if r.asking = .always then asks (action ++ " " ++ shellQuoted true path) else pure true

/-- The last name of a path. -/
def lastName (path : String) : String := (Path.names path).getLast?.getD ""

/-- Removes what a path leads to; whether it is gone. -/
def removeAt (r : Removing) : (depth : Nat) → (top : Bool) → (path : String) → Task Bool
  | 0, _, path => refuse path .nameTooLong
  | depth + 1, top, path => do
    let whole ← Task.path path
    let disk := (← get).disk
    match disk.lookUpLink whole with
    | .error fault =>
      if r.force && (fault = .notFound || fault = .notADirectory) then return true
      refuse path fault
    | .ok (l, .directory) =>
      let children := (disk.children l).map fun p => Text.spread p.1
      let empty := children.isEmpty
      if !r.recursive && !(r.empties && empty) then
        return ← refuse path (if r.empties then .notEmpty else .isADirectory)
      if top && (lastName path == "." || lastName path == "..") then
        Task.warn 1 ("refusing to remove '.' or '..' directory: skipping "
          ++ shellQuoted true path)
        return false
      if top && l.isEmpty && r.keepsRoot then
        let same := if path == "/" then "" else " (same as '/')"
        Task.warn 1 ("it is dangerous to operate recursively on " ++ shellQuoted true path ++ same)
        Task.complain "use --no-preserve-root to override this failsafe"
        return false
      if !(← r.confirm (if empty then "remove directory" else "descend into directory") path) then
        return false
      if empty then return ← r.excise path true
      let front := if path.endsWith "/" then path else path ++ "/"
      let gone ← children.foldlM (fun gone name => do
        let it ← removeAt r depth false (front ++ name)
        return gone && it) true
      if gone && (← r.confirm "remove directory" path) then r.excise path true else return false
    | .ok (_, e) =>
      if ← r.confirm ("remove " ++ kindText e) path then r.excise path false else return false

/-- Deeper than any path leads. -/
def depthLimit : Nat := 4096

end Removing

/-- An argument that was taken for options is the name of a file. -/
def hintOperand : Task Unit := do
  let disk := (← get).disk
  for arg in (← read).args do
    if arg.startsWith "-" && arg != "-" && (disk.lookUpLink (← Task.path arg)).isOk then
      Task.report ("Try '" ++ (← read).name ++ " ./" ++ shellQuoted false arg
        ++ "' to remove the file " ++ shellQuoted true arg ++ ".\n")
      return

/-- The root may not be given up by half a word. -/
def cutsRootOption (args : List String) : Bool :=
  (args.takeWhile (· ≠ "--")).any fun a =>
    "--no-p".toList.isPrefixOf a.toList && a != "--no-preserve-root"
      && "--no-preserve-root".startsWith a

/-- Removes the operands. -/
def rm : Task Unit := do
  let args := (← read).args
  match (Arguments.read rmForms false args).fault with
  | none => pure ()
  | some e =>
    Task.complain e.message
    hintOperand
    Task.report ("Try '" ++ (← read).name ++ " --help' for more information.\n")
    Task.leave 1
  if cutsRootOption args then
    Task.fail 1 "you may not abbreviate the --no-preserve-root option"
  let (r, operands) ← Task.arguments rmForms false 1
    (⟨.never, false, false, false, false, true⟩ : Removing) Removing.add args
  if operands.isEmpty then
    if r.force then Task.stop else Task.misuse 1 "missing operand"
  let count := operands.length
  if r.asking = .once && (r.recursive || 3 < count) then
    let many := if count = 1 then "1 argument" else toString count ++ " arguments"
    if !(← asks ("remove " ++ many ++ if r.recursive then " recursively" else "")) then Task.stop
  for operand in operands do
    let _ ← r.removeAt Removing.depthLimit true operand

end PipeShell.Toolbox
