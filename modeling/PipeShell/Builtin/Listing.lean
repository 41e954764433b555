import PipeShell.Builtin.Words

/-!
# Directory listings

`ls` shows files as they are named and directories by their entries, in order of name.  Options and
paths may be mixed; the options hold for all paths.  An entry is described by what its path leads
to.  The path is that of the directory, as it was given, with the name behind it.  Where it leads
nowhere, as with a link to nothing, the entry is described by itself.
-/

namespace PipeShell.Builtin

/-- What `ls` shows. -/
structure ListOptions where
  /-- Names that begin with a dot, too. -/
  all : Bool
  /-- Kind and size, too. -/
  long : Bool
deriving Repr, DecidableEq

/-- One line of a listing. -/
structure Listed where
  name : String
  isDirectory : Bool
  size : Nat
deriving Repr, DecidableEq

/-- The options with one letter more; the letter, if it is no option. -/
def ListOptions.add (o : ListOptions) (letter : Char) : Except Char ListOptions :=
  if letter = 'a' then .ok { o with all := true }
  else if letter = 'l' then .ok { o with long := true }
  else if letter = '1' then .ok o
  else .error letter

/-- The options with several letters more. -/
def ListOptions.addAll (o : ListOptions) : List Char → Except Char ListOptions
  | [] => .ok o
  | c :: cs =>
    match o.add c with
    | .ok o' => addAll o' cs
    | .error c => .error c

/-- The options and the paths among the arguments.  A dash alone is a path. -/
def listArgs (o : ListOptions) : List String → Except Char (ListOptions × List String)
  | [] => .ok (o, [])
  | arg :: rest =>
    match arg.toList with
    | '-' :: c :: cs =>
      match o.addAll (c :: cs) with
      | .error c => .error c
      | .ok o' => listArgs o' rest
    | _ => (listArgs o rest).map fun r => (r.1, arg :: r.2)

/-- A line of a listing. -/
def Listed.line (o : ListOptions) (l : Listed) : String :=
  let shown := l.name ++ (if l.isDirectory then "/" else "")
  if o.long then
    (if l.isDirectory then "d " else "- ") ++ Text.padLeft 10 (toString l.size) ++ " " ++ shown
  else shown

/-- The description of an entry of the directory at a path. -/
def describe (disk : Disk) (dir : String) (child : String × Entry) : Listed :=
  match disk.lookUp (Path.join dir child.1) with
  | .ok (_, e) => ⟨child.1, e.isDirectory, e.size⟩
  | .error _ => ⟨child.1, child.2.isDirectory, child.2.size⟩

/-- The entries of the directory at a path that are shown, in order of name. -/
def listDirectory (disk : Disk) (o : ListOptions) (dir : String)
    (children : List (String × Entry)) : List Listed :=
  let shown := children.filter fun c => o.all || c.1.toList.head? ≠ some '.'
  (shown.map (describe disk dir)).mergeSort fun a b => decide (a.name ≤ b.name)

/-- The output about one path.  Among several paths a directory has its name above it, and a blank
line before that unless it comes first. -/
def listTarget (v : View) (o : ListOptions) (several : Bool) (target : Nat × String) :
    Except CommandError ByteArray :=
  match v.resolve target.2 with
  | .error e => .error e
  | .ok path =>
    match v.disk.lookUp path with
    | .error _ => .error (.notFound target.2)
    | .ok (l, .directory) =>
      let blank := if several && 0 < target.1 then "\n" else ""
      let header := if several then target.2 ++ ":\n" else ""
      let listing := listDirectory v.disk o path (v.disk.children l)
      .ok (Text.encode (blank ++ header ++ printLines (listing.map (·.line o))))
    | .ok (_, e) =>
      .ok (Text.encode (printLines [Listed.line o ⟨target.2, false, e.size⟩]))

/-- `ls [-a] [-l] [PATH...]`: lists the paths, the shell's directory by default. -/
def lsCommand (v : View) (args : List String) : Report :=
  match listArgs ⟨false, false⟩ args with
  | .error c => .fail (.invalidArguments ("invalid option -- '" ++ c.toString ++ "'"))
  | .ok (o, paths) =>
    let targets := if paths.isEmpty then ["."] else paths
    .each (listTarget v o (1 < targets.length)) (targets.zipIdx.map fun p => (p.2, p.1))

end PipeShell.Builtin
