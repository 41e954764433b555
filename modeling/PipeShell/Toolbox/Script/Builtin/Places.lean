import PipeShell.Toolbox.Script.Builtin

/-!
# Commands about directories and permissions

A script keeps the path by which it came to its directory, so `..` takes back the last step even if
that led through a link.
-/

namespace PipeShell.Script

/-! ## Directories -/

/-- The path that leads from a directory along another path, with `.` and `..` worked out as text.
Two slashes at the front are kept. -/
def walkText (dir path : String) : String :=
  let whole := Path.join dir path
  let names := (Path.names whole).foldl (fun (done : List String) name =>
    if name = "." then done else if name = ".." then done.tail else name :: done) []
  let double := match path.toList with
    | ['/', '/'] => true
    | '/' :: '/' :: c :: _ => c != '/'
    | _ => false
  (if double then "/" else "") ++ Path.ofNames names.reverse

/-- Goes to a directory; whether that is possible. -/
def enter (physical : Bool) (target : String) : Run Bool := do
  let m ← get
  let written := Text.gather target
  let path := if physical then Path.join m.dir written else walkText m.dir written
  match m.world.disk.canonicalDirectory? path with
  | none => return false
  | some canonical =>
    let old := m.dir
    let mark (name value : String) : Run Unit :=
      Run.changeVar name fun v => { v with value := some (Text.spread value), exported := true }
    mark "OLDPWD" old
    let dir := if physical then canonical else path
    modify fun m => { m with dir }
    mark "PWD" dir
    return true

/-- A path that is not looked for in other directories. -/
def isDirect (target : String) : Bool :=
  target.startsWith "/" || target == "." || target == ".." || target.startsWith "./"
    || target.startsWith "../"

/-- The directory that a path stands for, looked for in the directories of `CDPATH`, and whether it
was found elsewhere. -/
def searchDirectory (m : Machine) (target : String) : String × Bool :=
  match if isDirect target then none else m.value? "CDPATH" with
  | none => (target, false)
  | some places =>
    let candidate (entry : String) : String :=
      if entry.isEmpty then target else entry ++ "/" ++ target
    match (SearchPath.split places).find? fun entry =>
        m.world.disk.isDirectory (m.path (candidate entry)) with
    | some entry => (candidate entry, !entry.isEmpty)
    | none => (target, false)

/-- Goes to another directory. -/
def changeDir : BuiltIn := fun args => do
  let (opts, operands) ← options ['L', 'P'] [] args
  let m ← get
  let back := operands.head? == some "-"
  let target := match operands with
    | [] => (m.value? "HOME").getD ""
    | "-" :: _ => (m.value? "OLDPWD").getD ""
    | a :: _ => a
  let (found, elsewhere) := searchDirectory m (if target.isEmpty then "." else target)
  if ← enter (opts.getLast?.any (·.1 == 'P')) found then
    if back || elsewhere then Run.say (Text.spread (← get).dir ++ "\n") else Run.setStatus 0
  else Run.fail ("can't cd to " ++ target)

/-- Says which directory the script is in. -/
def tellDir : BuiltIn := fun args => do
  let (opts, _) ← options ['L', 'P'] [] args
  let m ← get
  let dir := if opts.getLast?.any (·.1 == 'P')
    then (m.world.disk.canonicalDirectory? m.dir).getD m.dir else m.dir
  Run.say (Text.spread dir ++ "\n")

/-! ## Permissions of new files -/

/-- The bits of a permission. -/
def permissionBits : Char → Nat
  | 'r' => 4
  | 'w' => 2
  | 'x' => 1
  | _ => 0

/-- The factor of the bits of users. -/
def userFactor : Char → Nat
  | 'u' => 64
  | 'g' => 8
  | 'o' => 1
  | _ => 73

/-- A change of permissions such as `go-w`. -/
def changeMode (mode : Nat) (clause : List Char) : Option Nat :=
  let users := clause.takeWhile ['u', 'g', 'o', 'a'].contains
  match clause.drop users.length with
  | op :: letters =>
    if letters.any fun c => !(['r', 'w', 'x', 'X', 's', 't'].contains c) then none
    else
      let factors := if users.isEmpty then [73] else users.map userFactor
      let spread (bits : Nat) : Nat := factors.foldl (fun n f => n ||| (bits * f)) 0
      let bits := spread (letters.foldl (fun n c => n ||| permissionBits c) 0)
      match op with
      | '+' => some (mode ||| bits)
      | '-' => some (mode &&& (511 ^^^ bits))
      | '=' => some ((mode &&& (511 ^^^ spread 7)) ||| bits)
      | _ => none
  | [] => none

/-- The mask that a text writes, in octal digits or as changes of what is permitted. -/
def readMask (mask : Nat) (text : String) : Run Nat :=
  let cs := text.toList
  if cs.isEmpty then pure 0
  else if (cs.headD ' ').isDigit then
    if cs.all fun c => '0' ≤ c && c ≤ '7' then
      pure (cs.foldl (fun n c => n * 8 + (c.toNat - 48)) 0 % 512)
    else Run.fail (Arithmetic.badNumber text)
  else
    match (Text.fields ',' cs).foldlM changeMode (511 - mask) with
    | some mode => pure (511 - mode)
    | none => Run.fail ("Illegal mode: " ++ text)

/-- What a mask permits, in letters. -/
def permittedText (mask : Nat) : String :=
  let letters (user : String) (n : Nat) : String :=
    let bits := 7 - n % 8
    user ++ "=" ++ (if 4 ≤ bits then "r" else "") ++ (if 2 ≤ bits % 4 then "w" else "")
      ++ (if bits % 2 = 1 then "x" else "")
  letters "u" (mask / 64) ++ "," ++ letters "g" (mask / 8) ++ "," ++ letters "o" mask

/-- Says or changes what is not permitted to users of new files. -/
def changeMask : BuiltIn := fun args => do
  let (opts, operands) ← options ['S'] [] args
  let m ← get
  match operands with
  | [] =>
    if opts.isEmpty then
      let digits := String.ofList (Nat.toDigits 8 m.mask)
      Run.say (String.ofList (List.replicate (4 - digits.length) '0') ++ digits ++ "\n")
    else Run.say (permittedText m.mask ++ "\n")
  | text :: _ =>
    let mask ← readMask m.mask text
    set { m with mask }
    Run.setStatus 0

/-! ## Limits -/

/-- Says the limit of file sizes. -/
def tellLimit : BuiltIn := fun args => do
  let (_, operands) ← options ("HSatfdscmlpnvwr".toList) [] args
  if operands.isEmpty then Run.say "unlimited\n" else Run.setStatus 0

/-- Says how much time was used. -/
def tellTimes : BuiltIn := fun _ =>
  Run.say ("0m0.000000s 0m0.000000s\n" ++ "0m0.000000s 0m0.000000s\n")

end PipeShell.Script
