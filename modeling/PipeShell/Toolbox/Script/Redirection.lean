import PipeShell.Toolbox.Script.Expansion

/-!
# Redirections

A redirection makes a channel lead to a file, to a text of the script, to where another channel
leads, or nowhere.  All words of a command's redirections are expanded before the first one is
carried out, except for texts of the script.
-/

namespace PipeShell.Script

/-! ## Opening files -/

/-- What a file is opened for. -/
structure Opening where
  reads : Bool
  writes : Bool
  /-- What the file holds is gone. -/
  empties : Bool
  /-- All is written at the end. -/
  appends : Bool

/-- The world with a file at a location opened. -/
def World.openAt (w : World) (o : Opening) (l : Location) (held : ByteArray) : World × Channel :=
  let (w, n) := w.addFile ⟨w.disk.openAt l, 0, o.reads, o.writes, o.appends, held⟩
  (w, .file n)

/-- The world with a file opened that was opened before. -/
def World.openAgain (w : World) (o : Opening) (h : Handle) : World × Channel :=
  let w := if o.empties then { w with disk := w.disk.editOpen h.file fun _ => .empty } else w
  w.openAt o h.file.location ((w.disk.openBytes? h.file).getD h.held)

/-- Opens what a path leads to.  A file that is to be written is made if there is none. -/
def Run.openPath (o : Opening) (path : String) : Run (Except Fault Channel) := do
  let m ← get
  let change (data : ByteArray) : ByteArray := if o.empties then .empty else data
  match if o.writes then m.world.disk.edit path change else .ok m.world.disk with
  | .error fault => return .error fault
  | .ok disk =>
    let opened (p : World × Channel) : Run (Except Fault Channel) := do
      set { m with world := p.1 }
      return .ok p.2
    let w := { m.world with disk }
    match disk.lookUp path with
    | .error fault => return .error fault
    | .ok (_, .device (.channel n)) =>
      match m.channel? n with
      | none => return .error .notFound
      | some (.file k) =>
        match w.files[k]? with
        | some h => opened (w.openAgain o h)
        | none => return .error .notFound
      | some c => return .ok c
    | .ok (_, .device kind) => return .ok (.device kind)
    | .ok (l, .file data _) => opened (w.openAt o l data)
    | .ok (l, .program _) => opened (w.openAt o l Disk.programBytes)
    | .ok (l, _) => opened (w.openAt o l .empty)

/-! ## Redirections -/

/-- Where a channel is to lead. -/
inductive Target where
  | document (w : Word)
  | path (text : String)
  /-- Where another channel leads, or nowhere. -/
  | channel (n : Option Nat)

/-- Where a redirection leads. -/
def targetOf (inner : Level) (r : Redirect) : Run Target := do
  match r.operator with
  | "<<" => return .document r.target
  | op =>
    let text ← expandText inner false r.target
    if op != ">&" && op != "<&" then return .path text
    match text.toList with
    | ['-'] => return .channel none
    | [c] => if c.isDigit then return .channel (some (c.toNat - 48))
    | _ => pure ()
    Run.fail ScriptError.badChannel.message

/-- What an operator opens a file for. -/
def openingOf : String → Opening
  | "<" => ⟨true, false, false, false⟩
  | "<>" => ⟨true, true, false, false⟩
  | ">>" => ⟨false, true, false, true⟩
  | _ => ⟨false, true, true, false⟩

/-- The message about a file that could not be opened. -/
def openingText (o : Opening) (path : String) (fault : Fault) : String :=
  let missing := fault = .notFound || fault = .notADirectory
  if o.writes then "cannot create " ++ path ++ ": " ++
    (if missing then "Directory nonexistent" else Toolbox.faultText fault)
  else "cannot open " ++ path ++ ": " ++
    (if missing then "No such file" else Toolbox.faultText fault)

/-- Some files are not to be written over. -/
def isProtected (m : Machine) (r : Redirect) (path : String) : Bool :=
  r.operator == ">" && m.options.contains 'C' &&
    match m.world.disk.lookUp path with
    | .ok (_, e) => e.isFile
    | .error _ => false

/-- Carries out a redirection; the complaint if that is not possible. -/
def redirectTo (inner : Level) (r : Redirect) : Target → Run (Option String)
  | .document w => do
    let text := joinChunks (← (inner ()).chunks false w)
    let n ← Run.newBuffer (.ofBytes (Text.octets text))
    Run.setChannel r.number (.buffer n)
    return none
  | .channel none => do
    Run.closeChannel r.number
    return none
  | .channel (some n) => do
    if n = r.number then return none
    match (← get).channel? n with
    | some c => Run.setChannel r.number c; return none
    | none => return some (toString n ++ ": " ++ Toolbox.faultText .badChannel)
  | .path text => do
    let m ← get
    let o := openingOf r.operator
    let path := m.path text
    if isProtected m r path then return some (openingText o text .alreadyExists)
    match ← Run.openPath o path with
    | .ok c => Run.setChannel r.number c; return none
    | .error fault => return some (openingText o text fault)

/-- Carries out redirections up to one that is not possible; whether there is none. -/
def redirectAll (inner : Level) (targets : List (Redirect × Target)) : Run Bool := do
  let go : Run Bool :=
    targets.foldlM (fun ready t => do
      if !ready then return false
      match ← redirectTo inner t.1 t.2 with
      | none => return true
      | some text => Run.complain text; return false) true
  try go
  catch
    | .failed => return false
    | stop => throw stop

/-- Redirections with where they lead. -/
def targetsOf (inner : Level) (rs : List Redirect) : Run (List (Redirect × Target)) :=
  rs.mapM fun r => do return (r, ← targetOf inner r)

end PipeShell.Script
