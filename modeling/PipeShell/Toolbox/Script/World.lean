import PipeShell.Toolbox.Job
import PipeShell.Toolbox.Octets

/-!
# What scripts share

A script and the scripts and programs that it starts share a `World`: the disk, the buffers between
them, the files that are held open, and the clock.  A channel leads to one of these.

Buffers are the pipes between commands.  What is written to a buffer is stamped with the time and
the process, so that the output of processes that run side by side is read in the order of time.  A
buffer can have limited room.  Once that is used up, a writer has to wait, or is told that the
buffer is broken because nobody reads it any more.  A buffer that is cut has been filled only in
part, and whoever reads it to its end has to wait.
-/

namespace PipeShell.Script

open Toolbox (Input)

/-- Where a channel leads. -/
inductive Channel where
  | buffer (n : Nat)
  | file (n : Nat)
  | device (kind : Device)
deriving Repr, DecidableEq

/-- The number of the buffer or file that a channel leads to. -/
def Channel.number : Channel → Nat
  | buffer n => n
  | file n => n
  | device _ => 0

/-- What a process wrote at some time. -/
structure Piece where
  time : Nat
  process : Nat
  data : ByteArray

/-- What was written and waits for a reader. -/
structure Buffer where
  /-- What was put in order for reading, of which this much has been read. -/
  ready : ByteArray
  taken : Nat
  /-- How much of that was there at some times, in the order of time. -/
  stamps : List (Nat × Nat)
  /-- What was written since then, the latest first. -/
  pieces : List Piece
  /-- The time of the latest piece or, if that is known, of the end. -/
  latest : Nat
  /-- How much more can be written. -/
  room : Option Nat
  broken : Bool
  cut : Bool

/-- A file that is held open. -/
structure Handle where
  file : Disk.OpenFile
  /-- Where the next byte is read or written. -/
  position : Nat
  reads : Bool
  writes : Bool
  /-- All is written at the end. -/
  appends : Bool
  /-- What the file held when it was opened, which can be read even if the file is gone. -/
  held : ByteArray

/-- A background process. -/
structure Child where
  process : Nat
  /-- When it ends. -/
  ends : Nat
  /-- It holds on to what all output goes to. -/
  holds : Bool

/-- When background processes are stopped.  They are run before what goes on beside them, so this
has to be known ahead. -/
structure Plan where
  /-- When all that are left are stopped. -/
  horizon : Option Nat
  /-- When single ones are stopped. -/
  stops : List (Nat × Nat)
deriving Repr, DecidableEq

/-- What scripts share. -/
structure World where
  disk : Disk
  buffers : Array Buffer
  files : Array Handle
  /-- The time since the start, in nanoseconds. -/
  nanos : Nat
  /-- The time at which everything is stopped. -/
  deadline : Option Nat
  /-- The signals that were sent to processes, the latest first. -/
  signals : List (Nat × Nat)
  /-- The highest number of a process so far. -/
  processes : Nat
  plan : Plan
  /-- The background processes, the latest first. -/
  children : List Child
  /-- The background processes that were stopped, and when. -/
  stopped : List (Nat × Nat)

namespace Buffer

/-- A buffer with data in it. -/
def ofBytes (data : ByteArray) : Buffer := ⟨data, 0, [], [], 0, none, false, false⟩

/-- The pieces with one more, in the order of time. -/
def insertPiece (p : Piece) : List Piece → List Piece
  | [] => [p]
  | q :: rest => if q.time ≤ p.time then p :: q :: rest else q :: insertPiece p rest

/-- The buffer with one more piece. -/
def add (b : Buffer) (p : Piece) : Buffer :=
  { b with
    pieces := insertPiece p b.pieces
    latest := max b.latest p.time
    room := b.room.map (· - p.data.size) }

/-- All that waits. -/
def bytes (b : Buffer) : ByteArray :=
  b.pieces.foldr (fun p data => data ++ p.data) (b.ready.extract b.taken b.ready.size)

/-- The buffer with all that waits put in order. -/
def settle (b : Buffer) : Buffer :=
  if b.pieces.isEmpty then b
  else
    let old := (b.stamps.filter (b.taken < ·.1)).map fun s => (s.1 - b.taken, s.2)
    let start := b.ready.size - b.taken
    let new := (b.pieces.foldr (fun p (stamps, size) =>
      let size := size + p.data.size
      ((size, p.time) :: stamps, size)) ([], start)).1
    { b with ready := b.bytes, taken := 0, stamps := old ++ new.reverse, pieces := [] }

/-- The buffer after more has been read. -/
def take (b : Buffer) (size : Nat) : Buffer :=
  let taken := min (b.taken + size) b.ready.size
  { b with taken, stamps := b.stamps.dropWhile (·.1 ≤ taken) }

/-- The time at which so much waited, or at which it was clear that it never would. -/
def timeOf (b : Buffer) (size : Nat) : Nat :=
  let b := b.settle
  if size = 0 then 0
  else if b.ready.size < b.taken + size then b.latest
  else (b.stamps.find? (b.taken + size ≤ ·.1)).elim 0 Prod.snd

/-- How much waited at some time. -/
def sizeAt (b : Buffer) (time : Nat) : Nat :=
  let b := b.settle
  if b.stamps.isEmpty then b.ready.size - b.taken
  else (b.stamps.takeWhile (·.2 ≤ time)).getLast?.elim 0 (·.1 - b.taken)

/-- The buffer without what a process wrote after some time. -/
def silence (process time : Nat) (b : Buffer) : Buffer :=
  { b with pieces := b.pieces.filter fun p => p.process ≠ process || p.time ≤ time }

end Buffer

/-- The data with other bytes from a place on. -/
def spliceBytes (old : ByteArray) (position : Nat) (data : ByteArray) : ByteArray :=
  let gap : ByteArray := ⟨Array.replicate (position - old.size) 0⟩
  old.extract 0 position ++ gap ++ data
    ++ old.extract (position + data.size) old.size

namespace World

/-- The world with a new buffer, and the number of that buffer. -/
def addBuffer (w : World) (b : Buffer) : World × Nat :=
  ({ w with buffers := w.buffers.push b }, w.buffers.size)

/-- The world with a new open file, and its number. -/
def addFile (w : World) (h : Handle) : World × Nat :=
  ({ w with files := w.files.push h }, w.files.size)

/-- What waits in a buffer. -/
def bufferBytes (w : World) (n : Nat) : ByteArray :=
  (w.buffers[n]?).elim .empty Buffer.bytes

/-- The world with a buffer changed. -/
def changeBuffer (w : World) (n : Nat) (f : Buffer → Buffer) : World :=
  { w with buffers := w.buffers.modify n f }

/-- Writes to a channel. -/
def write (w : World) (process : Nat) (c : Channel) (data : ByteArray) : Except Fault World :=
  if data.isEmpty then .ok w
  else
    match c with
    | .buffer n =>
      if (w.buffers[n]?).any (·.room == some 0) then .error .brokenPipe
      else .ok (w.changeBuffer n (·.add ⟨w.nanos, process, data⟩))
    | .file n =>
      match w.files[n]? with
      | none => .error .badChannel
      | some h =>
        if !h.writes then .error .badChannel
        else
          let size := (w.disk.openBytes? h.file).elim h.held.size ByteArray.size
          let position := if h.appends then size else h.position
          .ok { w with
            disk := w.disk.editOpen h.file (spliceBytes · position data)
            files := w.files.modify n fun h => { h with
              position := position + data.size
              held := spliceBytes h.held position data } }
    | .device .full => .error .noSpace
    | .device _ => .ok w

/-- What an open file holds. -/
def fileInput (w : World) (h : Handle) : Input :=
  if !h.reads then .fault .badChannel
  else
    match w.disk.entryAt? h.file.location, w.disk.openBytes? h.file with
    | some .directory, _ => .fault .isADirectory
    | _, data => .bytes ((data.getD h.held).extract h.position (data.getD h.held).size)

/-- What can be read from a channel, or from none. -/
def input (w : World) : Option Channel → Input
  | none => .fault .badChannel
  | some (.buffer n) => .bytes (w.bufferBytes n)
  | some (.file n) => (w.files[n]?).elim .none w.fileInput
  | some (.device .sink) => .none
  | some (.device _) => .zeros

/-- The world after all but this was read from a channel. -/
def leaveInput (w : World) (c : Option Channel) (rest : Input) : World :=
  match c, rest with
  | some (.buffer n), .bytes data =>
    w.changeBuffer n fun b =>
      let b := b.settle
      b.take (b.ready.size - b.taken - data.size)
  | some (.file n), .bytes data =>
    { w with
      files := w.files.modify n fun h =>
        match w.fileInput h with
        | .bytes all => { h with position := h.position + all.size - data.size }
        | _ => h }
  | _, _ => w

/-- The bytes up to the first newline from a place on. -/
def lineAt (data : ByteArray) (start : Nat) : ByteArray :=
  let rec seek (left i : Nat) : Nat :=
    match left with
    | 0 => i
    | left + 1 => if data.get! i == 10 then i else seek left (i + 1)
  data.extract start (seek (data.size - start) start)

/-- A line taken from a channel, whether a newline ends it, and the world without it. -/
def takeLine (w : World) (c : Option Channel) : ByteArray × Bool × World :=
  match c with
  | some (.buffer n) =>
    let w := w.changeBuffer n Buffer.settle
    match w.buffers[n]? with
    | none => (.empty, false, w)
    | some b =>
      let line := lineAt b.ready b.taken
      (line, b.taken + line.size < b.ready.size, w.changeBuffer n (·.take (line.size + 1)))
  | c =>
    match w.input c with
    | .bytes data =>
      let line := lineAt data 0
      (line, line.size < data.size,
        w.leaveInput c (.bytes (data.extract (line.size + 1) data.size)))
    | _ => (.empty, false, w)

/-- The channel leads to a buffer of this kind. -/
def leadsTo (w : World) (kind : Buffer → Bool) : Option Channel → Bool
  | some (.buffer n) => (w.buffers[n]?).any kind
  | _ => false

/-- The time at which so much could be read from a channel. -/
def timeOf (w : World) (size : Nat) : Option Channel → Nat
  | some (.buffer n) => (w.buffers[n]?).elim 0 (·.timeOf size)
  | _ => 0

/-- The world without what a process wrote after some time. -/
def silence (w : World) (process time : Nat) : World :=
  { w with buffers := w.buffers.map (Buffer.silence process time) }

/-- The world in which a background process was stopped. -/
def stopChild (w : World) (process : Nat) : World :=
  { w.silence process w.nanos with
    children := w.children.map fun c => if c.process = process then { c with ends := w.nanos } else c
    stopped := (process, w.nanos) :: w.stopped }

/-- The time at which nobody writes to the output any more. -/
def silenceTime (w : World) : Nat :=
  (w.children.filter (·.holds)).foldl (fun t c => max t c.ends) w.nanos

/-- The time at which everything is stopped has come. -/
def isOverdue (w : World) : Bool := w.deadline.any (· < w.nanos)

end World

end PipeShell.Script
