import SessionStreams.Boundary.Basic

set_option autoImplicit false

/- Entry points for streams. A stream over a descriptor owns it: freeing the stream closes it. -/

namespace SessionStreams.Boundary

/-- Opens the file at `path` for reading. -/
def tryOpenReader (boundary : Boundary) (path : Path) : Except Fault Nat × Boundary :=
  match boundary.world.openForReading path with
  | .error failure => (.error (.ofIo failure), boundary)
  | .ok (fd, world) =>
      let (reader, after) := { boundary with world }.addReader (.descriptor fd)
      (.ok reader, after)

def openReader (boundary : Boundary) (slot : ErrorSlot) (filename : Option Terminated) :
    Outcome (Reply (Option Nat)) := do
  let filename ← Outcome.require "filename" filename
  .done (concludeHandle slot (boundary.tryOpenReader filename.path))

/-- Makes a stream from arguments that were checked first. -/
def tryAdd {α : Type} (boundary : Boundary) (checked : Except Fault α)
    (add : α → Nat × Boundary) : Except Fault Nat × Boundary :=
  match checked with
  | .error fault => (.error fault, boundary)
  | .ok value =>
      let (id, after) := add value
      (.ok id, after)

/-- A reader that takes over a descriptor. -/
def readerOverDescriptor (boundary : Boundary) (slot : ErrorSlot) (fd : Int) :
    Outcome (Reply (Option Nat)) :=
  .done (concludeHandle slot
    (boundary.tryAdd (checkDescriptor fd) fun fd => boundary.addReader (.descriptor fd)))

/-- A reader over lent bytes. -/
def readerOverBytes (boundary : Boundary) (slot : ErrorSlot) (data : Loan) :
    Outcome (Reply (Option Nat)) :=
  .done (concludeHandle slot
    (boundary.tryAdd data.view fun data => boundary.addReader (.bytes data)))

def freeReader (boundary : Boundary) (reader : Option Nat) : Outcome Boundary :=
  match reader with
  | none => .done boundary
  | some id => do
      let reader ← Outcome.live (boundary.readers.get? id)
      .done { boundary with
        world := reader.finish boundary.world
        readers := boundary.readers.release id }

/-- Reads at most `count` bytes from the reader with the handle `id`. -/
def tryRead (boundary : Boundary) (id : Nat) (reader : Reader) (room : Room) :
    Except Fault Bytes × Boundary :=
  match room.view with
  | .error fault => (.error fault, boundary)
  | .ok count =>
      match reader.read count boundary.world with
      | .error failure => (.error (.ofIo failure), boundary)
      | .ok (data, reader, world) =>
          (.ok data, { boundary with world, readers := boundary.readers.set id reader })

/-- Reads into the caller's room: the count, or -1, and the bytes that the room now starts with. -/
def read (boundary : Boundary) (slot : ErrorSlot) (reader : Option Nat) (room : Room) :
    Outcome (Reply (Int × Bytes)) := do
  let id ← Outcome.require "reader" reader
  let reader ← Outcome.live (boundary.readers.get? id)
  .done (conclude slot (fun data => ((data.length : Int), data)) (fun _ => (-1, []))
    (boundary.tryRead id reader room))

/-- Creates or truncates the file at `path`. -/
def tryOpenWriter (boundary : Boundary) (path : Path) : Except Fault Nat × Boundary :=
  match boundary.world.openForWriting path .truncate with
  | .error failure => (.error (.ofIo failure), boundary)
  | .ok (fd, world) =>
      let (writer, after) := { boundary with world }.addWriter (.buffered fd [])
      (.ok writer, after)

def openWriter (boundary : Boundary) (slot : ErrorSlot) (filename : Option Terminated) :
    Outcome (Reply (Option Nat)) := do
  let filename ← Outcome.require "filename" filename
  .done (concludeHandle slot (boundary.tryOpenWriter filename.path))

/-- A buffered writer that takes over a descriptor. -/
def writerOverDescriptor (boundary : Boundary) (slot : ErrorSlot) (fd : Int) :
    Outcome (Reply (Option Nat)) :=
  .done (concludeHandle slot
    (boundary.tryAdd (checkDescriptor fd) fun fd => boundary.addWriter (.buffered fd [])))

/-- A writer that fills lent memory from the start and takes nothing more once it is full. -/
def writerOverMemory (boundary : Boundary) (slot : ErrorSlot) (region : Region) :
    Outcome (Reply (Option Nat)) :=
  .done (concludeHandle slot (boundary.tryAdd region.view boundary.addWriter))

/-- A writer that adds to the buffer of a sink, given by the places of its address and length. -/
def growingWriter (boundary : Boundary) (buffer length : Option Nat) : Outcome (Nat × Boundary) := do
  let sink ← Outcome.require "buf" buffer
  let _ ← Outcome.require "len" length
  .done (boundary.addWriter (.growing sink))

def tryWrite (boundary : Boundary) (id : Nat) (writer : Writer) (data : Loan) :
    Except Fault Nat × Boundary :=
  match data.view with
  | .error fault => (.error fault, boundary)
  | .ok data =>
      match writer.write data boundary.world with
      | (taken, writer, world) =>
          (taken.mapError .ofIo,
            { boundary with world, writers := boundary.writers.set id writer })

/-- Writes lent bytes: how many were taken, or -1. -/
def write (boundary : Boundary) (slot : ErrorSlot) (writer : Option Nat) (data : Loan) :
    Outcome (Reply Int) := do
  let id ← Outcome.require "writer" writer
  let writer ← Outcome.live (boundary.writers.get? id)
  .done (conclude slot (fun (taken : Nat) => (taken : Int)) (fun _ => -1)
    (boundary.tryWrite id writer data))

def tryFlush (boundary : Boundary) (id : Nat) (writer : Writer) : Except Fault Unit × Boundary :=
  match writer.flush boundary.world with
  | (flushed, writer, world) =>
      (flushed.mapError .ofIo,
        { boundary with world, writers := boundary.writers.set id writer })

def flush (boundary : Boundary) (slot : ErrorSlot) (writer : Option Nat) :
    Outcome (Reply Status) := do
  let id ← Outcome.require "writer" writer
  let writer ← Outcome.live (boundary.writers.get? id)
  .done (conclude slot (fun _ => .success) Fault.status (boundary.tryFlush id writer))

/-- Flushes and closes a writer. Failures are not reported. -/
def freeWriter (boundary : Boundary) (writer : Option Nat) : Outcome Boundary :=
  match writer with
  | none => .done boundary
  | some id => do
      let writer ← Outcome.live (boundary.writers.get? id)
      .done { boundary with
        world := writer.finish boundary.world
        writers := boundary.writers.release id }

end SessionStreams.Boundary
