import SessionStreams.Boundary.Buffered
import SessionStreams.World.Descriptors

set_option autoImplicit false

/- Readers and writers behind the boundary, by what they read from and write to. -/

namespace SessionStreams.Boundary

inductive Reader where
  | descriptor (fd : Nat)
  /-- Bytes that are still to be read. -/
  | bytes (rest : Bytes)
deriving DecidableEq

inductive Writer where
  /-- Writes to a descriptor through a buffer with some bytes pending. -/
  | buffered (fd : Nat) (pending : Bytes)
  /-- Fills the first `length` bytes of a region of memory. -/
  | fixed (region : Option Nat) (length position : Nat)
  /-- Adds to a growing buffer. -/
  | growing (sink : Nat)
deriving DecidableEq

namespace Reader

def read (reader : Reader) (count : Nat) (world : World) :
    Except IoFailure (Bytes × Reader × World) :=
  match reader with
  | .descriptor fd =>
      match world.read fd count with
      | .error failure => .error failure
      | .ok (data, after) => .ok (data, .descriptor fd, after)
  | .bytes rest => .ok (rest.take count, .bytes (rest.drop count), world)

/-- Closes the reader's descriptor, if it has one. -/
def finish (reader : Reader) (world : World) : World :=
  match reader with
  | .descriptor fd => world.close fd
  | .bytes _ => world

end Reader

/-- Writes to a descriptor. A write that fails changes nothing. -/
def push (fd : Nat) (data : Bytes) (world : World) : Except IoFailure Nat × World :=
  match world.write fd data with
  | .ok (taken, after) => (.ok taken, after)
  | .error failure => (.error failure, world)

/-- A descriptor as a device, which nothing interrupts. -/
def offerTo (fd : Nat) : Offer World := .steady (push fd)

/-- Stores `data` in a region from `position` on. -/
def fill (world : World) (region : Option Nat) (position : Nat) (data : Bytes) : World :=
  match region with
  | none => world
  | some id =>
      match world.memory.get? id with
      | none => world
      | some content =>
          { world with memory := world.memory.set id (content.overlay position data) }

/-- Adds `data` to a sink. -/
def extend (world : World) (id : Nat) (data : Bytes) : World :=
  match world.sinks.get? id with
  | none => world
  | some sink => { world with sinks := world.sinks.set id (sink.grow data) }

namespace Writer

def write (writer : Writer) (data : Bytes) (world : World) :
    Except IoFailure Nat × Writer × World :=
  match writer with
  | .buffered fd pending =>
      match Buffered.write (offerTo fd) data pending world with
      | (taken, pending, after) => (taken, .buffered fd pending, after)
  | .fixed region length position =>
      let taken := data.take (length - position)
      (.ok taken.length, .fixed region length (position + taken.length),
        fill world region position taken)
  | .growing sink => (.ok data.length, .growing sink, extend world sink data)

def flush (writer : Writer) (world : World) : Except IoFailure Unit × Writer × World :=
  match writer with
  | .buffered fd pending =>
      match Buffered.drain (offerTo fd) pending world with
      | (flushed, pending, after) => (flushed, .buffered fd pending, after)
  | .fixed region length position => (.ok (), .fixed region length position, world)
  | .growing sink => (.ok (), .growing sink, world)

def closeTarget (writer : Writer) (world : World) : World :=
  match writer with
  | .buffered fd _ => world.close fd
  | .fixed _ _ _ => world
  | .growing _ => world

/-- Flushes, flushes what was left once more, and closes the writer's descriptor. -/
def finish (writer : Writer) (world : World) : World :=
  let (_, writer, world) := writer.flush world
  let (_, writer, world) := writer.flush world
  writer.closeTarget world

end Writer

end SessionStreams.Boundary
