import SessionStreams.Proofs.Buffering
import SessionStreams.Proofs.Dealings

set_option autoImplicit false

/- Calls behind the boundary on one stream, as a caller makes them who passes an empty error slot,
and the host's actions that stand for them. What comes of a call depends on the stream and the world
alone (`Source.attempt_twin`, `callRead_eq`, `callWriter_eq`). -/

namespace SessionStreams

namespace Boundary

open Host (Error)

/-- What a reader is made over. -/
inductive Source where
  | file (path : Terminated)
  | descriptor (handed : Handed)
  | bytes (data : Bytes)
deriving DecidableEq

/-- What a writer is made over. A growing writer gets a new sink. -/
inductive Destination where
  | file (path : Terminated)
  | descriptor (handed : Handed)
  | memory (region : Region)
  | growing
deriving DecidableEq

def Source.makeReader (source : Source) (boundary : Boundary) : Outcome (Reply (Option Nat)) :=
  match source with
  | .file path => boundary.openReader .empty (some path)
  | .descriptor handed => boundary.readerOverDescriptor .empty handed.number
  | .bytes data => boundary.readerOverBytes .empty (.bytes data)

def Destination.makeWriter (destination : Destination) (boundary : Boundary) :
    Outcome (Reply (Option Nat)) :=
  match destination with
  | .file path => boundary.openWriter .empty (some path)
  | .descriptor handed => boundary.writerOverDescriptor .empty handed.number
  | .memory region => boundary.writerOverMemory .empty region
  | .growing => do
      let sink := boundary.world.sinks.fresh
      let world := { boundary.world with sinks := boundary.world.sinks.alloc .missing }
      let (id, after) ← { boundary with world }.growingWriter (some sink) (some sink)
      .done ⟨some id, .empty, after⟩

/-- What a call returned, and the error that it stored. -/
inductive Returned where
  | handle (id : Option Nat) (stored : Option Fault)
  | bytes (count : Int) (data : Bytes) (stored : Option Fault)
  | count (count : Int) (stored : Option Fault)
  | status (status : Status) (stored : Option Fault)
deriving DecidableEq

def callRead (id count : Nat) (boundary : Boundary) : Outcome (Returned × Boundary) := do
  let reply ← boundary.read .empty (some id) (.space count)
  .done (.bytes reply.result.1 reply.result.2 reply.slot.stored, reply.after)

def callWriter (id : Nat) (request : Request) (boundary : Boundary) :
    Outcome (Returned × Boundary) :=
  match request with
  | .write data => do
      let reply ← boundary.write .empty (some id) (.bytes data)
      .done (.count reply.result reply.slot.stored, reply.after)
  | .flush => do
      let reply ← boundary.flush .empty (some id)
      .done (.status reply.result reply.slot.stored, reply.after)

/-- One call after the other. -/
def callAll {κ : Type} (call : κ → Boundary → Outcome (Returned × Boundary)) :
    List κ → Boundary → Outcome (List Returned × Boundary)
  | [], boundary => .done ([], boundary)
  | first :: rest, boundary => do
      let (returned, boundary) ← call first boundary
      let (others, boundary) ← callAll call rest boundary
      .done (returned :: others, boundary)

def Source.attempt (source : Source) (boundary : Boundary) : Except Fault Nat × Boundary :=
  match source with
  | .file path => boundary.tryOpenReader path.path
  | .descriptor handed =>
      boundary.tryAdd (checkDescriptor handed.number) fun fd => boundary.addReader (.descriptor fd)
  | .bytes data => boundary.tryAdd (.ok data) fun data => boundary.addReader (.bytes data)

def Destination.attempt (destination : Destination) (boundary : Boundary) :
    Except Fault Nat × Boundary :=
  match destination with
  | .file path => boundary.tryOpenWriter path.path
  | .descriptor handed =>
      boundary.tryAdd (checkDescriptor handed.number) fun fd => boundary.addWriter (.buffered fd [])
  | .memory region => boundary.tryAdd region.view boundary.addWriter
  | .growing =>
      let world := { boundary.world with sinks := boundary.world.sinks.alloc .missing }
      { boundary with world }.tryAdd (.ok boundary.world.sinks.fresh) fun sink =>
        { boundary with world }.addWriter (.growing sink)

theorem Source.makeReader_eq (source : Source) (boundary : Boundary) :
    source.makeReader boundary = .done (concludeHandle .empty (source.attempt boundary)) := by
  cases source <;> rfl

theorem Destination.makeWriter_eq (destination : Destination) (boundary : Boundary) :
    destination.makeWriter boundary =
      .done (concludeHandle .empty (destination.attempt boundary)) := by
  cases destination <;> rfl

/-- Two attempts that failed alike, or that made the same stream. -/
inductive Twins {α : Type} (streams : Boundary → Arena α) :
    Except Fault Nat × Boundary → Except Fault Nat × Boundary → Prop where
  | failed {fault : Fault} {one two : Boundary} (world : one.world = two.world) :
      Twins streams (.error fault, one) (.error fault, two)
  | made {first second : Nat} {one two : Boundary} {stream : α} (world : one.world = two.world)
      (madeOne : (streams one).get? first = some stream)
      (madeTwo : (streams two).get? second = some stream) :
      Twins streams (.ok first, one) (.ok second, two)

section

variable {one two : Boundary}

theorem twins_addReader (world : one.world = two.world) (reader : Reader) :
    Twins Boundary.readers (.ok (one.addReader reader).1, (one.addReader reader).2)
      (.ok (two.addReader reader).1, (two.addReader reader).2) :=
  .made world (Arena.get?_alloc_self _ reader) (Arena.get?_alloc_self _ reader)

theorem twins_addWriter (world : one.world = two.world) (writer : Writer) :
    Twins Boundary.writers (.ok (one.addWriter writer).1, (one.addWriter writer).2)
      (.ok (two.addWriter writer).1, (two.addWriter writer).2) :=
  .made world (Arena.get?_alloc_self _ writer) (Arena.get?_alloc_self _ writer)

/-- What comes of making a reader depends on the world alone. -/
theorem Source.attempt_twin (world : one.world = two.world) (source : Source) :
    Twins Boundary.readers (source.attempt one) (source.attempt two) := by
  cases source with
  | bytes data => exact twins_addReader world _
  | descriptor handed =>
      simp only [attempt, tryAdd]
      cases checkDescriptor handed.number with
      | error fault => exact .failed world
      | ok fd => exact twins_addReader world _
  | file path =>
      simp only [attempt, tryOpenReader, world]
      cases two.world.openForReading path.path with
      | error failure => exact .failed world
      | ok opened => exact .made rfl (Arena.get?_alloc_self _ _) (Arena.get?_alloc_self _ _)

theorem Destination.attempt_twin (world : one.world = two.world) (destination : Destination) :
    Twins Boundary.writers (destination.attempt one) (destination.attempt two) := by
  cases destination with
  | growing =>
      simp only [attempt, tryAdd, world]
      exact .made rfl (Arena.get?_alloc_self _ _) (Arena.get?_alloc_self _ _)
  | memory region =>
      simp only [attempt, tryAdd]
      cases region.view with
      | error fault => exact .failed world
      | ok writer => exact twins_addWriter world writer
  | descriptor handed =>
      simp only [attempt, tryAdd]
      cases checkDescriptor handed.number with
      | error fault => exact .failed world
      | ok fd => exact twins_addWriter world _
  | file path =>
      simp only [attempt, tryOpenWriter, world]
      cases two.world.openForWriting path.path .truncate with
      | error failure => exact .failed world
      | ok opened => exact .made rfl (Arena.get?_alloc_self _ _) (Arena.get?_alloc_self _ _)

end

def Returned.ofRead : Except Fault Bytes → Returned
  | .ok data => .bytes data.length data none
  | .error fault => .bytes (-1) [] (some fault)

def Returned.ofRequest (request : Request) (answer : Except Fault Nat) : Returned :=
  match request, answer with
  | .write _, .ok taken => .count taken none
  | .write _, .error fault => .count (-1) (some fault)
  | .flush, .ok _ => .status .success none
  | .flush, .error fault => .status fault.status (some fault)

/-- Does what is requested, and tells how many bytes were taken; a flush takes none. -/
def Writer.serve (writer : Writer) (request : Request) (world : World) :
    Except IoFailure Nat × Writer × World :=
  match request with
  | .write data => writer.write data world
  | .flush =>
      match writer.flush world with
      | (flushed, writer, world) => (flushed.map fun _ => 0, writer, world)

theorem callRead_eq {boundary : Boundary} {id : Nat} {reader : Reader}
    (live : boundary.readers.get? id = some reader) (count : Nat) :
    callRead id count boundary =
      .done (.ofRead (boundary.tryRead id reader (.space count)).1,
        (boundary.tryRead id reader (.space count)).2) := by
  simp only [callRead, read, Outcome.require, Outcome.done_bind, live, Outcome.live]
  generalize boundary.tryRead id reader (.space count) = attempt
  obtain ⟨result, after⟩ := attempt
  cases result <;> rfl

theorem callWriter_eq {boundary : Boundary} {id : Nat} {writer : Writer}
    (live : boundary.writers.get? id = some writer) (request : Request) :
    callWriter id request boundary =
      .done (.ofRequest request ((writer.serve request boundary.world).1.mapError .ofIo),
        { boundary with
          world := (writer.serve request boundary.world).2.2
          writers := boundary.writers.set id (writer.serve request boundary.world).2.1 }) := by
  cases request with
  | write data =>
      simp only [callWriter, write, Outcome.require, Outcome.done_bind, live, Outcome.live,
        tryWrite, Loan.view, Writer.serve]
      cases (writer.write data boundary.world).1 <;> rfl
  | flush =>
      simp only [callWriter, flush, Outcome.require, Outcome.done_bind, live, Outcome.live,
        tryFlush, Writer.serve]
      cases (writer.flush boundary.world).1 <;> rfl

/-- A buffered writer is served by its descriptor. -/
theorem Writer.serve_buffered (fd : Nat) (pending : Bytes) (request : Request) (world : World) :
    (Writer.buffered fd pending).serve request world =
      ((Buffered.serve (offerTo fd) request pending world).1,
        .buffered fd (Buffered.serve (offerTo fd) request pending world).2.1,
        (Buffered.serve (offerTo fd) request pending world).2.2) := by
  cases request <;> rfl

/-- A buffered writer that is freed flushes twice and closes its descriptor. -/
theorem Writer.finish_buffered (fd : Nat) (pending : Bytes) (world : World) :
    (Writer.buffered fd pending).finish world =
      ((Buffered.settle (offerTo fd) 2 pending world).2.2).close fd := rfl

/-- A flush that fails once fails again, and one that went through has nothing left to do. -/
theorem Buffered.drain_drain (fd : Nat) (pending : Bytes) (world : World) :
    drain (offerTo fd) (drain (offerTo fd) pending world).2.1
        (drain (offerTo fd) pending world).2.2 = drain (offerTo fd) pending world := by
  fun_induction drain (offerTo fd) pending world with
  | case1 world => rw [drain_nil]
  | case2 world byte rest failure after offered =>
      have same : after = world := by
        change push fd (byte :: rest) world = _ at offered
        unfold push at offered
        split at offered <;> cases offered
        rfl
      subst same
      simp only [drain, offered]
  | case3 world byte rest after offered =>
      have all : 0 = (byte :: rest).length := by
        change push fd (byte :: rest) world = _ at offered
        unfold push at offered
        split at offered
        · next written =>
            cases offered
            exact taken_of_write written
        · cases offered
      cases all
  | case4 world byte rest taken after offered ih => exact ih

/-- Flushing before a writer is freed makes no difference to the world. -/
theorem Writer.finish_flush (writer : Writer) (world : World) :
    (writer.flush world).2.1.finish (writer.flush world).2.2 = writer.finish world := by
  cases writer with
  | buffered fd pending =>
      have again := Buffered.drain_drain fd pending world
      simp only [finish, flush, again]
  | fixed region length position => rfl
  | growing sink => rfl

end Boundary

end SessionStreams
