import SessionStreams.Host.Reader

set_option autoImplicit false

/- Writers own a handle behind the boundary, keep their session alive until they are closed, and are
flushed before that. An allocating writer owns the sink that its data is collected in. -/

namespace SessionStreams.Host

open Boundary (Outcome)

structure Writer where
  handle : Nat
  share : Nat
  closed : Bool := false
  sink : Option Nat := none
deriving DecidableEq

namespace Writer

def adopt (host : Host) (share : Nat) (reply : Boundary.Reply (Option Nat)) :
    Outcome (Except Error Writer × Host) :=
  host.adopt "Writer" .writer share (fun handle => { handle, share }) reply

/-- Creates or truncates the file at `path`. -/
def ofPath (context : Context) (path : Path) (host : Host) :
    Outcome (Except Error Writer × Host) :=
  match pathArgument path with
  | .error error => .done (.error error, host)
  | .ok text =>
      match context.holding host with
      | .error error => .done (.error error, host)
      | .ok host => do
          let reply ← host.boundary.openWriter .empty (some text)
          adopt host context.share reply

/-- Takes over a descriptor, which is dropped if the context has been released. -/
def ofDescriptor (context : Context) (handed : Handed) (host : Host) :
    Outcome (Except Error Writer × Host) :=
  match context.holding host with
  | .error error => .done (.error error, host.mapWorld (·.dropHanded handed))
  | .ok host => do
      let reply ← host.boundary.writerOverDescriptor .empty handed.number
      adopt host context.share reply

/-- Fills a region of memory from the start. -/
def ofMemory (context : Context) (region : Boundary.Region) (host : Host) :
    Outcome (Except Error Writer × Host) :=
  match context.holding host with
  | .error error => .done (.error error, host)
  | .ok host => do
      let reply ← host.boundary.writerOverMemory .empty region
      adopt host context.share reply

/-- Collects what is written in a sink of its own. -/
def allocating (context : Context) (host : Host) : Outcome (Except Error Writer × Host) :=
  match context.holding host with
  | .error error => .done (.error error, host)
  | .ok host => do
      let sink := host.boundary.world.sinks.fresh
      let host := host.mapWorld fun world => { world with sinks := world.sinks.alloc .missing }
      let (handle, boundary) ← host.boundary.growingWriter (some sink) (some sink)
      .done (.ok { handle, share := context.share, sink := some sink },
        { host with boundary }.note (.acquired (.writer handle) context.share))

/-- Writes `data` and returns how much of it was taken. -/
def write (writer : Writer) (data : Bytes) (host : Host) : Outcome (Except Error Nat × Host) :=
  if writer.closed then .done (.error (.released "Writer"), host)
  else do
    let reply ← host.boundary.write .empty (some writer.handle) (.bytes data)
    let host := { host with boundary := reply.after }.note (.used (.writer writer.handle))
    let taken ← examine "write" countTaken reply
    .done (taken, host)

/-- Flushes a writer that is open. -/
def flushOpen (writer : Writer) (host : Host) : Outcome (Except Error Unit × Host) := do
  let reply ← host.boundary.flush .empty (some writer.handle)
  let host := { host with boundary := reply.after }.note (.used (.writer writer.handle))
  let flushed ← examine "flush" statusPassed reply
  .done (flushed, host)

def flush (writer : Writer) (host : Host) : Outcome (Except Error Unit × Host) :=
  if writer.closed then .done (.error (.released "Writer"), host) else writer.flushOpen host

/-- Flushes without reporting failure, frees the handle, then lets the session go. Only the first
call has an effect. -/
def close (writer : Writer) (host : Host) : Outcome (Writer × Host) :=
  if writer.closed then .done (writer, host)
  else do
    let (_, host) ← writer.flushOpen host
    let boundary ← host.boundary.freeWriter (some writer.handle)
    let host ← ({ host with boundary }.note (.freed (.writer writer.handle))).letGo writer.share
    .done ({ writer with closed := true }, host)

/-- The end of a writer closes it and frees its sink. -/
def drop (writer : Writer) (host : Host) : Outcome Host := do
  let (_, host) ← writer.close host
  match writer.sink with
  | none => .done host
  | some sink =>
      .done (host.mapWorld fun world => { world with sinks := world.sinks.release sink })

/-- What a sink holds. -/
def collected (host : Host) (sink : Nat) : Bytes :=
  match host.boundary.world.sinks.get? sink with
  | none => []
  | some state => state.bytes

/-- Uses up a writer and returns the data that it collected. Only an allocating writer collects
data; any other is dropped all the same. -/
def harvest (writer : Writer) (host : Host) : Outcome (Except Error Bytes × Host) :=
  match writer.sink with
  | none => do
      let host ← writer.drop host
      .done (.error ⟨.invalidOperation, "Writer does not collect data"⟩, host)
  | some sink => do
      let (writer, host) ← writer.close host
      let data := collected host sink
      let host ← writer.drop host
      .done (.ok data, host)

def listing (writer : Writer) : String :=
  "Writer \x7b obj: " ++ ownedListing "Writer" writer.closed (!writer.closed) ++ ", alloc: " ++
    toString writer.sink.isSome ++ " \x7d"

end Writer

end SessionStreams.Host
