import SessionStreams.Host.Context

set_option autoImplicit false

/- Readers own a handle behind the boundary and keep their session alive until they are closed. -/

namespace SessionStreams.Host

open Boundary (Outcome)

structure Reader where
  handle : Nat
  share : Nat
  closed : Bool := false
deriving DecidableEq

namespace Reader

def adopt (host : Host) (share : Nat) (reply : Boundary.Reply (Option Nat)) :
    Outcome (Except Error Reader × Host) :=
  host.adopt "Reader" .reader share (fun handle => { handle, share }) reply

def ofPath (context : Context) (path : Path) (host : Host) :
    Outcome (Except Error Reader × Host) :=
  match pathArgument path with
  | .error error => .done (.error error, host)
  | .ok text =>
      match context.holding host with
      | .error error => .done (.error error, host)
      | .ok host => do
          let reply ← host.boundary.openReader .empty (some text)
          adopt host context.share reply

/-- Takes over a descriptor, which is dropped if the context has been released. -/
def ofDescriptor (context : Context) (handed : Handed) (host : Host) :
    Outcome (Except Error Reader × Host) :=
  match context.holding host with
  | .error error => .done (.error error, host.mapWorld (·.dropHanded handed))
  | .ok host => do
      let reply ← host.boundary.readerOverDescriptor .empty handed.number
      adopt host context.share reply

def ofBytes (context : Context) (data : Bytes) (host : Host) :
    Outcome (Except Error Reader × Host) :=
  match context.holding host with
  | .error error => .done (.error error, host)
  | .ok host => do
      let reply ← host.boundary.readerOverBytes .empty (.bytes data)
      adopt host context.share reply

/-- Reads at most `count` bytes; none at the end. -/
def read (reader : Reader) (count : Nat) (host : Host) : Outcome (Except Error Bytes × Host) :=
  if reader.closed then .done (.error (.released "Reader"), host)
  else do
    let reply ← host.boundary.read .empty (some reader.handle) (.space count)
    let host := { host with boundary := reply.after }.note (.used (.reader reader.handle))
    let data ← examine "read" bytesRead reply
    .done (data, host)

/-- Frees the handle, then lets the session go. Only the first call has an effect. -/
def close (reader : Reader) (host : Host) : Outcome (Reader × Host) :=
  if reader.closed then .done (reader, host)
  else do
    let boundary ← host.boundary.freeReader (some reader.handle)
    let host ← ({ host with boundary }.note (.freed (.reader reader.handle))).letGo reader.share
    .done ({ reader with closed := true }, host)

/-- The end of a reader closes it. -/
def drop (reader : Reader) (host : Host) : Outcome Host := do
  let (_, host) ← reader.close host
  .done host

def listing (reader : Reader) : String :=
  "Reader \x7b obj: " ++ ownedListing "Reader" reader.closed (!reader.closed) ++
    ", _data: PhantomData<&[u8]> \x7d"

end Reader

end SessionStreams.Host
