import SessionStreams.Boundary.Sessions
import SessionStreams.Boundary.Streams
import SessionStreams.Host.Error

set_option autoImplicit false

/- The host's side of the boundary: sessions are shared by a context and the streams opened with it,
and freed when the last of them lets go. A ledger records every handle that was acquired, used or
freed. -/

namespace SessionStreams

namespace Host

/-- An object behind the boundary. -/
inductive Handle where
  | context (id : Nat)
  | reader (id : Nat)
  | writer (id : Nat)
deriving DecidableEq

inductive Event where
  /-- A new handle and the share that keeps its session: a session comes with a new share, a stream
  with that of its context. -/
  | acquired (handle : Handle) (share : Nat)
  | used (handle : Handle)
  | freed (handle : Handle)
deriving DecidableEq

/-- A session and the number of those that keep it alive. -/
structure Share where
  session : Nat
  holders : Nat
deriving DecidableEq

end Host

structure Host where
  boundary : Boundary
  shares : Arena Host.Share := {}
  /-- The latest event comes first. -/
  ledger : List Host.Event := []
deriving DecidableEq

namespace Host

open Boundary (Outcome Reply Terminated)

/-- The listing of an owned handle, which does not tell its address. -/
def ownedListing (name : String) (closed parent : Bool) : String :=
  let raw := if closed then "None" else "Some(0xPTR)"
  "Owned \x7b name: " ++ Text.quoted name ++ ", raw: " ++ raw ++ ", parent: " ++
    toString parent ++ " \x7d"

def note (host : Host) (event : Event) : Host := { host with ledger := event :: host.ledger }

def mapWorld (host : Host) (change : World → World) : Host :=
  { host with boundary := { host.boundary with world := change host.boundary.world } }

/-- A path as the boundary takes it. -/
def pathArgument (path : Path) : Except Error Terminated :=
  match Terminated.ofBytes? path with
  | some text => .ok text
  | none => .error ⟨.invalidArgument, Text.quotedBytes path ++ " contains a 0 byte"⟩

/-- One more holder. -/
def hold (host : Host) (share : Nat) : Host :=
  match host.shares.get? share with
  | none => host
  | some state =>
      { host with shares := host.shares.set share { state with holders := state.holders + 1 } }

/-- One holder less. The last one frees the session. -/
def letGo (host : Host) (share : Nat) : Outcome Host := do
  let state ← Outcome.live (host.shares.get? share)
  if state.holders ≤ 1 then
    let boundary ← host.boundary.freeContext (some state.session)
    .done ({ host with boundary, shares := host.shares.release share }.note
      (.freed (.context state.session)))
  else
    .done { host with
      shares := host.shares.set share { state with holders := state.holders - 1 } }

/-- Owns the result of a constructor that was called with a share in hold. If it failed, the share
is let go. -/
def adopt {α : Type} (host : Host) (name : String) (handle : Nat → Handle) (share : Nat)
    (make : Nat → α) (reply : Reply (Option Nat)) : Outcome (Except Error α × Host) := do
  let host := { host with boundary := reply.after }
  let made ← examine name (fun result => result) reply
  match made with
  | .error error =>
      let host ← host.letGo share
      .done (.error error, host)
  | .ok id => .done (.ok (make id), host.note (.acquired (handle id) share))

end Host

end SessionStreams
