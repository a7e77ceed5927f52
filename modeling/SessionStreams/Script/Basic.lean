import SessionStreams.Host.Holdings
import SessionStreams.World.Files

set_option autoImplicit false

/- Scripts: steps on named objects of the host, the engine, the boundary and the world. -/

namespace SessionStreams.Script

open Boundary (Outcome)
open Engine (Policy)

/-- Bytes as a script writes them down. -/
inductive Data where
  | literal (bytes : Bytes)
  | repeated (data : Data) (count : Nat)
  /-- The numbers from 0 on, modulo 251. -/
  | sequence (count : Nat)
  | append (first second : Data)
  /-- The bytes kept under a name. -/
  | kept (slot : String)

/-- A named object. -/
inductive Object where
  /-- A context of the host, with the home that its session had at the start. -/
  | context (id : Nat) (home : Path)
  | reader (id : Nat)
  | writer (id : Nat)
  | session (session : Engine.Session)
  | boundaryConfig (id : Nat)
  | boundaryContext (id : Nat)
  | boundaryReader (id : Nat)
  | boundaryWriter (id : Nat)
  | descriptor (fd : Nat)
  | memory (id : Nat)
  | sink (id : Nat)
  | bytes (data : Bytes)
deriving DecidableEq

/-- How the policy of a session is told. -/
inductive PolicyAnswer where
  | policy (policy : Policy)
  | number (number : Int)
deriving DecidableEq

/-- What a session tells about itself. -/
structure Summary where
  home : Path
  homeIsDirectory : Bool
  policy : PolicyAnswer
  ephemeral : Bool
  listing : Option String := none
deriving DecidableEq

inductive Answer where
  /-- A named object is missing or of another sort. -/
  | absent
  | nothing
  | word (text : String)
  | flag (value : Bool)
  | count (count : Nat)
  | bytes (data : Bytes)
  | path (path : Path)
  | noContents
  | tree (entries : List (Path × Option Bytes))
  | summary (summary : Summary)
  | rounds (sizes : List Nat) (data : Bytes)
  | sink (contents : Option Bytes)
  | handleReturned (given : Bool) (fault : Option Boundary.Fault)
  /-- The count, the bytes read if there was room for them, and the error. -/
  | countReturned (count : Int) (data : Option (Option Bytes)) (fault : Option Boundary.Fault)
  | statusReturned (status : Boundary.Status) (fault : Option Boundary.Fault)
  | refused (error : Host.Error)
  | broken (error : Host.StreamError) (partialData : Option Bytes)
  | failed (failure : IoFailure)
  | aborted (message : String)
  /-- An answer to building a session, with the listing of the settings. -/
  | configured (listing : String) (answer : Answer)

structure Machine where
  held : Host.Holdings
  slots : List (String × Object) := []

namespace Machine

def boundary (machine : Machine) : Boundary := machine.held.host.boundary

def world (machine : Machine) : World := machine.boundary.world

def withBoundary (machine : Machine) (boundary : Boundary) : Machine :=
  { machine with held := { machine.held with host := { machine.held.host with boundary } } }

def withWorld (machine : Machine) (world : World) : Machine :=
  machine.withBoundary { machine.boundary with world }

def find? (machine : Machine) (slot : String) : Option Object := machine.slots.lookup slot

def clear (machine : Machine) (slot : String) : Machine :=
  { machine with slots := machine.slots.filter fun entry => entry.1 ≠ slot }

/-- Ends an object. -/
def dropObject (machine : Machine) : Object → Outcome Machine
  | .context id _ => do
      let (_, held) ← machine.held.perform (.context id .drop)
      .done { machine with held }
  | .reader id => do
      let (_, held) ← machine.held.perform (.reader id .drop)
      .done { machine with held }
  | .writer id => do
      let (_, held) ← machine.held.perform (.writer id .drop)
      .done { machine with held }
  | .session session => .done (machine.withWorld (session.close machine.world))
  | .boundaryConfig id => do
      let boundary ← machine.boundary.discardConfig id
      .done (machine.withBoundary boundary)
  | .boundaryContext id => do
      let boundary ← machine.boundary.freeContext (some id)
      .done (machine.withBoundary boundary)
  | .boundaryReader id => do
      let boundary ← machine.boundary.freeReader (some id)
      .done (machine.withBoundary boundary)
  | .boundaryWriter id => do
      let boundary ← machine.boundary.freeWriter (some id)
      .done (machine.withBoundary boundary)
  | .descriptor fd => .done (machine.withWorld (machine.world.close fd))
  | .memory _ => .done machine
  | .sink _ => .done machine
  | .bytes _ => .done machine

/-- Names an object. One that had the name before ends. -/
def place (machine : Machine) (slot : String) (object : Object) : Outcome Machine :=
  let placed := { machine.clear slot with slots := (machine.clear slot).slots ++ [(slot, object)] }
  match machine.find? slot with
  | none => .done placed
  | some old => placed.dropObject old

/-- The order in which objects end after the last step: streams before sessions, the host's and
the engine's before those of the boundary, and what they were made from last. -/
def endRank : Object → Nat
  | .reader _ => 0
  | .writer _ => 0
  | .context _ _ => 1
  | .session _ => 2
  | .boundaryReader _ => 3
  | .boundaryWriter _ => 3
  | .boundaryContext _ => 4
  | .boundaryConfig _ => 5
  | .descriptor _ => 6
  | .memory _ => 7
  | .sink _ => 7
  | .bytes _ => 7

def endsBefore (first second : String × Object) : Bool :=
  endRank first.2 < endRank second.2 ∨
    (endRank first.2 = endRank second.2 ∧ Bytes.le (Text.encode first.1) (Text.encode second.1))

def dropAll (machine : Machine) : List (String × Object) → Outcome Machine
  | [] => .done machine
  | (slot, object) :: rest => do
      let machine ← (machine.clear slot).dropObject object
      machine.dropAll rest

/-- Ends every object that still has a name. -/
def finish (machine : Machine) : Outcome Machine :=
  machine.dropAll (machine.slots.mergeSort endsBefore)

end Machine

def Data.eval (machine : Machine) : Data → Option Bytes
  | .literal bytes => some bytes
  | .repeated data count => do
      let bytes ← data.eval machine
      some (List.replicate count bytes).flatten
  | .sequence count => some ((List.range count).map fun index => UInt8.ofNat (index % 251))
  | .append first second => do
      let front ← first.eval machine
      let back ← second.eval machine
      some (front ++ back)
  | .kept slot =>
      match machine.find? slot with
      | some (.bytes data) => some data
      | _ => none

/-- What a step does, or nothing if an object that it names is missing. -/
abbrev Effect := Option (Outcome (Answer × Machine))

/-- An answer that leaves everything as it is. -/
def unchanged (machine : Machine) (answer : Answer) : Effect := some (.done (answer, machine))

/-- A call that aborts has no other effect, since it runs apart from the script. -/
def settle (machine : Machine) : Effect → Answer × Machine
  | none => (.absent, machine)
  | some .undefined => (.absent, machine)
  | some (.aborted message) => (.aborted message, machine)
  | some (.done result) => result

end SessionStreams.Script
