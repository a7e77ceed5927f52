import SessionStreams.Script.Basic

set_option autoImplicit false

/- Steps on the world itself: variables, files, descriptors, pipes and memory. -/

namespace SessionStreams.Script

open Boundary (Outcome)

inductive OpenMode where
  | read
  | write
  | append
  | update
deriving DecidableEq

/-- Steps that do not concern sessions and streams. -/
inductive WorldStep where
  /-- Sets the variable for the home directory, or else the one for temporary files. -/
  | setVariable (home : Bool) (value : Data)
  | tree
  | show (path : Data)
  | put (path data : Data)
  | putInHome (context : String) (path data : Data)
  | remove (path : Data)
  | removeHome (context : String)
  | openDescriptor (slot : String) (path : Data) (mode : OpenMode)
  | pipe (readEnd writeEnd : String)
  | writeDescriptor (slot : String) (data : Data)
  | readDescriptor (slot : String) (count : Nat)
  | memory (slot : String) (length : Nat) (fill : UInt8)
  | showMemory (slot : String)
  | showBytes (slot : String)
  | drop (slot : String)

/-- The home of a session on the host's side, whether released or not, or of one without a host. -/
def homeOf? (machine : Machine) (slot : String) : Option Path :=
  match machine.find? slot with
  | some (.session session) => some session.home
  | some (.context _ home) => some home
  | _ => none

namespace WorldStep

def openWith (world : World) (path : Path) : OpenMode → Except IoFailure (Nat × World)
  | .read => world.openForReading path
  | .write => world.openForWriting path .truncate
  | .append => world.openForWriting path .append
  | .update => world.openForUpdate path

def removePath (machine : Machine) (path : Path) : Answer × Machine :=
  let (removed, world) := machine.world.remove path
  (.flag removed, machine.withWorld world)

def effect (machine : Machine) : WorldStep → Effect
  | .setVariable home value => do
      let value ← value.eval machine
      some (.done (.nothing, machine.withWorld (machine.world.setVariable home value)))
  | .tree => unchanged machine (.tree machine.world.listing)
  | .show path => do
      let path ← path.eval machine
      match machine.world.contents? path with
      | none => unchanged machine .noContents
      | some data => unchanged machine (.bytes data)
  | .put path data => do
      let path ← path.eval machine
      let data ← data.eval machine
      match machine.world.writeFile path data with
      | .error failure => unchanged machine (.failed failure)
      | .ok world => some (.done (.nothing, machine.withWorld world))
  | .putInHome slot path data => do
      let path ← path.eval machine
      let data ← data.eval machine
      let home ← homeOf? machine slot
      some (.done (.nothing, machine.withWorld (machine.world.placeFile (home.join path) data)))
  | .remove path => do
      let path ← path.eval machine
      some (.done (removePath machine path))
  | .removeHome slot =>
      match machine.find? slot with
      | some (.context _ home) => some (.done (removePath machine home))
      | _ => none
  | .openDescriptor slot path mode => do
      let path ← path.eval machine
      match openWith machine.world path mode with
      | .error failure => unchanged machine (.failed failure)
      | .ok (fd, world) => some do
          let machine ← (machine.withWorld world).place slot (.descriptor fd)
          .done (.nothing, machine)
  | .pipe readEnd writeEnd =>
      let (ends, world) := machine.world.makePipe
      some do
        let machine ← (machine.withWorld world).place readEnd (.descriptor ends.1)
        let machine ← machine.place writeEnd (.descriptor ends.2)
        .done (.nothing, machine)
  | .writeDescriptor slot data => do
      let data ← data.eval machine
      match machine.find? slot with
      | some (.descriptor fd) =>
          if data = [] then unchanged machine (.word "written")
          else match machine.world.write fd data with
            | .error _ => unchanged machine (.word "failed")
            | .ok (_, world) => some (.done (.word "written", machine.withWorld world))
      | _ => none
  | .readDescriptor slot count =>
      match machine.find? slot with
      | some (.descriptor fd) =>
          match machine.world.read fd count with
          | .error failure =>
              unchanged machine
                (.word (if failure = .os .tryAgain then "empty" else "failed"))
          | .ok ([], world) => some (.done (.word "end", machine.withWorld world))
          | .ok (byte :: rest, world) =>
              some (.done (.bytes (byte :: rest), machine.withWorld world))
      | _ => none
  | .memory slot length fill =>
      let world := machine.world
      let region := world.memory.fresh
      some do
        let machine ← (machine.withWorld
          { world with memory := world.memory.alloc (List.replicate length fill) }).place slot
            (.memory region)
        .done (.nothing, machine)
  | .showMemory slot =>
      match machine.find? slot with
      | some (.memory id) => unchanged machine (.bytes ((machine.world.memory.get? id).getD []))
      | _ => none
  | .showBytes slot =>
      match machine.find? slot with
      | some (.bytes data) => unchanged machine (.bytes data)
      | _ => none
  | .drop slot => do
      let object ← machine.find? slot
      some do
        let machine ← (machine.clear slot).dropObject object
        .done (.nothing, machine)

end WorldStep

end SessionStreams.Script
