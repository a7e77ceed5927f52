import SessionStreams.Arena
import SessionStreams.World.Trail

set_option autoImplicit false

/- The world that sessions and streams act on: a tree of names over file contents, open descriptors,
pipes, caller-owned memory, the two environment variables that are read, and the home of the user's
account. It has no symbolic links and no permissions, files are not bounded in size, and a pipe takes
all that is written to it. -/

namespace SessionStreams

/-- What a descriptor stands for. -/
inductive Target where
  | file (contents : Nat)
  | directory
  | device (device : Device)
  | pipeEnd (pipe : Nat) (reading : Bool)
deriving DecidableEq

/-- An open file with its offset, by the one number that it goes by. Duplicates of a number, which
share the offset, are left out of this world. -/
structure Descriptor where
  target : Target
  offset : Nat := 0
  readable : Bool := false
  writable : Bool := false
  /-- Every write goes to the end of the file. -/
  appends : Bool := false
deriving DecidableEq

/-- Bytes on their way from the write end to the read end, which does not wait for more. -/
structure Pipe where
  content : Bytes := []
  readEndOpen : Bool := true
  writeEndOpen : Bool := true
deriving DecidableEq

/-- The places of a growing buffer and of its length. The buffer is a chunk of memory with room for
so many bytes at least, or missing. -/
@[ext]
structure Sink where
  chunk : Option Bytes
  length : Nat
  fits : length ≤ (chunk.getD []).length
deriving DecidableEq

namespace Sink

/-- There is no buffer yet. -/
def missing : Sink := { chunk := none, length := 0, fits := Nat.le_refl _ }

/-- A chunk that is filled. -/
def full (content : Bytes) : Sink :=
  { chunk := some content, length := content.length, fits := Nat.le_refl _ }

def bytes (sink : Sink) : Bytes := (sink.chunk.getD []).take sink.length

/-- Reads the old length back, makes the chunk longer by the data, and copies the data behind the
old length. No data leaves both places as they are, so that a missing buffer stays missing. -/
def grow (sink : Sink) (data : Bytes) : Sink :=
  if data = [] then sink
  else
    let length := sink.length + data.length
    let room := (sink.chunk.getD []).resize length
    { chunk := some (room.overlay sink.length data)
      length
      fits := by
        rw [Option.getD_some, Bytes.length_overlay, Bytes.length_resize]
        omega }

@[simp] theorem length_bytes (sink : Sink) : sink.bytes.length = sink.length := by
  rw [bytes, List.length_take, Nat.min_eq_left sink.fits]

@[simp] theorem bytes_full (content : Bytes) : (full content).bytes = content := by
  rw [bytes, full, Option.getD_some, List.take_length]

@[simp] theorem grow_nil (sink : Sink) : sink.grow [] = sink := if_pos rfl

/-- A chunk that has grown is just filled. -/
theorem grow_eq_full (sink : Sink) {data : Bytes} (someData : data ≠ []) :
    sink.grow data = full (sink.bytes ++ data) := by
  have size : sink.length + data.length = (sink.bytes ++ data).length := by
    rw [List.length_append, length_bytes]
  rw [grow, if_neg someData]
  apply Sink.ext
  · exact congrArg some (Bytes.overlay_resize sink.fits data)
  · exact size

@[simp] theorem bytes_grow (sink : Sink) (data : Bytes) :
    (sink.grow data).bytes = sink.bytes ++ data := by
  by_cases nothing : data = []
  · rw [nothing, grow_nil, List.append_nil]
  · rw [grow_eq_full sink nothing, bytes_full]

theorem grow_grow (sink : Sink) (one two : Bytes) :
    (sink.grow one).grow two = sink.grow (one ++ two) := by
  by_cases last : two = []
  · rw [last, grow_nil, List.append_nil]
  · have more : one ++ two ≠ [] := fun both => last (List.append_eq_nil_iff.mp both).2
    rw [grow_eq_full _ last, grow_eq_full _ more, bytes_grow, List.append_assoc]

end Sink

structure World where
  workingDirectory : Location
  /-- Empty if it is not set. -/
  homeVariable : Path
  temporaryVariable : Path
  /-- The home that the user database has for the user. -/
  accountHome : Option Path := none
  tree : Tree
  /-- File contents outlive their names for as long as a descriptor may need them. -/
  files : Arena (Array UInt8) := {}
  descriptors : Arena Descriptor := {}
  pipes : Arena Pipe := {}
  memory : Arena Bytes := {}
  sinks : Arena Sink := {}
  /-- The number of the next random name. -/
  drawn : Nat := 0
deriving DecidableEq

def Location.text (place : Location) : Path := Path.slash :: Path.ofParts place

namespace World

def pathLimit : Nat := 4096

/-- The bytes of a file. -/
def fileBytes (world : World) (contents : Nat) : Bytes :=
  match world.files.get? contents with
  | none => []
  | some stored => stored.toList

def fileSize (world : World) (contents : Nat) : Nat :=
  match world.files.get? contents with
  | none => 0
  | some stored => stored.size

/-- The names to walk through from the root, for names that a path goes through. -/
def fromRoot (world : World) (path : Path) (names : List Name) : List Name :=
  if path.rooted then names else world.workingDirectory ++ names

def checkPath (path : Path) : Except IoFailure Unit :=
  if 0 ∈ path then .error .nulInPath
  else if path = [] then .error (.os .noEntry)
  else if pathLimit ≤ path.length then .error (.os .nameTooLong)
  else .ok ()

/-- The walk along an existing path. A path that ends in a slash names a directory. -/
def reach (world : World) (path : Path) : Except IoFailure Trail :=
  match checkPath path with
  | .error failure => .error failure
  | .ok _ =>
      let start : Trail := { root := world.tree }
      let names := world.fromRoot path path.names
      let reached := if path.endsInSlash then start.walkDirectory names else start.walk names
      reached.mapError .os

def stat (world : World) (path : Path) : Except IoFailure Node := (world.reach path).map Trail.node

def isDirectory (world : World) (path : Path) : Bool :=
  match world.stat path with
  | .ok .directory => true
  | _ => false

/-- Where an entry stands or would stand: its directory with the entries there, and its name; no
name if a path leads back to a directory that is already there. -/
structure Position where
  parent : Location
  siblings : Tree
  name : Option Name
deriving DecidableEq

/-- The position that a path gives, if its directory is there. -/
def position (world : World) (path : Path) : Except IoFailure Position :=
  match checkPath path with
  | .error failure => .error failure
  | .ok _ =>
      let start : Trail := { root := world.tree }
      match start.walk (world.fromRoot path path.names.dropLast) with
      | .error code => .error (.os code)
      | .ok trail =>
          match trail.inside? with
          | none => .error (.os .notDirectory)
          | some siblings =>
              let name := path.names.getLast?.filter fun name =>
                name ≠ Path.dot ∧ name ≠ Path.dotDot
              .ok { parent := trail.place, siblings, name }

/-- The home of the user. Without one, the directory for temporary files has to do. -/
def userHome (world : World) : Path :=
  if world.homeVariable = [] then world.accountHome.getD world.temporaryVariable
  else world.homeVariable

def setVariable (world : World) (home : Bool) (value : Bytes) : World :=
  if home then { world with homeVariable := value } else { world with temporaryVariable := value }

end World

end SessionStreams
