import SessionStreams.World.Basic

set_option autoImplicit false

/- Descriptors: opening, reading, writing and closing. An operation that fails changes nothing,
which its type says: only success returns a world. -/

namespace SessionStreams

/-- A descriptor as it is handed over: an owned one is closed when it is dropped, the bare number of
one is not. -/
inductive Handed where
  | owned (fd : Nat)
  | raw (number : Int)
deriving DecidableEq

def Handed.number : Handed → Int
  | owned fd => fd
  | raw number => number

namespace World

/-- How an existing node is opened. -/
def targetOf : Node → Target
  | .directory => .directory
  | .leaf (.file contents) => .file contents
  | .leaf (.device device) => .device device

def addDescriptor (world : World) (descriptor : Descriptor) : Nat × World :=
  (world.descriptors.fresh, { world with descriptors := world.descriptors.alloc descriptor })

/-- Opens what `path` names for reading, and the number of the new descriptor. -/
def openForReading (world : World) (path : Path) : Except IoFailure (Nat × World) :=
  match world.stat path with
  | .error failure => .error failure
  | .ok node => .ok (world.addDescriptor { target := targetOf node, readable := true })

/-- What becomes of the old contents of a file that is opened for writing. -/
inductive Opening where
  | truncate
  | append
deriving DecidableEq

/-- Opens a file for writing and creates it if it is missing. -/
def openForWriting (world : World) (path : Path) (opening : Opening) :
    Except IoFailure (Nat × World) :=
  let descriptor (target : Target) : Descriptor :=
    { target, writable := true, appends := opening = .append }
  match world.position path with
  | .error failure => .error failure
  | .ok { name := none, .. } => .error (.os .isDirectory)
  | .ok { parent, siblings, name := some name } =>
      if path.endsInSlash then .error (.os .isDirectory)
      else if Tree.nameLimit < name.length then .error (.os .nameTooLong)
      else match siblings.find? name with
        | some (.directory _) => .error (.os .isDirectory)
        | some (.leaf (.device device)) => .ok (world.addDescriptor (descriptor (.device device)))
        | some (.leaf (.file contents)) =>
            let files :=
              if opening = .truncate then world.files.set contents #[] else world.files
            .ok ({ world with files }.addDescriptor (descriptor (.file contents)))
        | none =>
            let contents := world.files.fresh
            .ok ({ world with
              files := world.files.alloc #[]
              tree := world.tree.add parent name (.leaf (.file contents)) }.addDescriptor
                (descriptor (.file contents)))

/-- Opens an existing file for both reading and writing. -/
def openForUpdate (world : World) (path : Path) : Except IoFailure (Nat × World) :=
  match world.stat path with
  | .error failure => .error failure
  | .ok .directory => .error (.os .isDirectory)
  | .ok node =>
      .ok (world.addDescriptor { target := targetOf node, readable := true, writable := true })

/-- A new pipe, as its read end and its write end. -/
def makePipe (world : World) : (Nat × Nat) × World :=
  let pipe := world.pipes.fresh
  let (readEnd, world) := { world with pipes := world.pipes.alloc {} }.addDescriptor
    { target := .pipeEnd pipe true, readable := true }
  let (writeEnd, world) := world.addDescriptor { target := .pipeEnd pipe false, writable := true }
  ((readEnd, writeEnd), world)

def setOffset (world : World) (fd : Nat) (descriptor : Descriptor) (offset : Nat) : World :=
  { world with descriptors := world.descriptors.set fd { descriptor with offset } }

/-- At most `count` bytes of a file from `offset` on. -/
def filePart (world : World) (contents offset count : Nat) : Bytes :=
  match world.files.get? contents with
  | none => []
  | some stored => (stored.extract offset (offset + count)).toList

theorem filePart_eq (world : World) (contents offset count : Nat) :
    world.filePart contents offset count =
      ((world.fileBytes contents).drop offset).take count := by
  unfold filePart fileBytes
  cases world.files.get? contents with
  | none => simp
  | some stored => simp [List.extract_eq_take_drop]

/-- Reads at most `count` bytes; none at the end. -/
def read (world : World) (fd : Nat) (count : Nat) : Except IoFailure (Bytes × World) :=
  match world.descriptors.get? fd with
  | none => .error (.os .badDescriptor)
  | some descriptor =>
      if !descriptor.readable then .error (.os .badDescriptor)
      else match descriptor.target with
        | .directory => .error (.os .isDirectory)
        | .device .null => .ok ([], world)
        | .device .full => .ok (List.replicate count 0, world)
        | .file contents =>
            let data := world.filePart contents descriptor.offset count
            .ok (data, world.setOffset fd descriptor (descriptor.offset + data.length))
        | .pipeEnd pipe _ =>
            match world.pipes.get? pipe with
            | none => .error (.os .badDescriptor)
            | some state =>
                if count = 0 then .ok ([], world)
                else if state.content = [] then
                  if state.writeEndOpen then .error (.os .tryAgain) else .ok ([], world)
                else .ok (state.content.take count,
                  { world with
                    pipes := world.pipes.set pipe
                      { state with content := state.content.drop count } })

/-- Writes `data` and returns how much of it was taken. -/
def write (world : World) (fd : Nat) (data : Bytes) : Except IoFailure (Nat × World) :=
  match world.descriptors.get? fd with
  | none => .error (.os .badDescriptor)
  | some descriptor =>
      if !descriptor.writable then .error (.os .badDescriptor)
      else match descriptor.target with
        | .directory => .error (.os .isDirectory)
        | .device .null => .ok (data.length, world)
        | .device .full => .error (.os .noSpace)
        | .file contents =>
            if data = [] then .ok (0, world)
            else
              let old := (world.files.get? contents).getD #[]
              let offset := if descriptor.appends then old.size else descriptor.offset
              let files := world.files.set contents (Bytes.patch old offset data)
              .ok (data.length,
                { world with files }.setOffset fd descriptor (offset + data.length))
        | .pipeEnd pipe _ =>
            match world.pipes.get? pipe with
            | none => .error (.os .badDescriptor)
            | some state =>
                if data = [] then .ok (0, world)
                else if !state.readEndOpen then .error (.os .brokenPipe)
                else .ok (data.length,
                  { world with
                    pipes := world.pipes.set pipe { state with content := state.content ++ data } })

def closePipeEnd (world : World) : Target → World
  | .pipeEnd pipe reading =>
      match world.pipes.get? pipe with
      | none => world
      | some state =>
          let state :=
            if reading then { state with readEndOpen := false }
            else { state with writeEndOpen := false }
          { world with pipes := world.pipes.set pipe state }
  | _ => world

/-- Closes a descriptor; one that is not open stays as it is. -/
def close (world : World) (fd : Nat) : World :=
  match world.descriptors.get? fd with
  | none => world
  | some descriptor =>
      { world with descriptors := world.descriptors.release fd }.closePipeEnd descriptor.target

/-- A descriptor that nobody takes is dropped. -/
def dropHanded (world : World) : Handed → World
  | .owned fd => world.close fd
  | .raw _ => world

end World

end SessionStreams
