import SessionStreams.World.Descriptors
import SessionStreams.World.Directories

set_option autoImplicit false

/- Whole files and the listing of a tree. -/

namespace SessionStreams

/-- Bytewise order: the first difference decides, and a beginning comes before what continues it. -/
def Bytes.le : Bytes → Bytes → Bool
  | [], _ => true
  | _ :: _, [] => false
  | first :: rest, second :: others =>
      if first = second then Bytes.le rest others else first < second

namespace World

/-- Stores `data` in the file at `path`, which is created or emptied first. -/
def writeFile (world : World) (path : Path) (data : Bytes) : Except IoFailure World :=
  match world.openForWriting path .truncate with
  | .error failure => .error failure
  | .ok (fd, opened) =>
      match opened.write fd data with
      | .error failure => .error failure
      | .ok (_, written) => .ok (written.close fd)

/-- Like `writeFile`, with missing directories made first. -/
def placeFile (world : World) (path : Path) (data : Bytes) : World :=
  let ready :=
    match path.parent? with
    | none => world
    | some parent => (world.makeDirectories parent).2
  match ready.writeFile path data with
  | .error _ => ready
  | .ok after => after

/-- The contents of a file. -/
def contents? (world : World) (path : Path) : Option Bytes :=
  match world.stat path with
  | .ok (.leaf (.file contents)) => some (world.fileBytes contents)
  | .ok (.leaf (.device .null)) => some []
  | _ => none

/-- Everything below the working directory by its path from there: directories, and files with
their contents. -/
def listing (world : World) : List (Path × Option Bytes) :=
  let shown (entry : Location × Node) : Path × Option Bytes :=
    (Path.ofParts entry.1,
      match entry.2 with
      | .directory => none
      | .leaf (.file contents) => some (world.fileBytes contents)
      | .leaf (.device _) => some [])
  let below := (world.tree.below? world.workingDirectory).getD .empty
  (below.entries.map shown).mergeSort fun first second => Bytes.le first.1 second.1

/-- A world with an empty working directory of the given name in the root, a directory for
temporary files in it, and the two devices. The first three descriptors are taken. Random names are
drawn from an arbitrary number on. -/
def initial (name : Name) : World :=
  let here : Location := [name]
  let temporary := Text.encode "tmp"
  let devices := Text.encode "dev"
  let standard : Descriptor := { target := .device .null, readable := true, writable := true }
  { workingDirectory := here
    homeVariable := Text.encode "home"
    temporaryVariable := Location.text (here ++ [temporary])
    tree :=
      .branch name (.branch temporary .empty .empty)
        (.branch devices
          (.leaf (Text.encode "full") (.device .full)
            (.leaf (Text.encode "null") (.device .null) .empty))
          .empty)
    descriptors := ⟨[some standard, some standard, some standard]⟩
    drawn := 640917 }

end World

end SessionStreams
