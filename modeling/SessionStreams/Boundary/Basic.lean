import SessionStreams.Boundary.Terminated
import SessionStreams.Boundary.Stream
import SessionStreams.Engine.Session

set_option autoImplicit false

/- The boundary: objects known to callers by handles, entry points that report failure in their
result, and an optional slot in which the error is stored. -/

namespace SessionStreams

namespace Boundary

/-- Settings on their way to a session. Setters cannot fail, so the first fault waits for the
session to be built. -/
structure Config where
  settings : Engine.Settings
  firstFault : Option Fault := none
deriving DecidableEq

namespace Config

def remember (config : Config) (fault : Fault) : Config :=
  match config.firstFault with
  | none => { config with firstFault := some fault }
  | some _ => config

def adjust (config : Config) (setting : Engine.Setting) : Config :=
  { config with settings := config.settings.adjust setting }

def listing (config : Config) : String :=
  let fault :=
    match config.firstFault with
    | none => "None"
    | some fault => "Some(" ++ fault.outermost.message ++ ")"
  "Config \x7b c: " ++ config.settings.listing ++ ", e: " ++ fault ++ " \x7d"

end Config

end Boundary

/-- The objects behind the boundary and the world they act on. -/
structure Boundary where
  world : World
  configs : Arena Boundary.Config := {}
  contexts : Arena Engine.Session := {}
  readers : Arena Boundary.Reader := {}
  writers : Arena Boundary.Writer := {}
deriving DecidableEq

namespace Boundary

/-- What a call with an error slot leaves behind. -/
structure Reply (α : Type) where
  result : α
  slot : ErrorSlot
  after : Boundary
deriving DecidableEq

/-- Success leaves the slot alone; failure is stored in it and shows in the result. -/
def conclude {α β : Type} (slot : ErrorSlot) (succeeded : β → α) (failed : Fault → α) :
    Except Fault β × Boundary → Reply α
  | (.ok value, after) => ⟨succeeded value, slot, after⟩
  | (.error fault, after) => ⟨failed fault, slot.store fault, after⟩

/-- A new handle, or none. -/
def concludeHandle (slot : ErrorSlot) (attempt : Except Fault Nat × Boundary) :
    Reply (Option Nat) :=
  conclude slot some (fun _ => none) attempt

def addReader (boundary : Boundary) (reader : Reader) : Nat × Boundary :=
  (boundary.readers.fresh, { boundary with readers := boundary.readers.alloc reader })

def addWriter (boundary : Boundary) (writer : Writer) : Nat × Boundary :=
  (boundary.writers.fresh, { boundary with writers := boundary.writers.alloc writer })

def nullBuffer (count : Nat) : Fault :=
  .invalidArgument ("buf is NULL, but len is " ++ toString count)

/-- Bytes that a caller lends, or no buffer with a claimed length. -/
inductive Loan where
  | null (count : Nat)
  | bytes (data : Bytes)
deriving DecidableEq

/-- A missing buffer counts as an empty one, and only as that. -/
def Loan.view : Loan → Except Fault Bytes
  | .null 0 => .ok []
  | .null (count + 1) => .error (nullBuffer (count + 1))
  | .bytes data => .ok data

/-- Room that a caller provides for bytes to be read. -/
inductive Room where
  | null (count : Nat)
  | space (count : Nat)
deriving DecidableEq

def Room.view : Room → Except Fault Nat
  | .null 0 => .ok 0
  | .null (count + 1) => .error (nullBuffer (count + 1))
  | .space count => .ok count

/-- Memory that a caller lends for writing: the first bytes of a region. -/
inductive Region where
  | null (length : Nat)
  | memory (id : Nat) (length : Nat)
deriving DecidableEq

def Region.view : Region → Except Fault Writer
  | .null 0 => .ok (.fixed none 0 0)
  | .null (count + 1) => .error (nullBuffer (count + 1))
  | .memory id length => .ok (.fixed (some id) length 0)

/-- Descriptor numbers are not negative. -/
def checkDescriptor (fd : Int) : Except Fault Nat :=
  if fd < 0 then .error (.invalidArgument ("Bad file descriptor: " ++ toString fd))
  else .ok fd.toNat

end Boundary

end SessionStreams
