import SessionStreams.Boundary.Errors
import SessionStreams.Boundary.Basic

set_option autoImplicit false

/- Errors on the host's side: a kind and a message, taken over from the error that the boundary
stored; and the errors of reading and writing, most of which carry one. -/

namespace SessionStreams.Host

inductive ErrorKind where
  | unknown
  | io
  | invalidArgument
  | invalidOperation
deriving DecidableEq

namespace ErrorKind

def label : ErrorKind → String
  | .unknown => "Unknown"
  | .io => "Io"
  | .invalidArgument => "InvalidArgument"
  | .invalidOperation => "InvalidOperation"

def message : ErrorKind → String
  | .unknown => "Unknown error"
  | .io => "IO error"
  | .invalidArgument => "Invalid argument"
  | .invalidOperation => "Invalid operation"

/-- A failure that reports success has an unknown cause. -/
def ofStatus : Boundary.Status → ErrorKind
  | .ioError => .io
  | .invalidArgument => .invalidArgument
  | .invalidOperation => .invalidOperation
  | .success => .unknown
  | .unknownError => .unknown

end ErrorKind

structure Error where
  kind : ErrorKind
  message : String
deriving DecidableEq

namespace Error

def listing (error : Error) : String :=
  "Error \x7b kind: " ++ error.kind.label ++ ", message: " ++ Text.quoted error.message ++ " \x7d"

def released (what : String) : Error := ⟨.invalidOperation, what ++ " has been released"⟩

/-- Takes over a stored error and gives it up. -/
def ofFault (fault : Boundary.Fault) : Boundary.Outcome Error := do
  let status ← Boundary.errorStatus (some fault)
  let text ← Boundary.errorText (some fault)
  Boundary.freeError (some fault)
  .done ⟨.ofStatus status, text.text⟩

end Error

/-- Looks for failure in the result of a call, and takes over the error that was stored. `check`
gives the value of a result that signals success. -/
def examine {α β : Type} (name : String) (check : α → Option β) (reply : Boundary.Reply α) :
    Boundary.Outcome (Except Error β) :=
  match check reply.result with
  | some value => .done (.ok value)
  | none =>
      match reply.slot.stored with
      | none => .done (.error ⟨.unknown, name ++ " failed without providing an error"⟩)
      | some fault => do
          let error ← Error.ofFault fault
          .done (.error error)

/-- The bytes of a read, unless its count tells of failure. -/
def bytesRead (result : Int × Bytes) : Option Bytes :=
  if result.1 < 0 then none else some result.2

/-- How many bytes were taken, unless the count tells of failure. -/
def countTaken (result : Int) : Option Nat := if result < 0 then none else some result.toNat

def statusPassed (status : Boundary.Status) : Option Unit :=
  if status = .success then some () else none

/-- Why reading or writing failed. -/
inductive StreamError where
  | host (error : Error)
  | nothingWritten
  | endedEarly
  | malformedText
deriving DecidableEq

namespace StreamError

inductive Kind where
  | invalidInput
  | other
  | writeZero
  | unexpectedEof
  | invalidData
deriving DecidableEq

def Kind.label : Kind → String
  | .invalidInput => "InvalidInput"
  | .other => "Other"
  | .writeZero => "WriteZero"
  | .unexpectedEof => "UnexpectedEof"
  | .invalidData => "InvalidData"

/-- Among the host's errors only a bad argument has a kind of its own. -/
def kind : StreamError → Kind
  | .host error => if error.kind = .invalidArgument then .invalidInput else .other
  | .nothingWritten => .writeZero
  | .endedEarly => .unexpectedEof
  | .malformedText => .invalidData

def message : StreamError → String
  | .host error => error.message
  | .nothingWritten => "failed to write whole buffer"
  | .endedEarly => "failed to fill whole buffer"
  | .malformedText => "stream did not contain valid UTF-8"

/-- The host's error inside. -/
def host? : StreamError → Option Error
  | .host error => some error
  | _ => none

def listing (error : Error) : String :=
  "Custom \x7b kind: " ++ (kind (.host error)).label ++ ", error: " ++ error.listing ++ " \x7d"

end StreamError

end SessionStreams.Host
