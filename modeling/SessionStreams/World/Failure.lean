import SessionStreams.Text.Quoted

set_option autoImplicit false

/- Why operations on the world fail: numbers of the operating system with their descriptions, and
failures that come from the program itself. -/

namespace SessionStreams

/-- A failure number of the operating system. -/
structure OsCode where
  number : Int
deriving DecidableEq

namespace OsCode

def noEntry : OsCode := ⟨2⟩

def interrupted : OsCode := ⟨4⟩

def badDescriptor : OsCode := ⟨9⟩

def tryAgain : OsCode := ⟨11⟩

def alreadyExists : OsCode := ⟨17⟩

def notDirectory : OsCode := ⟨20⟩

def isDirectory : OsCode := ⟨21⟩

def noSpace : OsCode := ⟨28⟩

def brokenPipe : OsCode := ⟨32⟩

def nameTooLong : OsCode := ⟨36⟩

/-- The descriptions of the numbers from 0 on; empty where a number is not in use. -/
def descriptions : List String := [
  "Success",
  "Operation not permitted",
  "No such file or directory",
  "No such process",
  "Interrupted system call",
  "Input/output error",
  "No such device or address",
  "Argument list too long",
  "Exec format error",
  "Bad file descriptor",
  "No child processes",
  "Resource temporarily unavailable",
  "Cannot allocate memory",
  "Permission denied",
  "Bad address",
  "Block device required",
  "Device or resource busy",
  "File exists",
  "Invalid cross-device link",
  "No such device",
  "Not a directory",
  "Is a directory",
  "Invalid argument",
  "Too many open files in system",
  "Too many open files",
  "Inappropriate ioctl for device",
  "Text file busy",
  "File too large",
  "No space left on device",
  "Illegal seek",
  "Read-only file system",
  "Too many links",
  "Broken pipe",
  "Numerical argument out of domain",
  "Numerical result out of range",
  "Resource deadlock avoided",
  "File name too long",
  "No locks available",
  "Function not implemented",
  "Directory not empty",
  "Too many levels of symbolic links",
  "",
  "No message of desired type",
  "Identifier removed",
  "Channel number out of range",
  "Level 2 not synchronized",
  "Level 3 halted",
  "Level 3 reset",
  "Link number out of range",
  "Protocol driver not attached",
  "No CSI structure available",
  "Level 2 halted",
  "Invalid exchange",
  "Invalid request descriptor",
  "Exchange full",
  "No anode",
  "Invalid request code",
  "Invalid slot",
  "",
  "Bad font file format",
  "Device not a stream",
  "No data available",
  "Timer expired",
  "Out of streams resources",
  "Machine is not on the network",
  "Package not installed",
  "Object is remote",
  "Link has been severed",
  "Advertise error",
  "Srmount error",
  "Communication error on send",
  "Protocol error",
  "Multihop attempted",
  "RFS specific error",
  "Bad message",
  "Value too large for defined data type",
  "Name not unique on network",
  "File descriptor in bad state",
  "Remote address changed",
  "Can not access a needed shared library",
  "Accessing a corrupted shared library",
  ".lib section in a.out corrupted",
  "Attempting to link in too many shared libraries",
  "Cannot exec a shared library directly",
  "Invalid or incomplete multibyte or wide character",
  "Interrupted system call should be restarted",
  "Streams pipe error",
  "Too many users",
  "Socket operation on non-socket",
  "Destination address required",
  "Message too long",
  "Protocol wrong type for socket",
  "Protocol not available",
  "Protocol not supported",
  "Socket type not supported",
  "Operation not supported",
  "Protocol family not supported",
  "Address family not supported by protocol",
  "Address already in use",
  "Cannot assign requested address",
  "Network is down",
  "Network is unreachable",
  "Network dropped connection on reset",
  "Software caused connection abort",
  "Connection reset by peer",
  "No buffer space available",
  "Transport endpoint is already connected",
  "Transport endpoint is not connected",
  "Cannot send after transport endpoint shutdown",
  "Too many references: cannot splice",
  "Connection timed out",
  "Connection refused",
  "Host is down",
  "No route to host",
  "Operation already in progress",
  "Operation now in progress",
  "Stale file handle",
  "Structure needs cleaning",
  "Not a XENIX named type file",
  "No XENIX semaphores available",
  "Is a named type file",
  "Remote I/O error",
  "Disk quota exceeded",
  "No medium found",
  "Wrong medium type",
  "Operation canceled",
  "Required key not available",
  "Key has expired",
  "Key has been revoked",
  "Key was rejected by service",
  "Owner died",
  "State not recoverable",
  "Operation not possible due to RF-kill",
  "Memory page has hardware error"]

def description (code : OsCode) : String :=
  let known := if code.number < 0 then "" else descriptions.getD code.number.toNat ""
  if known = "" then "Unknown error " ++ toString code.number else known

def message (code : OsCode) : String :=
  code.description ++ " (os error " ++ toString code.number ++ ")"

end OsCode

/-- Why an operation on the world failed. -/
inductive IoFailure where
  | os (code : OsCode)
  /-- A path with a NUL byte names nothing. -/
  | nulInPath
  /-- The device took none of the bytes it was offered. -/
  | nothingAccepted
  | reported (text : String)
  /-- The failure `cause` of an operation on `path`. -/
  | located (cause : IoFailure) (path : Bytes)
deriving DecidableEq

namespace IoFailure

def message : IoFailure → String
  | .os code => code.message
  | .nulInPath => "file name contained an unexpected NUL byte"
  | .nothingAccepted => "failed to write the buffered data"
  | .reported text => text
  | .located cause path => cause.message ++ " at path " ++ Text.quotedBytes path

end IoFailure

section Wrapping

variable {ε ε' α : Type} (wrap : ε → ε')

@[simp] theorem mapError_ok (result : α) :
    (Except.ok result : Except ε α).mapError wrap = .ok result := rfl

@[simp] theorem mapError_error (failure : ε) :
    (Except.error failure : Except ε α).mapError wrap = .error (wrap failure) := rfl

end Wrapping

end SessionStreams
