import SessionStreams.Engine.Policy
import SessionStreams.World.Failure

set_option autoImplicit false

/- Errors as they cross the boundary: a cause with any number of layers added around it, the status
that it maps to, and the slot of the caller in which it is stored. -/

namespace SessionStreams.Boundary

/-- One layer of an error. -/
inductive Layer where
  | engine (error : Engine.Error)
  | io (failure : IoFailure)
  /-- An input/output failure that was made from an engine error. -/
  | ioAround (error : Engine.Error)
  | note (text : String)
  /-- An error of a kind that the boundary does not know. -/
  | foreign (text : String)
deriving DecidableEq

def Layer.message : Layer → String
  | .engine error => error.message
  | .io failure => failure.message
  | .ioAround error => error.message
  | .note text => text
  | .foreign text => text

/-- An error with its layers, the outermost apart. -/
structure Fault where
  outermost : Layer
  inner : List Layer := []
deriving DecidableEq

inductive Status where
  | success
  | unknownError
  | ioError
  | invalidOperation
  | invalidArgument
deriving DecidableEq

namespace Status

def label : Status → String
  | .success => "Success"
  | .unknownError => "UnknownError"
  | .ioError => "IoError"
  | .invalidOperation => "InvalidOperation"
  | .invalidArgument => "InvalidArgument"

def code : Status → Int
  | .success => 0
  | .unknownError => -1
  | .ioError => -3
  | .invalidOperation => -4
  | .invalidArgument => -15

end Status

namespace Fault

def ofEngine (error : Engine.Error) : Fault := { outermost := .engine error }

def ofIo (failure : IoFailure) : Fault := { outermost := .io failure }

def invalidArgument (text : String) : Fault := ofEngine (.invalidArgument text)

def layers (fault : Fault) : List Layer := fault.outermost :: fault.inner

def wrap (fault : Fault) (layer : Layer) : Fault :=
  { outermost := layer, inner := fault.layers }

/-- A fault from its layers, the cause first. -/
def ofLayers (cause : Layer) (further : List Layer) : Fault :=
  further.foldl wrap { outermost := cause }

def engineError? : Layer → Option Engine.Error
  | .engine error => some error
  | _ => none

def isIo : Layer → Bool
  | .io _ => true
  | .ioAround _ => true
  | _ => false

/-- The outermost engine error decides; failing that, any input/output failure. -/
def status (fault : Fault) : Status :=
  match fault.layers.findSome? engineError? with
  | some (.invalidArgument _) => .invalidArgument
  | some (.invalidOperation _) => .invalidOperation
  | none => if fault.layers.any isIo then .ioError else .unknownError

/-- The message of the outermost layer, without the NUL characters that would end it early. -/
def message (fault : Fault) : String :=
  String.ofList (fault.outermost.message.toList.filter (· ≠ '\x00'))

end Fault

/-- Where the caller wants errors stored: nowhere, or in a slot with its present contents. -/
inductive ErrorSlot where
  | absent
  | holding (fault : Option Fault)
deriving DecidableEq

namespace ErrorSlot

def empty : ErrorSlot := .holding none

def store (slot : ErrorSlot) (fault : Fault) : ErrorSlot :=
  match slot with
  | .absent => .absent
  | .holding _ => .holding (some fault)

def stored : ErrorSlot → Option Fault
  | .absent => none
  | .holding fault => fault

end ErrorSlot

/-- How a call ends: it returns, it terminates the process with a message, or it was handed a
handle that names no live object, after which nothing is promised. -/
inductive Outcome (α : Type) where
  | done (value : α)
  | aborted (message : String)
  | undefined
deriving DecidableEq

namespace Outcome

variable {α β : Type}

def bind (first : Outcome α) (next : α → Outcome β) : Outcome β :=
  match first with
  | .done value => next value
  | .aborted message => .aborted message
  | .undefined => .undefined

instance : Monad Outcome where
  pure := .done
  bind := bind

@[simp] theorem done_bind (value : α) (next : α → Outcome β) :
    (Outcome.done value >>= next) = next value := rfl

@[simp] theorem aborted_bind (message : String) (next : α → Outcome β) :
    (Outcome.aborted message >>= next) = .aborted message := rfl

@[simp] theorem undefined_bind (next : α → Outcome β) :
    (Outcome.undefined >>= next) = .undefined := rfl

/-- A required argument; without it the call aborts. -/
def require (name : String) : Option α → Outcome α
  | some value => .done value
  | none => .aborted ("Parameter " ++ name ++ " is NULL")

/-- The live object that a handle names. -/
def live : Option α → Outcome α
  | some object => .done object
  | none => .undefined

end Outcome

end SessionStreams.Boundary
