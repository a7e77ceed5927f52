import SessionStreams.Script.HostSteps

set_option autoImplicit false

/- Steps on the entry points of the boundary, with missing handles, missing buffers and missing
error slots. -/

namespace SessionStreams.Script

open Boundary (Terminated ErrorSlot Outcome Reply)

/-- What can be asked of a context. -/
inductive Question where
  | home
  | policy
  | ephemeral
deriving DecidableEq

/-- What can be asked of a stored error, or done to it. -/
inductive ErrorQuestion where
  | free
  | status
  | text
deriving DecidableEq

/-- Steps on entry points of the boundary. No name stands for a missing handle, and `slot` tells
whether the call gets an error slot. -/
inductive BoundaryStep where
  | configure (config : String)
  | setHome (config : Option String) (home : Option Data)
  | setPolicy (config : Option String) (number : Int)
  | setEphemeral (config : Option String)
  | configListing (config : String)
  | build (config : Option String) (context : String) (slot : Bool)
  | query (context : String)
  | ask (context : Option String) (question : Question)
  | freeContext (context : Option String)
  | openReader (reader : String) (path : Option Data) (slot : Bool)
  | readerOverDescriptor (reader : String) (fd : DescriptorArgument) (slot : Bool)
  /-- Without data, no buffer with a claimed length; with data, its beginning of that length. -/
  | readerOverBytes (reader : String) (data : Option Data) (length : Option Nat) (slot : Bool)
  | read (reader : Option String) (count : Nat) (room slot : Bool)
  | freeReader (reader : Option String)
  | openWriter (writer : String) (path : Option Data) (slot : Bool)
  | writerOverDescriptor (writer : String) (fd : DescriptorArgument) (slot : Bool)
  | writerOverMemory (writer : String) (memory : Option String) (length : Option Nat) (slot : Bool)
  /-- Over a new sink, empty or holding `start`. -/
  | growingWriter (writer sink : String) (start : Option Data)
  /-- With one of the two places missing: that of the length, or else that of the buffer. -/
  | growingWithout (length : Bool)
  | write (writer : Option String) (data : Option Data) (length : Option Nat) (slot : Bool)
  | flush (writer : Option String) (slot : Bool)
  | freeWriter (writer : Option String)
  | showSink (sink : String)
  | errorCall (question : ErrorQuestion)

namespace BoundaryStep

def slotFor (given : Bool) : ErrorSlot := if given then .empty else .absent

def configId : Object → Option Nat
  | .boundaryConfig id => some id
  | _ => none

def contextId : Object → Option Nat
  | .boundaryContext id => some id
  | _ => none

def readerId : Object → Option Nat
  | .boundaryReader id => some id
  | _ => none

def writerId : Object → Option Nat
  | .boundaryWriter id => some id
  | _ => none

/-- The handle that a name stands for; a missing name is a missing handle. -/
def handleOf (machine : Machine) (id : Object → Option Nat) :
    Option String → Option (Option Nat)
  | none => some none
  | some slot => do
      let object ← machine.find? slot
      let handle ← id object
      some (some handle)

/-- A name that is given up. -/
def clearOptional (machine : Machine) : Option String → Machine
  | none => machine
  | some slot => machine.clear slot

/-- Bytes to lend: no buffer with a claimed length, or data cut to a length. -/
def loanOf (machine : Machine) (data : Option Data) (length : Option Nat) :
    Option Boundary.Loan :=
  match data with
  | none => some (.null (length.getD 0))
  | some data => do
      let bytes ← data.eval machine
      some (.bytes (bytes.take (length.getD bytes.length)))

/-- Names a new handle. -/
def nameHandle (machine : Machine) (name : String) (object : Nat → Object)
    (call : Outcome (Reply (Option Nat))) : Outcome (Answer × Machine) := do
  let reply ← call
  let machine := machine.withBoundary reply.after
  match reply.result with
  | none => .done (.handleReturned false reply.slot.stored, machine)
  | some id =>
      let machine ← machine.place name (object id)
      .done (.handleReturned true reply.slot.stored, machine)

/-- A call without a result. -/
def change (machine : Machine) (call : Outcome Boundary) : Effect :=
  some do
    let boundary ← call
    .done (.nothing, machine.withBoundary boundary)

def summarize (machine : Machine) (id : Nat) : Outcome (Answer × Machine) := do
  let boundary := machine.boundary
  let home ← boundary.contextHome (some id)
  let number ← boundary.contextPolicy (some id)
  let ephemeral ← boundary.contextEphemeral (some id)
  let session ← boundary.session (some id)
  .done (.summary
    { home := home.path, homeIsDirectory := machine.world.isDirectory home.path,
      policy := .number number, ephemeral,
      listing := some ("Context(" ++ session.listing ++ ")") }, machine)

def askContext (machine : Machine) (context : Option Nat) :
    Question → Outcome (Answer × Machine)
  | .home => do
      let home ← machine.boundary.contextHome context
      .done (.path home.path, machine)
  | .policy => do
      let number ← machine.boundary.contextPolicy context
      .done (.countReturned number none none, machine)
  | .ephemeral => do
      let ephemeral ← machine.boundary.contextEphemeral context
      .done (.flag ephemeral, machine)

def callError (machine : Machine) : ErrorQuestion → Outcome (Answer × Machine)
  | .free => do
      Boundary.freeError none
      .done (.nothing, machine)
  | .status => do
      let status ← Boundary.errorStatus none
      .done (.word status.label, machine)
  | .text => do
      let text ← Boundary.errorText none
      .done (.word text.text, machine)

def effect (machine : Machine) : BoundaryStep → Effect
  | .configure slot =>
      let (id, boundary) := machine.boundary.configure
      some do
        let machine ← (machine.withBoundary boundary).place slot (.boundaryConfig id)
        .done (.handleReturned true none, machine)
  | .setHome config home => do
      let config ← handleOf machine configId config
      let home ←
        match home with
        | none => some none
        | some data => do
            let bytes ← data.eval machine
            some (some (Terminated.ofMemory bytes))
      change machine (machine.boundary.setHome config home)
  | .setPolicy config number => do
      let config ← handleOf machine configId config
      change machine (machine.boundary.setPolicy config number)
  | .setEphemeral config => do
      let config ← handleOf machine configId config
      change machine (machine.boundary.setEphemeral config)
  | .configListing slot =>
      match machine.find? slot with
      | some (.boundaryConfig id) => do
          let config ← machine.boundary.configs.get? id
          unchanged machine (.word config.listing)
      | _ => none
  | .build config name slot => do
      let id ← handleOf machine configId config
      some (nameHandle (clearOptional machine config) name .boundaryContext
        (machine.boundary.buildContext (slotFor slot) id))
  | .query context =>
      match machine.find? context with
      | some (.boundaryContext id) => some (summarize machine id)
      | _ => none
  | .ask context question => do
      let context ← handleOf machine contextId context
      some (askContext machine context question)
  | .freeContext context => do
      let id ← handleOf machine contextId context
      change (clearOptional machine context) (machine.boundary.freeContext id)
  | .openReader name path slot => do
      let path ←
        match path with
        | none => some none
        | some data => do
            let bytes ← data.eval machine
            some (some (Terminated.ofMemory bytes))
      some (nameHandle machine name .boundaryReader
        (machine.boundary.openReader (slotFor slot) path))
  | .readerOverDescriptor name fd slot => do
      let (handed, machine) ← fd.take machine
      some (nameHandle machine name .boundaryReader
        (machine.boundary.readerOverDescriptor (slotFor slot) handed.number))
  | .readerOverBytes name data length slot => do
      let loan ← loanOf machine data length
      some (nameHandle machine name .boundaryReader
        (machine.boundary.readerOverBytes (slotFor slot) loan))
  | .read reader count room slot => do
      let id ← handleOf machine readerId reader
      some do
        let reply ← machine.boundary.read (slotFor slot) id
          (if room then .space count else .null count)
        let (result, data) := reply.result
        let shown := if room then some (if result < 0 then none else some data) else none
        .done (.countReturned result shown reply.slot.stored, machine.withBoundary reply.after)
  | .freeReader reader => do
      let id ← handleOf machine readerId reader
      change (clearOptional machine reader) (machine.boundary.freeReader id)
  | .openWriter name path slot => do
      let path ←
        match path with
        | none => some none
        | some data => do
            let bytes ← data.eval machine
            some (some (Terminated.ofMemory bytes))
      some (nameHandle machine name .boundaryWriter
        (machine.boundary.openWriter (slotFor slot) path))
  | .writerOverDescriptor name fd slot => do
      let (handed, machine) ← fd.take machine
      some (nameHandle machine name .boundaryWriter
        (machine.boundary.writerOverDescriptor (slotFor slot) handed.number))
  | .writerOverMemory name memory length slot => do
      let region ←
        match memory with
        | none => some (Boundary.Region.null (length.getD 0))
        | some memory =>
            match machine.find? memory with
            | some (.memory id) =>
                let size := ((machine.world.memory.get? id).getD []).length
                some (.memory id (min (length.getD size) size))
            | _ => none
      some (nameHandle machine name .boundaryWriter
        (machine.boundary.writerOverMemory (slotFor slot) region))
  | .growingWriter name sink start => do
      let initial : Sink ←
        match start with
        | none => some .missing
        | some data => do
            let bytes ← data.eval machine
            some (.full bytes)
      let world := machine.world
      let id := world.sinks.fresh
      let machine := machine.withWorld { world with sinks := world.sinks.alloc initial }
      some do
        let (writer, boundary) ← machine.boundary.growingWriter (some id) (some id)
        let machine ← (machine.withBoundary boundary).place sink (.sink id)
        let machine ← machine.place name (.boundaryWriter writer)
        .done (.handleReturned true none, machine)
  | .growingWithout length =>
      some do
        let (_, boundary) ←
          if length then machine.boundary.growingWriter (some 0) none
          else machine.boundary.growingWriter none (some 0)
        .done (.nothing, machine.withBoundary boundary)
  | .write writer data length slot => do
      let id ← handleOf machine writerId writer
      let loan ← loanOf machine data length
      some do
        let reply ← machine.boundary.write (slotFor slot) id loan
        .done (.countReturned reply.result none reply.slot.stored,
          machine.withBoundary reply.after)
  | .flush writer slot => do
      let id ← handleOf machine writerId writer
      some do
        let reply ← machine.boundary.flush (slotFor slot) id
        .done (.statusReturned reply.result reply.slot.stored, machine.withBoundary reply.after)
  | .freeWriter writer => do
      let id ← handleOf machine writerId writer
      change (clearOptional machine writer) (machine.boundary.freeWriter id)
  | .showSink slot =>
      match machine.find? slot with
      | some (.sink id) => do
          let sink ← machine.world.sinks.get? id
          unchanged machine (.sink (sink.chunk.map fun _ => sink.bytes))
      | _ => none
  | .errorCall question => some (callError machine question)

end BoundaryStep

end SessionStreams.Script
