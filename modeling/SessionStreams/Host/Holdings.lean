import SessionStreams.Host.Whole

set_option autoImplicit false

/- All contexts, readers and writers that a host program holds, and the actions on them. An action
on an object that is no longer held does nothing. -/

namespace SessionStreams.Host

open Boundary (Outcome)
open Engine (Policy)

structure Holdings where
  host : Host
  contexts : Arena Context := {}
  readers : Arena Reader := {}
  writers : Arena Writer := {}
deriving DecidableEq

/-- The object that an action is addressed to. -/
inductive Address where
  | context (id : Nat)
  | reader (id : Nat)
  | writer (id : Nat)
deriving DecidableEq

inductive ContextAction where
  | home
  | policy
  | ephemeral
  | release
  | drop
  | openReader (path : Path)
  | readerOverDescriptor (handed : Handed)
  | readerOverBytes (data : Bytes)
  | openWriter (path : Path)
  | writerOverDescriptor (handed : Handed)
  | writerOverMemory (region : Boundary.Region)
  | allocatingWriter
deriving DecidableEq

inductive ReaderAction where
  | read (count : Nat)
  | close
  | drop
deriving DecidableEq

inductive WriterAction where
  | write (data : Bytes)
  | flush
  | close
  | drop
  | harvest
deriving DecidableEq

inductive Action where
  | build (config : Config)
  | context (id : Nat) (action : ContextAction)
  | reader (id : Nat) (action : ReaderAction)
  | writer (id : Nat) (action : WriterAction)
deriving DecidableEq

def Action.address? : Action → Option Address
  | .build _ => none
  | .context id _ => some (.context id)
  | .reader id _ => some (.reader id)
  | .writer id _ => some (.writer id)

/-- What an action answers. -/
inductive Answer where
  | absent
  | nothing
  | made (id : Nat)
  | path (path : Path)
  | policy (policy : Policy)
  | flag (value : Bool)
  | bytes (data : Bytes)
  | count (count : Nat)
  | failed (error : Error)
deriving DecidableEq

def Answer.ofExcept {α : Type} (succeeded : α → Answer) : Except Error α → Answer
  | .ok value => succeeded value
  | .error error => .failed error

namespace Holdings

def keepContext (held : Holdings) : Except Error Context × Host → Answer × Holdings
  | (.error error, host) => (.failed error, { held with host })
  | (.ok context, host) =>
      (.made held.contexts.fresh,
        { held with host, contexts := held.contexts.alloc context })

def keepReader (held : Holdings) : Except Error Reader × Host → Answer × Holdings
  | (.error error, host) => (.failed error, { held with host })
  | (.ok reader, host) =>
      (.made held.readers.fresh, { held with host, readers := held.readers.alloc reader })

def keepWriter (held : Holdings) : Except Error Writer × Host → Answer × Holdings
  | (.error error, host) => (.failed error, { held with host })
  | (.ok writer, host) =>
      (.made held.writers.fresh, { held with host, writers := held.writers.alloc writer })

/-- An answer that leaves the objects held as they are. -/
def keepHost {α : Type} (held : Holdings) (succeeded : α → Answer)
    (result : Except Error α × Host) : Answer × Holdings :=
  (.ofExcept succeeded result.1, { held with host := result.2 })

def performOnContext (held : Holdings) (id : Nat) (context : Context) :
    ContextAction → Outcome (Answer × Holdings)
  | .home => do
      let result ← context.home held.host
      .done (held.keepHost .path result)
  | .policy => do
      let result ← context.policy held.host
      .done (held.keepHost .policy result)
  | .ephemeral => do
      let result ← context.ephemeral held.host
      .done (held.keepHost .flag result)
  | .release => do
      let (context, host) ← context.release held.host
      .done (.nothing, { held with host, contexts := held.contexts.set id context })
  | .drop => do
      let host ← context.drop held.host
      .done (.nothing, { held with host, contexts := held.contexts.release id })
  | .openReader path => do
      let result ← Reader.ofPath context path held.host
      .done (held.keepReader result)
  | .readerOverDescriptor handed => do
      let result ← Reader.ofDescriptor context handed held.host
      .done (held.keepReader result)
  | .readerOverBytes data => do
      let result ← Reader.ofBytes context data held.host
      .done (held.keepReader result)
  | .openWriter path => do
      let result ← Writer.ofPath context path held.host
      .done (held.keepWriter result)
  | .writerOverDescriptor handed => do
      let result ← Writer.ofDescriptor context handed held.host
      .done (held.keepWriter result)
  | .writerOverMemory region => do
      let result ← Writer.ofMemory context region held.host
      .done (held.keepWriter result)
  | .allocatingWriter => do
      let result ← Writer.allocating context held.host
      .done (held.keepWriter result)

def performOnReader (held : Holdings) (id : Nat) (reader : Reader) :
    ReaderAction → Outcome (Answer × Holdings)
  | .read count => do
      let result ← reader.read count held.host
      .done (held.keepHost .bytes result)
  | .close => do
      let (reader, host) ← reader.close held.host
      .done (.nothing, { held with host, readers := held.readers.set id reader })
  | .drop => do
      let host ← reader.drop held.host
      .done (.nothing, { held with host, readers := held.readers.release id })

def performOnWriter (held : Holdings) (id : Nat) (writer : Writer) :
    WriterAction → Outcome (Answer × Holdings)
  | .write data => do
      let result ← writer.write data held.host
      .done (held.keepHost .count result)
  | .flush => do
      let result ← writer.flush held.host
      .done (held.keepHost (fun _ => .nothing) result)
  | .close => do
      let (writer, host) ← writer.close held.host
      .done (.nothing, { held with host, writers := held.writers.set id writer })
  | .drop => do
      let host ← writer.drop held.host
      .done (.nothing, { held with host, writers := held.writers.release id })
  | .harvest => do
      let result ← writer.harvest held.host
      .done ({ held with writers := held.writers.release id }.keepHost .bytes result)

def perform (held : Holdings) : Action → Outcome (Answer × Holdings)
  | .build config => do
      let result ← config.build held.host
      .done (held.keepContext result)
  | .context id action =>
      match held.contexts.get? id with
      | none => .done (.absent, held)
      | some context => held.performOnContext id context action
  | .reader id action =>
      match held.readers.get? id with
      | none => .done (.absent, held)
      | some reader => held.performOnReader id reader action
  | .writer id action =>
      match held.writers.get? id with
      | none => .done (.absent, held)
      | some writer => held.performOnWriter id writer action

/-- The answers to a sequence of actions, and what is held after them. -/
def run (held : Holdings) : List Action → Outcome (List Answer × Holdings)
  | [] => .done ([], held)
  | action :: rest => do
      let (answer, held) ← held.perform action
      let (answers, held) ← held.run rest
      .done (answer :: answers, held)

end Holdings

end SessionStreams.Host
