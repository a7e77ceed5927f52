import SessionStreams.Script.EngineSteps

set_option autoImplicit false

/- Steps on the contexts, readers and writers of a host. Each is an action on what the host holds,
or a whole read or write. -/

namespace SessionStreams.Script

open Boundary (Outcome)
open Host (Config Context Holdings Reader StreamError Writer)

/-- A descriptor for a stream: one that has a name, or a number. -/
inductive DescriptorArgument where
  | slot (slot : String)
  | number (number : Int)
deriving DecidableEq

/-- Takes a descriptor; one that had a name is owned, and loses it. -/
def DescriptorArgument.take (machine : Machine) : DescriptorArgument → Option (Handed × Machine)
  | .number given => some (.raw given, machine)
  | .slot name =>
      match machine.find? name with
      | some (.descriptor fd) => some (.owned fd, machine.clear name)
      | _ => none

/-- Steps on contexts, readers and writers of the host. -/
inductive HostStep where
  | new (context : String)
  | build (context : String) (plan : List Plan)
  | query (context : String)
  | home (context : String)
  | policy (context : String)
  | ephemeral (context : String)
  | isReleased (context : String)
  | release (context : String)
  | contextListing (context : String)
  | openReader (context reader : String) (path : Data)
  | readerOverDescriptor (context reader : String) (fd : DescriptorArgument)
  | readerOverBytes (context reader : String) (data : Data)
  | read (reader : String) (count : Nat)
  | readExactly (reader : String) (count : Nat)
  | readToEnd (reader : String)
  | readText (reader : String)
  | readLoop (reader : String) (count : Nat)
  | closeReader (reader : String)
  | readerIsClosed (reader : String)
  | readerListing (reader : String)
  | openWriter (context writer : String) (path : Data)
  | writerOverDescriptor (context writer : String) (fd : DescriptorArgument)
  | writerOverMemory (context writer memory : String)
  | allocatingWriter (context writer : String)
  | write (writer : String) (data : Data)
  | writeAll (writer : String) (data : Data)
  | flush (writer : String)
  | harvest (writer : String) (keep : Option String)
  | closeWriter (writer : String)
  | writerIsClosed (writer : String)
  | writerListing (writer : String)

namespace Machine

def withHost (machine : Machine) (host : Host) : Machine :=
  { machine with held := { machine.held with host } }

def context? (machine : Machine) (slot : String) : Option (Nat × Context) :=
  match machine.find? slot with
  | some (.context id _) => (machine.held.contexts.get? id).map (id, ·)
  | _ => none

def reader? (machine : Machine) (slot : String) : Option (Nat × Reader) :=
  match machine.find? slot with
  | some (.reader id) => (machine.held.readers.get? id).map (id, ·)
  | _ => none

def writer? (machine : Machine) (slot : String) : Option (Nat × Writer) :=
  match machine.find? slot with
  | some (.writer id) => (machine.held.writers.get? id).map (id, ·)
  | _ => none

end Machine

/-- The answer of a script to the answer of an action. -/
def answerOf : Host.Answer → Answer
  | .absent => .absent
  | .nothing => .nothing
  | .made _ => .word "open"
  | .path path => .path path
  | .policy policy => .word policy.label
  | .flag value => .flag value
  | .bytes data => .bytes data
  | .count count => .count count
  | .failed error => .refused error

/-- Like `answerOf`, for reading and writing, whose errors are stream errors. -/
def streamAnswerOf : Host.Answer → Answer
  | .failed error => .broken (.host error) none
  | answer => answerOf answer

namespace HostStep

def act (machine : Machine) (action : Host.Action) (shown : Host.Answer → Answer) :
    Outcome (Answer × Machine) := do
  let (answer, held) ← machine.held.perform action
  .done (shown answer, { machine with held })

/-- An action that makes an object, which gets a name. -/
def make (machine : Machine) (slot : String) (object : Nat → Object) (action : Host.Action) :
    Outcome (Answer × Machine) := do
  let (answer, held) ← machine.held.perform action
  match answer with
  | .made id =>
      let machine ← { machine with held }.place slot (object id)
      .done (answerOf answer, machine)
  | _ => .done (answerOf answer, { machine with held })

/-- What a context tells about its session, or the first error. -/
def summarize (machine : Machine) (context : Context) : Outcome (Answer × Machine) := do
  let (place, host) ← context.home machine.held.host
  let (chosen, host) ← context.policy host
  let (passing, host) ← context.ephemeral host
  let machine := machine.withHost host
  match place, chosen, passing with
  | .error error, _, _ => .done (.refused error, machine)
  | _, .error error, _ => .done (.refused error, machine)
  | _, _, .error error => .done (.refused error, machine)
  | .ok path, .ok kind, .ok brief =>
      .done (.summary
        { home := path, homeIsDirectory := machine.world.isDirectory path,
          policy := .policy kind, ephemeral := brief }, machine)

/-- Builds a context, and names it with its home. -/
def start (machine : Machine) (slot : String) (config : Config) : Outcome (Answer × Machine) := do
  let (answer, held) ← machine.held.perform (.build config)
  match answer with
  | .made id => do
      let (place, held) ← held.perform (.context id .home)
      match place, held.contexts.get? id with
      | .path path, some context => do
          let machine ← { machine with held }.place slot (.context id path)
          summarize machine context
      | _, _ => .done (answerOf place, { machine with held })
  | _ => .done (answerOf answer, { machine with held })

def onContext (machine : Machine) (slot : String) (action : Host.ContextAction) : Effect := do
  let (id, _) ← machine.context? slot
  some (act machine (.context id action) answerOf)

def makeWith (machine : Machine) (context slot : String) (object : Nat → Object)
    (action : Host.ContextAction) : Effect := do
  let (id, _) ← machine.context? context
  some (make machine slot object (.context id action))

def onReader (machine : Machine) (slot : String) (action : Host.ReaderAction) : Effect := do
  let (id, _) ← machine.reader? slot
  some (act machine (.reader id action) streamAnswerOf)

def onWriter (machine : Machine) (slot : String) (action : Host.WriterAction) : Effect := do
  let (id, _) ← machine.writer? slot
  some (act machine (.writer id action) streamAnswerOf)

/-- The answer to a whole read or write. -/
def whole {α : Type} (machine : Machine) (shown : α → Answer)
    (result : Outcome (Except StreamError α × Host)) : Outcome (Answer × Machine) := do
  let (answer, host) ← result
  match answer with
  | .error error => .done (.broken error none, machine.withHost host)
  | .ok value => .done (shown value, machine.withHost host)

def loopAnswer (rounds : Reader.Rounds) : Answer :=
  match rounds.failure with
  | some error => .broken (.host error) none
  | none => .rounds (rounds.reads.map List.length ++ [0]) rounds.data

def effect (machine : Machine) : HostStep → Effect
  | .new slot => some (start machine slot {})
  | .build slot plan => do
      let (config, machine) ← followPlan Config.adjust machine {} plan
      some do
        let (answer, machine) ← start machine slot config
        .done (.configured config.listing answer, machine)
  | .query slot => do
      let (_, context) ← machine.context? slot
      some (summarize machine context)
  | .home slot => onContext machine slot .home
  | .policy slot => onContext machine slot .policy
  | .ephemeral slot => onContext machine slot .ephemeral
  | .isReleased slot => do
      let (_, context) ← machine.context? slot
      unchanged machine (.flag context.released)
  | .release slot => do
      let (id, _) ← machine.context? slot
      some do
        let (_, machine) ← act machine (.context id .release) answerOf
        match machine.context? slot with
        | some (_, context) => .done (.flag context.released, machine)
        | none => .done (.absent, machine)
  | .contextListing slot => do
      let (_, context) ← machine.context? slot
      unchanged machine (.word context.listing)
  | .openReader context slot path => do
      let path ← path.eval machine
      makeWith machine context slot .reader (.openReader path)
  | .readerOverDescriptor context slot fd => do
      let _ ← machine.context? context
      let (handed, machine) ← fd.take machine
      makeWith machine context slot .reader (.readerOverDescriptor handed)
  | .readerOverBytes context slot data => do
      let data ← data.eval machine
      makeWith machine context slot .reader (.readerOverBytes data)
  | .read slot count => onReader machine slot (.read count)
  | .readExactly slot count => do
      let (_, reader) ← machine.reader? slot
      some (whole machine .bytes (reader.readExactly count machine.held.host))
  | .readToEnd slot => do
      let (_, reader) ← machine.reader? slot
      some do
        let (data, failure, host) ← reader.readToEnd machine.held.host
        match failure with
        | some error => .done (.broken (.host error) (some data), machine.withHost host)
        | none => .done (.bytes data, machine.withHost host)
  | .readText slot => do
      let (_, reader) ← machine.reader? slot
      some (whole machine .word (reader.readText machine.held.host))
  | .readLoop slot count => do
      let (_, reader) ← machine.reader? slot
      some do
        let (rounds, host) ← reader.readLoop (max count 1) machine.held.host
        .done (loopAnswer rounds, machine.withHost host)
  | .closeReader slot => do
      let (id, _) ← machine.reader? slot
      some do
        let (_, machine) ← act machine (.reader id .close) answerOf
        match machine.reader? slot with
        | some (_, reader) => .done (.flag reader.closed, machine)
        | none => .done (.absent, machine)
  | .readerIsClosed slot => do
      let (_, reader) ← machine.reader? slot
      unchanged machine (.flag reader.closed)
  | .readerListing slot => do
      let (_, reader) ← machine.reader? slot
      unchanged machine (.word reader.listing)
  | .openWriter context slot path => do
      let path ← path.eval machine
      makeWith machine context slot .writer (.openWriter path)
  | .writerOverDescriptor context slot fd => do
      let _ ← machine.context? context
      let (handed, machine) ← fd.take machine
      makeWith machine context slot .writer (.writerOverDescriptor handed)
  | .writerOverMemory context slot memory =>
      match machine.find? memory with
      | some (.memory id) =>
          let length := ((machine.world.memory.get? id).getD []).length
          makeWith machine context slot .writer (.writerOverMemory (.memory id length))
      | _ => none
  | .allocatingWriter context slot => makeWith machine context slot .writer .allocatingWriter
  | .write slot data => do
      let data ← data.eval machine
      onWriter machine slot (.write data)
  | .writeAll slot data => do
      let data ← data.eval machine
      let (_, writer) ← machine.writer? slot
      some (whole machine (fun _ => .nothing) (writer.writeAll data machine.held.host))
  | .flush slot => onWriter machine slot .flush
  | .harvest slot keep => do
      let (id, _) ← machine.writer? slot
      some do
        let (answer, machine) ← act (machine.clear slot) (.writer id .harvest) answerOf
        match answer, keep with
        | .bytes data, some name => do
            let machine ← machine.place name (.bytes data)
            .done (answer, machine)
        | _, _ => .done (answer, machine)
  | .closeWriter slot => do
      let (id, _) ← machine.writer? slot
      some do
        let (_, machine) ← act machine (.writer id .close) answerOf
        match machine.writer? slot with
        | some (_, writer) => .done (.flag writer.closed, machine)
        | none => .done (.absent, machine)
  | .writerIsClosed slot => do
      let (_, writer) ← machine.writer? slot
      unchanged machine (.flag writer.closed)
  | .writerListing slot => do
      let (_, writer) ← machine.writer? slot
      unchanged machine (.word writer.listing)

end HostStep

end SessionStreams.Script
