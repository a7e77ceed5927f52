import SessionStreams.Host.Writer

set_option autoImplicit false

/- Reading and writing as a whole: repeated reads and writes until a request is fulfilled, the
stream ends, or one of them fails. -/

namespace SessionStreams.Host

open Boundary (Outcome)

namespace Reader

/-- Reads until `count` bytes are there. A stream that ends before has been used up. -/
def readExactly (reader : Reader) (count : Nat) (host : Host) :
    Outcome (Except StreamError Bytes × Host) :=
  go count [] host
where
  go (missing : Nat) (got : Bytes) (host : Host) : Outcome (Except StreamError Bytes × Host) :=
    match missing with
    | 0 => .done (.ok got, host)
    | missing + 1 => do
        let (answer, host) ← reader.read (missing + 1) host
        match answer with
        | .error error => .done (.error (.host error), host)
        | .ok [] => .done (.error .endedEarly, host)
        | .ok (byte :: rest) => go (missing - rest.length) (got ++ byte :: rest) host
  termination_by missing
  decreasing_by omega

/-- The non-empty reads of a loop, and the failure that ended it; without one, a read found the
end. -/
structure Rounds where
  reads : List Bytes := []
  failure : Option Error := none
deriving DecidableEq

def Rounds.data (rounds : Rounds) : Bytes := rounds.reads.flatten

/-- At most `limit` reads of `count` bytes each, up to the first that finds the end or fails. They
follow the reads `earlier`, of which the latest comes first. -/
def rounds (reader : Reader) (count : Nat) (earlier : List Bytes) (host : Host) :
    Nat → Outcome (Rounds × Host)
  | 0 => .done ({ reads := earlier.reverse }, host)
  | limit + 1 =>
      match reader.read count host with
      | .undefined => .undefined
      | .aborted message => .aborted message
      | .done (.error error, host) =>
          .done ({ reads := earlier.reverse, failure := some error }, host)
      | .done (.ok [], host) => .done ({ reads := earlier.reverse }, host)
      | .done (.ok (byte :: rest), host) =>
          reader.rounds count ((byte :: rest) :: earlier) host limit

/-- How many bytes a reader has before it; an endless device counts as empty. -/
def remaining (reader : Reader) (host : Host) : Nat :=
  match host.boundary.readers.get? reader.handle with
  | none => 0
  | some (.bytes rest) => rest.length
  | some (.descriptor fd) =>
      match host.boundary.world.descriptors.get? fd with
      | none => 0
      | some descriptor =>
          match descriptor.target with
          | .directory => 0
          | .device _ => 0
          | .file contents =>
              host.boundary.world.fileSize contents - descriptor.offset
          | .pipeEnd pipe _ =>
              match host.boundary.world.pipes.get? pipe with
              | none => 0
              | some state => state.content.length

/-- Reads of `count` bytes each until one finds the end or fails. Since every other read gets a
byte or more, one read more than there are bytes is enough. -/
def readLoop (reader : Reader) (count : Nat) (host : Host) : Outcome (Rounds × Host) :=
  reader.rounds count [] host (reader.remaining host + 1)

def chunk : Nat := 8192

/-- All that is left of the stream, with the failure that ended it. -/
def readToEnd (reader : Reader) (host : Host) : Outcome (Bytes × Option Error × Host) := do
  let (rounds, host) ← reader.readLoop chunk host
  .done (rounds.data, rounds.failure, host)

/-- All that is left of the stream as text. A failure to read comes before malformed text. -/
def readText (reader : Reader) (host : Host) : Outcome (Except StreamError String × Host) := do
  let (data, failure, host) ← reader.readToEnd host
  match failure, Text.decode? data with
  | some error, _ => .done (.error (.host error), host)
  | none, none => .done (.error .malformedText, host)
  | none, some text => .done (.ok text, host)

end Reader

namespace Writer

/-- Writes until all data is taken. -/
def writeAll (writer : Writer) (data : Bytes) (host : Host) :
    Outcome (Except StreamError Unit × Host) :=
  match data with
  | [] => .done (.ok (), host)
  | byte :: rest => do
      let (answer, host) ← writer.write (byte :: rest) host
      match answer with
      | .error error => .done (.error (.host error), host)
      | .ok 0 => .done (.error .nothingWritten, host)
      | .ok (taken + 1) => writeAll writer (rest.drop taken) host
termination_by data.length
decreasing_by
  simp only [List.length_drop, List.length_cons]
  omega

end Writer

end SessionStreams.Host
