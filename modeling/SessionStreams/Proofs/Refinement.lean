import SessionStreams.Proofs.Calls
import SessionStreams.Proofs.Performing

set_option autoImplicit false

namespace SessionStreams

/-- The host's actions that stand for calls behind the boundary. -/
def Boundary.Source.action : Boundary.Source → Host.ContextAction
  | .file path => .openReader path.path
  | .descriptor fd => .readerOverDescriptor fd
  | .bytes data => .readerOverBytes data

def Boundary.Destination.action : Boundary.Destination → Host.ContextAction
  | .file path => .openWriter path.path
  | .descriptor fd => .writerOverDescriptor fd
  | .memory region => .writerOverMemory region
  | .growing => .allocatingWriter

/-- The sink that the caller gives to a growing writer. -/
def Boundary.Destination.sink? (destination : Boundary.Destination) (world : World) : Option Nat :=
  match destination with
  | .growing => some world.sinks.fresh
  | _ => none

def Boundary.Request.action : Boundary.Request → Host.WriterAction
  | .write data => .write data
  | .flush => .flush

/-- What the host answers to a request that took so many bytes. -/
def Boundary.Request.answer : Boundary.Request → Nat → Host.Answer
  | .write _, taken => .count taken
  | .flush, _ => .nothing

namespace Host

open Boundary (Destination Fault Outcome Reply Request Returned Source Twins callAll callRead
  callWriter)

/-- The error has the kind and the message of the stored one. -/
def Relays (error : Error) (fault : Fault) : Prop :=
  ∃ status text, Boundary.errorStatus (some fault) = .done status ∧
    Boundary.errorText (some fault) = .done text ∧ error.kind = .ofStatus status ∧
      error.message = text.text

theorem relays_reporting (fault : Fault) : Relays (.reporting fault) fault := by
  obtain ⟨text, copied, shown⟩ := Boundary.errorText_spec fault
  exact ⟨fault.status, text, rfl, copied, rfl, shown.symm⟩

/-- An answer of the host and what a call returned say the same. -/
inductive Agrees : Answer → Returned → Prop where
  | made {number id : Nat} : Agrees (.made number) (.handle (some id) none)
  | read {data : Bytes} : Agrees (.bytes data) (.bytes data.length data none)
  | written {taken : Nat} : Agrees (.count taken) (.count taken none)
  | flushed : Agrees .nothing (.status .success none)
  | unmade {error : Error} {fault : Fault} (relays : Relays error fault) :
      Agrees (.failed error) (.handle none (some fault))
  | unread {error : Error} {fault : Fault} {data : Bytes} (relays : Relays error fault) :
      Agrees (.failed error) (.bytes (-1) data (some fault))
  | unwritten {error : Error} {fault : Fault} (relays : Relays error fault) :
      Agrees (.failed error) (.count (-1) (some fault))
  | unflushed {error : Error} {fault : Fault} (relays : Relays error fault) :
      Agrees (.failed error) (.status fault.status (some fault))

section

variable {custody : Custody} {address another : Address} {share : Nat}

/-- Letting go of a share that another object has is not felt behind the boundary. -/
theorem letGo_of_shared (sound : Sound custody) (mine : custody.Holds address share)
    (others : custody.Holds another share) (apart : address ≠ another) (host : Host)
    (shares : host.shares = custody.host.shares) :
    ∃ after, host.letGo share = .done after ∧ after.boundary = host.boundary := by
  obtain ⟨state, shared⟩ := sound.exists_share mine
  have counted := (sound.counted share state shared).2
  have both : {address, another} ⊆ custody.holders share := by
    intro place inside
    rcases inside with rfl | rfl
    · exact mine
    · exact others
  have more : ¬ state.holders ≤ 1 := by
    have least := Set.ncard_le_ncard both (sound.finite_holders shared)
    rw [Set.ncard_pair apart, counted] at least
    omega
  rw [← shares] at shared
  simp only [Host.letGo, shared, Outcome.live, Outcome.done_bind, more, if_false]
  exact ⟨_, rfl, rfl⟩

theorem letGo_hold (sound : Sound custody) (held : custody.Holds address share) {host : Host}
    (shares : host.shares = (custody.host.hold share).shares) :
    ∃ after, host.letGo share = .done after ∧ after.boundary = host.boundary := by
  obtain ⟨state, shared⟩ := sound.exists_share held
  have positive := (sound.counted share state shared).1
  have more : ¬ state.holders + 1 ≤ 1 := by omega
  rw [Sound.hold_eq shared] at shares
  simp only [Host.letGo, shares, Arena.get?_set_self _ shared, Outcome.live, Outcome.done_bind,
    more, if_false]
  exact ⟨_, rfl, rfl⟩

end

theorem Holdings.sound_perform {held after : Holdings} {action : Action} {answer : Answer}
    (sound : Sound held.custody) (done : held.perform action = .done (answer, after)) :
    Sound after.custody := by
  obtain ⟨other, same, again, performed⟩ := perform_spec sound action
  rw [done] at again
  cases again
  exact performed.sound sound

/-- Both have the same world, and the host has a context that keeps a share. -/
structure Paired (context share : Nat) (held : Holdings) (native : Boundary) : Prop where
  world : held.host.boundary.world = native.world
  sound : Sound held.custody
  live : held.custody.claim? (.context context) = some { share }

theorem Paired.of_context {context : Nat} {object : Context} {held : Holdings} {native : Boundary}
    (sound : Sound held.custody) (found : held.contexts.get? context = some object)
    (unreleased : object.released = false) (same : native.world = held.host.boundary.world) :
    Paired context object.share held native := by
  refine ⟨same.symm, sound, ?_⟩
  simp only [Holdings.custody, Holdings.claim?, found, Option.bind_some]
  exact claim?_of_held unreleased

/-- Both have the same reader. -/
structure PairedReader (context share reader id : Nat) (held : Holdings) (native : Boundary) : Prop
    extends Paired context share held native where
  stream : ∃ handle source, held.readers.get? reader = some { handle, share } ∧
    held.host.boundary.readers.get? handle = some source ∧ native.readers.get? id = some source

/-- Both have the same writer. -/
structure PairedWriter (context share writer id : Nat) (sink : Option Nat) (held : Holdings)
    (native : Boundary) : Prop extends Paired context share held native where
  stream : ∃ handle target, held.writers.get? writer = some { handle, share, sink } ∧
    held.host.boundary.writers.get? handle = some target ∧ native.writers.get? id = some target

theorem Paired.context {context share : Nat} {held : Holdings} {native : Boundary}
    (paired : Paired context share held native) :
    held.contexts.get? context = some { share } := by
  have live := paired.live
  simp only [Holdings.custody, Holdings.claim?] at live
  cases found : held.contexts.get? context with
  | none =>
      rw [found] at live
      cases live
  | some object =>
      rw [found, Option.bind_some, Context.claim?] at live
      obtain ⟨number, released⟩ := object
      cases released with
      | true => cases live
      | false =>
          cases live
          rfl

section

variable {context share reader writer id : Nat} {sink : Option Nat} {held : Holdings}
  {native : Boundary}

theorem PairedReader.read (paired : PairedReader context share reader id held native)
    (count : Nat) :
    ∃ answer after returned other,
      held.perform (.reader reader (.read count)) = .done (answer, after) ∧
        callRead id count native = .done (returned, other) ∧ Agrees answer returned ∧
          PairedReader context share reader id after other := by
  obtain ⟨handle, source, found, live, there⟩ := paired.stream
  have opened : ({ handle, share } : Reader).closed = false := rfl
  have performed : held.perform (.reader reader (.read count)) =
      .done (held.keepHost .bytes (((held.host.boundary.tryRead handle source
        (.space count)).1.mapError .reporting,
          { held.host with
            boundary := (held.host.boundary.tryRead handle source (.space count)).2 }.note
              (.used (.reader handle))))) := by
    have read := Reader.read_eq opened live count
    simp only [Holdings.perform, found, Holdings.performOnReader, read, Outcome.done_bind]
  have called := Boundary.callRead_eq there count
  have sound := Holdings.sound_perform paired.sound performed
  simp only [Boundary.tryRead, Boundary.Room.view, paired.world] at performed called sound
  cases finished : source.read count native.world with
  | error failure =>
      rw [finished] at performed called sound
      refine ⟨_, _, _, _, performed, called, .unread (relays_reporting _), ⟨?_, sound, ?_⟩, ?_⟩
      · exact paired.world
      · exact paired.live
      · exact ⟨handle, source, found, live, there⟩
  | ok result =>
      obtain ⟨data, next, world⟩ := result
      rw [finished] at performed called sound
      refine ⟨_, _, _, _, performed, called, .read, ⟨rfl, sound, paired.live⟩, ?_⟩
      exact ⟨handle, next, found, Arena.get?_set_self next live, Arena.get?_set_self next there⟩

/-- The host's reader is closed behind the boundary as if it had been freed there. -/
theorem PairedReader.close_eq (paired : PairedReader context share reader id held native) :
    ∃ handle freed host, native.freeReader (some id) = .done freed ∧
      held.readers.get? reader = some { handle, share } ∧
      Reader.close { handle, share } held.host =
        .done ({ handle, share, closed := true }, host) ∧ host.boundary.world = freed.world := by
  obtain ⟨handle, source, found, live, there⟩ := paired.stream
  have mine : held.custody.Holds (.reader reader) share := by
    refine ⟨{ share, handle := some (.reader handle) }, ?_, rfl⟩
    simp only [Holdings.custody, Holdings.claim?, found, Option.bind_some]
    rfl
  have others : held.custody.Holds (.context context) share := Custody.holds_of_claim paired.live
  have apart : Address.reader reader ≠ Address.context context := Address.noConfusion
  obtain ⟨host, gone, same⟩ := letGo_of_shared paired.sound mine others apart
    ({ held.host with
      boundary := { held.host.boundary with
        world := source.finish held.host.boundary.world
        readers := held.host.boundary.readers.release handle } }.note (.freed (.reader handle))) rfl
  refine ⟨handle, { native with
    world := source.finish native.world
    readers := native.readers.release id }, host, ?_, found, ?_, ?_⟩
  · simp only [Boundary.freeReader, there, Outcome.live, Outcome.done_bind]
  · simp only [Reader.close, Bool.false_eq_true, if_false, Boundary.freeReader, live, Outcome.live,
      Outcome.done_bind, gone]
  · rw [same]
    simp only [note, paired.world]

theorem PairedReader.close (paired : PairedReader context share reader id held native) :
    ∃ freed, native.freeReader (some id) = .done freed ∧
      (∃ closed, held.perform (.reader reader .close) = .done (.nothing, closed) ∧
        closed.host.boundary.world = freed.world) ∧
      ∃ dropped, held.perform (.reader reader .drop) = .done (.nothing, dropped) ∧
        dropped.host.boundary.world = freed.world := by
  obtain ⟨handle, freed, host, done, found, closed, world⟩ := paired.close_eq
  refine ⟨freed, done, ⟨{ held with
    host, readers := held.readers.set reader { handle, share, closed := true } }, ?_, world⟩,
    { held with host, readers := held.readers.release reader }, ?_, world⟩
  · simp only [Holdings.perform, found, Holdings.performOnReader, closed, Outcome.done_bind]
  · simp only [Holdings.perform, found, Holdings.performOnReader, Reader.drop, closed,
      Outcome.done_bind]

theorem agrees_request (request : Request) (answer : Except IoFailure Nat) :
    Agrees (.ofExcept request.answer (answer.mapError fun failure => .reporting (.ofIo failure)))
      (.ofRequest request (answer.mapError .ofIo)) := by
  cases request with
  | write data =>
      cases answer with
      | ok taken => exact .written
      | error failure => exact .unwritten (relays_reporting _)
  | flush =>
      cases answer with
      | ok taken => exact .flushed
      | error failure => exact .unflushed (relays_reporting _)

theorem perform_request {handle : Nat} {target : Boundary.Writer} (request : Request)
    (found : held.writers.get? writer = some { handle, share, sink })
    (live : held.host.boundary.writers.get? handle = some target) :
    held.perform (.writer writer request.action) =
      .done (.ofExcept request.answer ((target.serve request held.host.boundary.world).1.mapError
          fun failure => .reporting (.ofIo failure)),
        { held with
          host := { held.host with
            boundary := { held.host.boundary with
              world := (target.serve request held.host.boundary.world).2.2
              writers := held.host.boundary.writers.set handle
                (target.serve request held.host.boundary.world).2.1 } }.note
                  (.used (.writer handle)) }) := by
  have there : held.host.boundary.writers.get? ({ handle, share, sink } : Writer).handle =
      some target := live
  cases request with
  | write data =>
      have opened : ({ handle, share, sink } : Writer).closed = false := rfl
      have written := Writer.write_eq opened live data
      simp only [Holdings.perform, found, Request.action, Holdings.performOnWriter, written,
        Outcome.done_bind, Boundary.tryWrite, Boundary.Loan.view, Boundary.Writer.serve,
        Holdings.keepHost]
      cases (target.write data held.host.boundary.world).1 <;> rfl
  | flush =>
      have flushed := Writer.flushOpen_eq there
      simp only [Holdings.perform, found, Request.action, Holdings.performOnWriter, Writer.flush,
        Bool.false_eq_true, if_false, flushed, Outcome.done_bind, Boundary.tryFlush,
        Boundary.Writer.serve, Holdings.keepHost]
      cases (target.flush held.host.boundary.world).1 <;> rfl

theorem PairedWriter.request (paired : PairedWriter context share writer id sink held native)
    (request : Request) :
    ∃ answer after returned other,
      held.perform (.writer writer request.action) = .done (answer, after) ∧
        callWriter id request native = .done (returned, other) ∧ Agrees answer returned ∧
          PairedWriter context share writer id sink after other := by
  obtain ⟨handle, target, found, live, there⟩ := paired.stream
  have performed := perform_request request found live
  have called := Boundary.callWriter_eq there request
  have sound := Holdings.sound_perform paired.sound performed
  rw [paired.world] at performed sound
  refine ⟨_, _, _, _, performed, called, agrees_request _ _, ⟨rfl, sound, paired.live⟩, ?_⟩
  exact ⟨handle, _, found, Arena.get?_set_self _ live, Arena.get?_set_self _ there⟩

/-- Flushing once more before a writer is freed is not felt in the world. -/
theorem PairedWriter.close_eq (paired : PairedWriter context share writer id sink held native) :
    ∃ handle freed host, native.freeWriter (some id) = .done freed ∧
      held.writers.get? writer = some { handle, share, sink } ∧
      Writer.close { handle, share, sink } held.host =
        .done ({ handle, share, sink, closed := true }, host) ∧
          host.boundary.world = freed.world := by
  obtain ⟨handle, target, found, live, there⟩ := paired.stream
  have mine : held.custody.Holds (.writer writer) share := by
    refine ⟨{ share, handle := some (.writer handle) }, ?_, rfl⟩
    simp only [Holdings.custody, Holdings.claim?, found, Option.bind_some]
    rfl
  have others : held.custody.Holds (.context context) share := Custody.holds_of_claim paired.live
  have apart : Address.writer writer ≠ Address.context context := Address.noConfusion
  have own : held.host.boundary.writers.get? ({ handle, share, sink } : Writer).handle =
      some target := live
  have flushed := Writer.flushOpen_eq own
  have still := Arena.get?_set_self (target.flush held.host.boundary.world).2.1 live
  obtain ⟨host, gone, same⟩ := letGo_of_shared paired.sound mine others apart
    (({ ({ held.host with
        boundary := (held.host.boundary.tryFlush handle target).2 }.note
          (.used (.writer handle))) with
      boundary := { (held.host.boundary.tryFlush handle target).2 with
        world := (target.flush held.host.boundary.world).2.1.finish
          (target.flush held.host.boundary.world).2.2
        writers := (held.host.boundary.tryFlush handle target).2.writers.release handle } } :
      Host).note (.freed (.writer handle))) rfl
  refine ⟨handle, { native with
    world := target.finish native.world
    writers := native.writers.release id }, host, ?_, found, ?_, ?_⟩
  · simp only [Boundary.freeWriter, there, Outcome.live, Outcome.done_bind]
  · simp only [Boundary.tryFlush] at gone flushed
    simp only [Writer.close, Bool.false_eq_true, if_false, flushed, Outcome.done_bind, note,
      Boundary.freeWriter, still, Outcome.live]
    simp only [note] at gone
    rw [gone]
    rfl
  · rw [same]
    simp only [note, Boundary.Writer.finish_flush, paired.world]

/-- The caller of a growing writer frees the sink after the writer. -/
def discard (sink : Option Nat) (world : World) : World :=
  match sink with
  | none => world
  | some sink => { world with sinks := world.sinks.release sink }

theorem PairedWriter.close (paired : PairedWriter context share writer id sink held native) :
    ∃ freed, native.freeWriter (some id) = .done freed ∧
      (∃ closed, held.perform (.writer writer .close) = .done (.nothing, closed) ∧
        closed.host.boundary.world = freed.world) ∧
      ∃ dropped, held.perform (.writer writer .drop) = .done (.nothing, dropped) ∧
        dropped.host.boundary.world = discard sink freed.world := by
  obtain ⟨handle, freed, host, done, found, closed, world⟩ := paired.close_eq
  refine ⟨freed, done, ⟨{ held with
    host, writers := held.writers.set writer { handle, share, sink, closed := true } }, ?_, world⟩,
    ?_⟩
  · simp only [Holdings.perform, found, Holdings.performOnWriter, closed, Outcome.done_bind]
  · cases sink with
    | none =>
        refine ⟨{ held with host, writers := held.writers.release writer }, ?_, world⟩
        simp only [Holdings.perform, found, Holdings.performOnWriter, Writer.drop, closed,
          Outcome.done_bind]
    | some sink =>
        refine ⟨{ held with
          host := host.mapWorld fun world => { world with sinks := world.sinks.release sink }
          writers := held.writers.release writer }, ?_, ?_⟩
        · simp only [Holdings.perform, found, Holdings.performOnWriter, Writer.drop, closed,
            Outcome.done_bind]
        · simp only [mapWorld, discard, world]

/-- Nothing is collected without a sink, and the writer is dropped all the same. -/
theorem PairedWriter.harvest (paired : PairedWriter context share writer id none held native) :
    ∃ freed harvested, native.freeWriter (some id) = .done freed ∧
      held.perform (.writer writer .harvest) =
        .done (.failed ⟨.invalidOperation, "Writer does not collect data"⟩, harvested) ∧
          harvested.host.boundary.world = freed.world := by
  obtain ⟨handle, freed, host, done, found, closed, world⟩ := paired.close_eq
  refine ⟨freed, { held with host, writers := held.writers.release writer }, done, ?_, world⟩
  simp only [Holdings.perform, found, Holdings.performOnWriter, Writer.harvest, Writer.drop, closed,
    Outcome.done_bind]
  rfl

theorem adopt_ok {α : Type} (host : Host) (name : String) (handle : Nat → Handle) (make : Nat → α)
    (number : Nat) (after : Boundary) :
    host.adopt name handle share make (Boundary.concludeHandle .empty (.ok number, after)) =
      .done (.ok (make number),
        { host with boundary := after }.note (.acquired (handle number) share)) := by
  simp only [adopt, concludeHandle_after, examine_concludeHandle, Outcome.done_bind,
    mapError_ok]

/-- A share that was in hold for a stream that could not be made is let go. -/
theorem adopt_error {α : Type} (sound : Sound held.custody)
    (holds : held.custody.Holds (.context context) share) (name : String) (handle : Nat → Handle)
    (make : Nat → α) (fault : Fault) (boundary : Boundary) :
    ∃ after, (held.host.hold share).adopt name handle share make
        (Boundary.concludeHandle .empty (.error fault, boundary)) =
          .done (.error (.reporting fault), after) ∧ after.boundary = boundary := by
  have same : ({ held.host.hold share with boundary } : Host).shares =
      (held.custody.host.hold share).shares := rfl
  obtain ⟨after, gone, kept⟩ := letGo_hold sound holds same
  refine ⟨after, ?_, kept⟩
  simp only [adopt, concludeHandle_after, examine_concludeHandle, Outcome.done_bind,
    mapError_error, gone]

theorem pathArgument_path (path : Boundary.Terminated) :
    ∃ text, pathArgument path.path = .ok text ∧ text.path = path.path := by
  obtain ⟨copy, encoded, same⟩ := Boundary.Terminated.ofBytes?_bytes path
  refine ⟨copy, ?_, same⟩
  simp only [pathArgument, Boundary.Terminated.path, encoded]

theorem holding_bare (share : Nat) (host : Host) :
    ({ share } : Context).holding host = .ok (host.hold share) := rfl

theorem perform_source (found : held.contexts.get? context = some { share }) (source : Source) :
    held.perform (.context context source.action) =
      (Reader.adopt (held.host.hold share) share
        (Boundary.concludeHandle .empty (source.attempt held.host.boundary)) >>=
          fun result => .done (held.keepReader result)) := by
  have holding := holding_bare share held.host
  cases source with
  | bytes data =>
      simp only [Holdings.perform, found, Source.action, Holdings.performOnContext, Reader.ofBytes,
        holding, Boundary.readerOverBytes, Outcome.done_bind, Boundary.Loan.view, boundary_hold,
        Source.attempt]
  | descriptor fd =>
      simp only [Holdings.perform, found, Source.action, Holdings.performOnContext,
        Reader.ofDescriptor, holding, Boundary.readerOverDescriptor, Outcome.done_bind,
        boundary_hold, Source.attempt]
  | file path =>
      obtain ⟨text, given, same⟩ := pathArgument_path path
      simp only [Holdings.perform, found, Source.action, Holdings.performOnContext, Reader.ofPath,
        given, holding, Boundary.openReader, Outcome.require, Outcome.done_bind, boundary_hold,
        Source.attempt, same]

theorem PairedReader.make (paired : Paired context share held native) (source : Source) :
    ∃ answer opened reply,
      held.perform (.context context source.action) = .done (answer, opened) ∧
        source.makeReader native = .done reply ∧
        Agrees answer (.handle reply.result reply.slot.stored) ∧
        opened.host.boundary.world = reply.after.world ∧
        ∀ reader id, answer = .made reader → reply.result = some id →
          PairedReader context share reader id opened reply.after := by
  have performed := perform_source paired.context source
  have made := source.makeReader_eq native
  have twins := source.attempt_twin paired.world
  have holds : held.custody.Holds (.context context) share := Custody.holds_of_claim paired.live
  generalize source.attempt held.host.boundary = here at performed twins
  generalize source.attempt native = there at made twins
  cases twins with
  | failed world =>
      rename_i fault one two
      obtain ⟨host, adopted, same⟩ := adopt_error paired.sound holds "Reader" Handle.reader
        (fun handle => ({ handle, share } : Reader)) fault one
      rw [Reader.adopt, adopted] at performed
      refine ⟨_, _, _, performed, made, .unmade (relays_reporting fault), ?_, ?_⟩
      · rw [concludeHandle_after, ← world, ← same]
      · intro reader id given
        cases given
  | made world live also =>
      rename_i first second one two stream
      rw [Reader.adopt, adopt_ok] at performed
      have sound := Holdings.sound_perform paired.sound performed
      refine ⟨_, _, _, performed, made, .made, world, ?_⟩
      intro reader id given returned
      cases given
      cases returned
      refine ⟨⟨world, sound, paired.live⟩, first, stream, ?_, live, also⟩
      exact Arena.get?_alloc_self _ _

/-- Every writer but a growing one is made by a call that can fail. -/
theorem perform_destination (found : held.contexts.get? context = some { share })
    (destination : Destination) (fallible : destination ≠ .growing) :
    held.perform (.context context destination.action) =
      (Writer.adopt (held.host.hold share) share
        (Boundary.concludeHandle .empty (destination.attempt held.host.boundary)) >>=
          fun result => .done (held.keepWriter result)) := by
  have holding := holding_bare share held.host
  cases destination with
  | growing => exact absurd rfl fallible
  | memory region =>
      simp only [Holdings.perform, found, Destination.action, Holdings.performOnContext,
        Writer.ofMemory, holding, Boundary.writerOverMemory, Outcome.done_bind, boundary_hold,
        Destination.attempt]
  | descriptor fd =>
      simp only [Holdings.perform, found, Destination.action, Holdings.performOnContext,
        Writer.ofDescriptor, holding, Boundary.writerOverDescriptor, Outcome.done_bind,
        boundary_hold, Destination.attempt]
  | file path =>
      obtain ⟨text, given, same⟩ := pathArgument_path path
      simp only [Holdings.perform, found, Destination.action, Holdings.performOnContext,
        Writer.ofPath, given, holding, Boundary.openWriter, Outcome.require, Outcome.done_bind,
        boundary_hold, Destination.attempt, same]

theorem perform_growing (found : held.contexts.get? context = some { share }) :
    held.perform (.context context .allocatingWriter) =
      .done (.made held.writers.fresh, { held with
        host := { held.host.hold share with
          boundary := (Destination.growing.attempt held.host.boundary).2 }.note
            (.acquired (.writer held.host.boundary.writers.fresh) share)
        writers := held.writers.alloc
          { handle := held.host.boundary.writers.fresh, share,
            sink := Destination.growing.sink? held.host.boundary.world } }) := by
  have holding := holding_bare share held.host
  simp only [Holdings.perform, found, Holdings.performOnContext, Writer.allocating, holding,
    mapWorld, boundary_hold, Boundary.growingWriter, Outcome.require, Outcome.done_bind]
  rfl

theorem PairedWriter.make (paired : Paired context share held native) (destination : Destination) :
    ∃ answer opened reply,
      held.perform (.context context destination.action) = .done (answer, opened) ∧
        destination.makeWriter native = .done reply ∧
        Agrees answer (.handle reply.result reply.slot.stored) ∧
        opened.host.boundary.world = reply.after.world ∧
        ∀ writer id, answer = .made writer → reply.result = some id →
          PairedWriter context share writer id (destination.sink? native.world) opened
            reply.after := by
  have made := destination.makeWriter_eq native
  by_cases fallible : destination = .growing
  · subst fallible
    have performed := perform_growing paired.context
    have sound := Holdings.sound_perform paired.sound performed
    have world : (Destination.growing.attempt held.host.boundary).2.world =
        (Destination.growing.attempt native).2.world := by
      simp only [Destination.attempt, Boundary.tryAdd, Boundary.addWriter, paired.world]
    refine ⟨_, _, _, performed, made, .made, world, ?_⟩
    intro writer id given returned
    cases given
    cases returned
    refine ⟨⟨world, sound, paired.live⟩, _, _, ?_, Arena.get?_alloc_self _ _, ?_⟩
    · rw [← paired.world]
      exact Arena.get?_alloc_self _ _
    · rw [paired.world]
      exact Arena.get?_alloc_self _ _
  · have performed := perform_destination paired.context destination fallible
    have twins := destination.attempt_twin paired.world
    have holds : held.custody.Holds (.context context) share := Custody.holds_of_claim paired.live
    have bare : destination.sink? native.world = none := by
      cases destination with
      | growing => exact absurd rfl fallible
      | _ => rfl
    rw [bare]
    generalize destination.attempt held.host.boundary = here at performed twins
    generalize destination.attempt native = there at made twins
    cases twins with
    | failed world =>
        rename_i fault one two
        obtain ⟨host, adopted, same⟩ := adopt_error paired.sound holds "Writer" Handle.writer
          (fun handle => ({ handle, share } : Writer)) fault one
        rw [Writer.adopt, adopted] at performed
        refine ⟨_, _, _, performed, made, .unmade (relays_reporting fault), ?_, ?_⟩
        · rw [concludeHandle_after, ← world, ← same]
        · intro writer id given
          cases given
    | made world live also =>
        rename_i first second one two stream
        rw [Writer.adopt, adopt_ok] at performed
        have sound := Holdings.sound_perform paired.sound performed
        refine ⟨_, _, _, performed, made, .made, world, ?_⟩
        intro writer id given returned
        cases given
        cases returned
        refine ⟨⟨world, sound, paired.live⟩, first, stream, ?_, live, also⟩
        exact Arena.get?_alloc_self _ _

end

/-- A run of calls, one step after the other, if each step keeps what relates the two sides. -/
theorem run_agrees {κ : Type} {Related : Holdings → Boundary → Prop} {act : κ → Action}
    {call : κ → Boundary → Outcome (Returned × Boundary)}
    (step : ∀ held native first, Related held native → ∃ answer after returned other,
      held.perform (act first) = .done (answer, after) ∧
      call first native = .done (returned, other) ∧ Agrees answer returned ∧ Related after other)
    {held : Holdings} {native : Boundary} (related : Related held native) (calls : List κ) :
    ∃ answers after returns other, held.run (calls.map act) = .done (answers, after) ∧
      callAll call calls native = .done (returns, other) ∧ List.Forall₂ Agrees answers returns ∧
        Related after other := by
  induction calls generalizing held native with
  | nil => exact ⟨[], held, [], native, rfl, rfl, .nil, related⟩
  | cons first rest ih =>
      obtain ⟨answer, middle, returned, between, performed, called, agrees, still⟩ :=
        step held native first related
      obtain ⟨answers, after, returns, other, ran, further, all, final⟩ := ih still
      refine ⟨answer :: answers, after, returned :: returns, other, ?_, ?_, .cons agrees all, final⟩
      · simp only [List.map_cons, Holdings.run, performed, Outcome.done_bind, ran]
      · simp only [callAll, called, Outcome.done_bind, further]

/-- The host makes a stream, uses it and closes or drops it, and so does a caller behind the
boundary, who frees the stream in the end and `discard`s what was lent to it if it was dropped. At
no step do the answers or the worlds differ. -/
def Refines {κ : Type} (held : Holdings) (native : Boundary) (opening : Action)
    (make : Boundary → Outcome (Reply (Option Nat))) (act : Nat → κ → Action)
    (call : Nat → κ → Boundary → Outcome (Returned × Boundary)) (close drop : Nat → Action)
    (free : Nat → Boundary → Outcome Boundary) (discard : World → World) : Prop :=
  ∃ answer opened reply, held.perform opening = .done (answer, opened) ∧ make native = .done reply ∧
    Agrees answer (.handle reply.result reply.slot.stored) ∧
    opened.host.boundary.world = reply.after.world ∧
    ∀ number id, answer = .made number → reply.result = some id → ∀ calls : List κ,
      ∃ answers after returns other, opened.run (calls.map (act number)) = .done (answers, after) ∧
        callAll (call id) calls reply.after = .done (returns, other) ∧
        List.Forall₂ Agrees answers returns ∧ after.host.boundary.world = other.world ∧
        ∃ freed, free id other = .done freed ∧
          (∃ closed, after.perform (close number) = .done (.nothing, closed) ∧
            closed.host.boundary.world = freed.world) ∧
          ∃ dropped, after.perform (drop number) = .done (.nothing, dropped) ∧
            dropped.host.boundary.world = discard freed.world

/-- Whatever a program did before, with every context that it has not released, and for a caller
behind the boundary who acts on the same world. -/
theorem streams_refine (world : World) (earlier : List Action) :
    ∃ answers held, (Holdings.start world).run earlier = .done (answers, held) ∧
      ∀ context object, held.contexts.get? context = some object → object.released = false →
      ∀ native : Boundary, native.world = held.host.boundary.world →
        (∀ source : Source,
          Refines held native (.context context source.action) source.makeReader
            (fun reader count => .reader reader (.read count)) callRead
            (fun reader => .reader reader .close) (fun reader => .reader reader .drop)
            (fun id boundary => boundary.freeReader (some id)) id) ∧
        ∀ destination : Destination,
          Refines held native (.context context destination.action) destination.makeWriter
            (fun writer request => .writer writer request.action) callWriter
            (fun writer => .writer writer .close) (fun writer => .writer writer .drop)
            (fun id boundary => boundary.freeWriter (some id))
            (discard (destination.sink? native.world)) := by
  obtain ⟨answers, held, ran, sound⟩ := Holdings.run_sound world earlier
  refine ⟨answers, held, ran, ?_⟩
  intro context object found unreleased native same
  have paired := Paired.of_context sound found unreleased same
  refine ⟨?_, ?_⟩
  · intro source
    obtain ⟨answer, opened, reply, performed, made, agrees, worlds, pairs⟩ :=
      PairedReader.make paired source
    refine ⟨answer, opened, reply, performed, made, agrees, worlds, ?_⟩
    intro number id given returned calls
    have step (held : Holdings) (native : Boundary) (count : Nat)
        (related : PairedReader context object.share number id held native) := related.read count
    obtain ⟨answers, after, returns, other, ran, called, all, still⟩ :=
      run_agrees step (pairs number id given returned) calls
    exact ⟨answers, after, returns, other, ran, called, all, still.world, still.close⟩
  · intro destination
    obtain ⟨answer, opened, reply, performed, made, agrees, worlds, pairs⟩ :=
      PairedWriter.make paired destination
    refine ⟨answer, opened, reply, performed, made, agrees, worlds, ?_⟩
    intro number id given returned calls
    have step (held : Holdings) (other : Boundary) (request : Request)
        (related : PairedWriter context object.share number id (destination.sink? native.world) held
          other) := related.request request
    obtain ⟨answers, after, returns, other, ran, called, all, still⟩ :=
      run_agrees step (pairs number id given returned) calls
    exact ⟨answers, after, returns, other, ran, called, all, still.world, still.close⟩

end Host

end SessionStreams
