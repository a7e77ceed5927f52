import SessionStreams.Proofs.Refinement

set_option autoImplicit false

/- What the beginning and the end of an object do, as equations. A stream that was made adds itself
and holds its context's share once more (`perform_source_made`, `perform_destination_made`). One
that ends is freed behind the boundary and then lets the share go (`perform_endReader`,
`perform_endWriter`), which touches the tree, the sessions and the shares only (`exists_parted`). -/

namespace SessionStreams

theorem Arena.release_set {α : Type} (arena : Arena α) (id : Nat) (object : α) :
    (arena.set id object).release id = arena.release id := by
  simp only [set, release, List.set_set]

namespace Boundary

theorem checkDescriptor_natCast (fd : Nat) : checkDescriptor fd = .ok fd := by
  simp only [checkDescriptor, if_neg (Int.not_lt.mpr (Int.natCast_nonneg fd)), Int.toNat_natCast]

theorem Source.attempt_descriptor {handed : Handed} {fd : Nat} (given : handed.number = fd)
    (boundary : Boundary) :
    (Source.descriptor handed).attempt boundary = (.ok boundary.readers.fresh,
      { boundary with readers := boundary.readers.alloc (.descriptor fd) }) := by
  simp only [attempt, tryAdd, given, checkDescriptor_natCast, addReader]

theorem Destination.attempt_descriptor {handed : Handed} {fd : Nat} (given : handed.number = fd)
    (boundary : Boundary) :
    (Destination.descriptor handed).attempt boundary = (.ok boundary.writers.fresh,
      { boundary with writers := boundary.writers.alloc (.buffered fd []) }) := by
  simp only [attempt, tryAdd, given, checkDescriptor_natCast, addWriter]

end Boundary

namespace Host

open Boundary (Outcome Request)

/-- The host after it let a share go. -/
def parted (host : Host) (share : Nat) : Host :=
  match host.letGo share with
  | .done after => after
  | _ => host

theorem exists_parted (host : Host) (share : Nat) :
    ∃ tree contexts shares ledger, host.parted share = { host with
      boundary := { host.boundary with world := { host.boundary.world with tree }, contexts }
      shares, ledger } := by
  unfold parted letGo
  cases shared : host.shares.get? share with
  | none => exact ⟨_, _, _, _, rfl⟩
  | some state =>
      simp only [Outcome.live, Outcome.done_bind]
      by_cases only : state.holders ≤ 1
      · cases live : host.boundary.contexts.get? state.session with
        | none =>
            simp only [only, if_true, Boundary.freeContext, live, Outcome.live]
            exact ⟨_, _, _, _, rfl⟩
        | some record =>
            simp only [only, if_true, Boundary.freeContext, live, Outcome.live, Outcome.done_bind]
            rcases World.close_cases record host.boundary.world with same | ⟨path, -, same⟩
            · rw [same]
              exact ⟨_, _, _, _, rfl⟩
            · rw [same]
              exact ⟨_, _, _, _, rfl⟩
      · simp only [only, if_false]
        exact ⟨_, _, _, _, rfl⟩

section

variable {custody : Custody} {address : Address} {share : Nat} {host : Host}

/-- A share that is held can be let go, whatever became of the world and of the streams. -/
theorem letGo_eq_parted (sound : Sound custody) (holds : custody.Holds address share)
    (shares : host.shares = custody.host.shares)
    (contexts : host.boundary.contexts = custody.host.boundary.contexts) :
    host.letGo share = .done (host.parted share) := by
  obtain ⟨state, shared⟩ := sound.exists_share holds
  obtain ⟨record, live, -⟩ := sound.session share state shared
  rw [← shares] at shared
  rw [← contexts] at live
  unfold parted letGo
  simp only [shared, Outcome.live, Outcome.done_bind]
  by_cases only : state.holders ≤ 1
  · simp only [only, if_true, Boundary.freeContext, live, Outcome.live, Outcome.done_bind]
  · simp only [only, if_false]

end

/-- The host after a reader was freed that read from `source`. -/
def withoutReader (host : Host) (handle : Nat) (source : Boundary.Reader) : Host :=
  { host with
    boundary := { host.boundary with
      world := source.finish host.boundary.world
      readers := host.boundary.readers.release handle } }.note (.freed (.reader handle))

/-- The host after a writer was flushed and freed that wrote to `target`. -/
def withoutWriter (host : Host) (handle : Nat) (target : Boundary.Writer) : Host :=
  ({ host with
    boundary := { host.boundary with
      world := target.finish host.boundary.world
      writers := host.boundary.writers.release handle } }.note (.used (.writer handle))).note
        (.freed (.writer handle))

section

variable {custody : Custody} {address : Address}

theorem Context.release_eq (sound : Sound custody) {context : Context}
    (found : custody.claim? address = context.claim?) (unreleased : context.released = false) :
    context.release custody.host =
      .done ({ context with released := true }, custody.host.parted context.share) := by
  rw [Context.claim?, unreleased] at found
  have gone := letGo_eq_parted sound (Custody.holds_of_claim found) rfl rfl
  simp only [Context.release, unreleased, Bool.false_eq_true, if_false, gone, Outcome.done_bind]

theorem Reader.close_eq (sound : Sound custody) {reader : Reader} {source : Boundary.Reader}
    (found : custody.claim? address = reader.claim?) (opened : reader.closed = false)
    (live : custody.host.boundary.readers.get? reader.handle = some source) :
    reader.close custody.host =
      .done ({ reader with closed := true },
        (custody.host.withoutReader reader.handle source).parted reader.share) := by
  rw [claim?_of_open opened] at found
  have gone : (custody.host.withoutReader reader.handle source).letGo reader.share = _ :=
    letGo_eq_parted sound (Custody.holds_of_claim found) rfl rfl
  simp only [withoutReader] at gone ⊢
  simp only [close, opened, Bool.false_eq_true, if_false, Boundary.freeReader, live, Outcome.live,
    Outcome.done_bind, gone]

/-- The flush before a writer is freed leaves nothing more to do for the one while it is freed. -/
theorem Writer.close_eq (sound : Sound custody) {writer : Writer} {target : Boundary.Writer}
    (found : custody.claim? address = writer.claim?) (opened : writer.closed = false)
    (live : custody.host.boundary.writers.get? writer.handle = some target) :
    writer.close custody.host =
      .done ({ writer with closed := true },
        (custody.host.withoutWriter writer.handle target).parted writer.share) := by
  rw [claim?_of_open opened] at found
  have gone : (custody.host.withoutWriter writer.handle target).letGo writer.share = _ :=
    letGo_eq_parted sound (Custody.holds_of_claim found) rfl rfl
  have flushed := Writer.flushOpen_eq live
  have still := Arena.get?_set_self (target.flush custody.host.boundary.world).2.1 live
  have freed := Boundary.Writer.finish_flush target custody.host.boundary.world
  simp only [withoutWriter, note] at gone ⊢
  simp only [close, opened, Bool.false_eq_true, if_false, flushed, Outcome.done_bind,
    Boundary.tryFlush, Boundary.freeWriter, note, still, Outcome.live, freed, Arena.release_set,
    gone]

end

/-- The contexts that are left after an action on one of them. -/
def ContextAction.rest (action : ContextAction) (contexts : Arena Context) (id : Nat)
    (context : Context) : Arena Context :=
  match action with
  | .release => contexts.set id { context with released := true }
  | .drop => contexts.release id
  | _ => contexts

/-- The readers that are left after an action on one of them. -/
def ReaderAction.rest (action : ReaderAction) (readers : Arena Reader) (id : Nat)
    (reader : Reader) : Arena Reader :=
  match action with
  | .read _ => readers
  | .close => readers.set id { reader with closed := true }
  | .drop => readers.release id

/-- The writers that are left after an action on one of them. -/
def WriterAction.rest (action : WriterAction) (writers : Arena Writer) (id : Nat)
    (writer : Writer) : Arena Writer :=
  match action with
  | .write _ => writers
  | .flush => writers
  | .close => writers.set id { writer with closed := true }
  | .drop => writers.release id
  | .harvest => writers.release id

/-- What is left of a writer's sink: it goes with the writer. -/
def WriterAction.discards (action : WriterAction) (writer : Writer) : Option Nat :=
  match action with
  | .drop => writer.sink
  | .harvest => writer.sink
  | _ => none

/-- The answer to the end of a writer. -/
def WriterAction.farewell (action : WriterAction) (writer : Writer) (host : Host) : Answer :=
  match action with
  | .harvest =>
      match writer.sink with
      | none => .failed ⟨.invalidOperation, "Writer does not collect data"⟩
      | some sink => .bytes (Writer.collected host sink)
  | _ => .nothing

/-- A reader is read or ended. -/
theorem ReaderAction.exists_read {id : Nat} {action : ReaderAction}
    (quiet : (Action.reader id action).ending? = none) : ∃ count, action = .read count := by
  cases action with
  | read count => exact ⟨count, rfl⟩
  | _ => cases quiet

/-- A writer is asked for something or ended. -/
theorem WriterAction.exists_request {id : Nat} {action : WriterAction}
    (quiet : (Action.writer id action).ending? = none) :
    ∃ request : Request, request.action = action := by
  cases action with
  | write data => exact ⟨.write data, rfl⟩
  | flush => exact ⟨.flush, rfl⟩
  | _ => cases quiet

namespace Holdings

/-- The world that the objects act on. -/
abbrev world (held : Holdings) : World := held.host.boundary.world

/-- The same objects in another world. -/
def inWorld (held : Holdings) (world : World) : Holdings :=
  { held with host := held.host.mapWorld fun _ => world }

theorem sound_inWorld {held : Holdings} (sound : Sound held.custody) (world : World) :
    Sound (held.inWorld world).custody :=
  ⟨sound.counted, sound.shared, sound.session, sound.apart, sound.alive, sound.exclusive,
    sound.stream⟩

theorem perform_source_made {held : Holdings} {context share id : Nat} {after : Boundary}
    (found : held.contexts.get? context = some { share }) {source : Boundary.Source}
    (made : source.attempt held.host.boundary = (.ok id, after)) :
    held.perform (.context context source.action) = .done (.made held.readers.fresh, { held with
      host := { held.host.hold share with boundary := after }.note (.acquired (.reader id) share)
      readers := held.readers.alloc { handle := id, share } }) := by
  rw [perform_source found, made, Reader.adopt, adopt_ok]
  rfl

theorem perform_destination_made {held : Holdings} {context share id : Nat} {after : Boundary}
    (found : held.contexts.get? context = some { share }) {destination : Boundary.Destination}
    (fallible : destination ≠ .growing)
    (made : destination.attempt held.host.boundary = (.ok id, after)) :
    held.perform (.context context destination.action) =
      .done (.made held.writers.fresh, { held with
        host := { held.host.hold share with boundary := after }.note (.acquired (.writer id) share)
        writers := held.writers.alloc { handle := id, share } }) := by
  rw [perform_destination found destination fallible, made, Writer.adopt, adopt_ok]
  rfl

variable {held : Holdings} {id : Nat}

theorem claim?_reader {reader : Reader} (found : held.readers.get? id = some reader) :
    held.custody.claim? (.reader id) = reader.claim? := by
  simp only [custody, claim?, found, Option.bind_some]

theorem claim?_writer {writer : Writer} (found : held.writers.get? id = some writer) :
    held.custody.claim? (.writer id) = writer.claim? := by
  simp only [custody, claim?, found, Option.bind_some]

theorem claim?_context {context : Context} (found : held.contexts.get? id = some context) :
    held.custody.claim? (.context id) = context.claim? := by
  simp only [custody, claim?, found, Option.bind_some]

theorem perform_endContext (sound : Sound held.custody) {action : ContextAction}
    (ends : (Action.context id action).ending? = some (.context id)) {context : Context}
    (found : held.contexts.get? id = some context) (unreleased : context.released = false) :
    held.perform (.context id action) = .done (.nothing, { held with
      host := held.host.parted context.share
      contexts := action.rest held.contexts id context }) := by
  have released := Context.release_eq sound (claim?_context found) unreleased
  simp only [host_custody] at released
  cases action with
  | release =>
      simp only [perform, found, performOnContext, released, Outcome.done_bind, ContextAction.rest]
  | drop =>
      simp only [perform, found, performOnContext, Context.drop, released, Outcome.done_bind,
        ContextAction.rest]
  | _ => cases ends

/-- A context at the root, built and released in any world. -/
theorem perform_release_root (world : World) :
    ∃ built held, (start world).perform (.build { home := some [Path.slash] }) =
        .done (.made 0, built) ∧
      built.perform (.context 0 .release) = .done (.nothing, held) ∧
      held.contexts.get? 0 = some { share := 0, released := true } ∧
      held.host.boundary.world.descriptors = world.descriptors ∧
      held.readers = {} ∧ held.writers = {} := by
  obtain ⟨built, performed, found, same, readers, writers⟩ := perform_build_root world
  have sound := sound_perform (sound_start world) performed
  have ends : (Action.context 0 .release).ending? = some (.context 0) := rfl
  have released := perform_endContext sound ends found rfl
  obtain ⟨tree, contexts, shares, ledger, parted⟩ := exists_parted built.host 0
  refine ⟨built, _, performed, released, Arena.get?_set_self _ found, ?_, readers, writers⟩
  show (built.host.parted 0).boundary.world.descriptors = _
  rw [parted]
  show built.host.boundary.world.descriptors = _
  rw [same]

/-- A context that was released before has nothing left to let go. -/
theorem perform_endContext_of_released {action : ContextAction}
    (ends : (Action.context id action).ending? = some (.context id)) {context : Context}
    (found : held.contexts.get? id = some context) (released : context.released = true) :
    held.perform (.context id action) = .done (.nothing, { held with
      contexts := action.rest held.contexts id context }) := by
  obtain ⟨share, _⟩ := context
  cases released
  cases action with
  | release => simp only [perform, found, performOnContext, Context.release, if_true,
      Outcome.done_bind, ContextAction.rest]
  | drop => simp only [perform, found, performOnContext, Context.drop, Context.release, if_true,
      Outcome.done_bind, ContextAction.rest]
  | _ => cases ends

theorem perform_read {reader : Reader} {source : Boundary.Reader}
    (found : held.readers.get? id = some reader) (opened : reader.closed = false)
    (live : held.host.boundary.readers.get? reader.handle = some source) (count : Nat) :
    held.perform (.reader id (.read count)) =
      match source.read count held.world with
      | .error failure => .done (.failed (.reporting (.ofIo failure)),
          { held with host := held.host.note (.used (.reader reader.handle)) })
      | .ok (data, next, world) => .done (.bytes data, { held with
          host := { held.host with
            boundary := { held.host.boundary with
              world, readers := held.host.boundary.readers.set reader.handle next } }.note
                (.used (.reader reader.handle)) }) := by
  simp only [perform, found, performOnReader, Reader.read_eq opened live, Outcome.done_bind,
    Boundary.tryRead, Boundary.Room.view]
  cases source.read count held.world <;> rfl

theorem perform_read_of_closed {reader : Reader} (found : held.readers.get? id = some reader)
    (closed : reader.closed = true) (count : Nat) :
    held.perform (.reader id (.read count)) = .done (.failed (.released "Reader"), held) := by
  simp only [perform, found, performOnReader, Reader.read, closed, if_true, Outcome.done_bind]
  rfl

theorem perform_request_of_closed {writer : Writer} (found : held.writers.get? id = some writer)
    (closed : writer.closed = true) (request : Request) :
    held.perform (.writer id request.action) = .done (.failed (.released "Writer"), held) := by
  cases request with
  | write data =>
      simp only [Request.action, perform, found, performOnWriter, Writer.write, closed, if_true,
        Outcome.done_bind]
      rfl
  | flush =>
      simp only [Request.action, perform, found, performOnWriter, Writer.flush, closed, if_true,
        Outcome.done_bind]
      rfl

/-- Streams do not feel the end of a context, but for the tree. -/
theorem endContext_frame (sound : Sound held.custody) {action : ContextAction}
    (ends : (Action.context id action).ending? = some (.context id)) {answer : Answer}
    {after : Holdings} (done : held.perform (.context id action) = .done (answer, after)) :
    (answer = .absent ∨ answer = .nothing) ∧ after.readers = held.readers ∧
      after.writers = held.writers ∧
      after.host.boundary.readers = held.host.boundary.readers ∧
      after.host.boundary.writers = held.host.boundary.writers ∧
      ∃ tree, after.world = { held.world with tree } := by
  cases found : held.contexts.get? id with
  | none =>
      simp only [perform, found] at done
      cases done
      exact ⟨Or.inl rfl, rfl, rfl, rfl, rfl, held.world.tree, rfl⟩
  | some context =>
      cases released : context.released with
      | true =>
          rw [perform_endContext_of_released ends found released] at done
          cases done
          exact ⟨Or.inr rfl, rfl, rfl, rfl, rfl, held.world.tree, rfl⟩
      | false =>
          rw [perform_endContext sound ends found released] at done
          cases done
          obtain ⟨tree, contexts, shares, ledger, parted⟩ := exists_parted held.host context.share
          refine ⟨Or.inr rfl, rfl, rfl, ?_, ?_, tree, ?_⟩
          · rw [parted]
          · rw [parted]
          · rw [world, parted]

theorem perform_endReader (sound : Sound held.custody) {action : ReaderAction}
    (ends : (Action.reader id action).ending? = some (.reader id)) {reader : Reader}
    {source : Boundary.Reader} (found : held.readers.get? id = some reader)
    (opened : reader.closed = false)
    (live : held.host.boundary.readers.get? reader.handle = some source) :
    held.perform (.reader id action) = .done (.nothing, { held with
      host := (held.host.withoutReader reader.handle source).parted reader.share
      readers := action.rest held.readers id reader }) := by
  have closed := Reader.close_eq sound (claim?_reader found) opened live
  simp only [host_custody] at closed
  cases action with
  | read count => cases ends
  | close =>
      simp only [perform, found, performOnReader, closed, Outcome.done_bind, ReaderAction.rest]
  | drop =>
      simp only [perform, found, performOnReader, Reader.drop, closed, Outcome.done_bind,
        ReaderAction.rest]

theorem perform_endReader_of_closed {action : ReaderAction}
    (ends : (Action.reader id action).ending? = some (.reader id)) {reader : Reader}
    (found : held.readers.get? id = some reader) (closed : reader.closed = true) :
    held.perform (.reader id action) = .done (.nothing, { held with
      readers := action.rest held.readers id reader }) := by
  obtain ⟨handle, share, _⟩ := reader
  cases closed
  cases action with
  | read count => cases ends
  | close => simp only [perform, found, performOnReader, Reader.close, if_true,
      Outcome.done_bind, ReaderAction.rest]
  | drop => simp only [perform, found, performOnReader, Reader.drop, Reader.close, if_true,
      Outcome.done_bind, ReaderAction.rest]

theorem perform_endWriter (sound : Sound held.custody) {action : WriterAction}
    (ends : (Action.writer id action).ending? = some (.writer id)) {writer : Writer}
    {target : Boundary.Writer} (found : held.writers.get? id = some writer)
    (opened : writer.closed = false)
    (live : held.host.boundary.writers.get? writer.handle = some target) :
    held.perform (.writer id action) = .done
      (action.farewell writer ((held.host.withoutWriter writer.handle target).parted writer.share),
        { held with
          host := ((held.host.withoutWriter writer.handle target).parted writer.share).mapWorld
            (discard (action.discards writer))
          writers := action.rest held.writers id writer }) := by
  have closed := Writer.close_eq sound (claim?_writer found) opened live
  simp only [host_custody] at closed
  cases action with
  | write data => cases ends
  | flush => cases ends
  | close =>
      simp only [perform, found, performOnWriter, closed, Outcome.done_bind]
      rfl
  | drop =>
      simp only [perform, found, performOnWriter, Writer.drop, closed, Outcome.done_bind]
      cases sink : writer.sink <;> simp only [sink, WriterAction.discards, Outcome.done_bind] <;> rfl
  | harvest =>
      cases sink : writer.sink with
      | none =>
          simp only [perform, found, performOnWriter, Writer.harvest, Writer.drop, sink, closed,
            Outcome.done_bind, WriterAction.farewell, WriterAction.discards]
          rfl
      | some number =>
          simp only [perform, found, performOnWriter, Writer.harvest, Writer.drop, sink, closed,
            Outcome.done_bind, WriterAction.farewell, WriterAction.discards]
          rfl

/-- A writer that was closed before leaves just its sink behind. -/
theorem perform_endWriter_of_closed {action : WriterAction}
    (ends : (Action.writer id action).ending? = some (.writer id)) {writer : Writer}
    (found : held.writers.get? id = some writer) (closed : writer.closed = true) :
    held.perform (.writer id action) = .done (action.farewell writer held.host,
      { held with
        host := held.host.mapWorld (discard (action.discards writer))
        writers := action.rest held.writers id writer }) := by
  obtain ⟨handle, share, _, sink⟩ := writer
  cases closed
  cases action with
  | write data => cases ends
  | flush => cases ends
  | close => simp only [perform, found, performOnWriter, Writer.close, if_true, Outcome.done_bind]; rfl
  | drop =>
      simp only [perform, found, performOnWriter, Writer.drop, Writer.close, if_true,
        Outcome.done_bind]
      cases sink <;> rfl
  | harvest =>
      cases sink <;>
        simp only [perform, found, performOnWriter, Writer.harvest, Writer.drop, Writer.close,
          if_true, Outcome.done_bind, WriterAction.farewell, WriterAction.discards] <;>
        rfl

end Holdings

end Host

end SessionStreams
