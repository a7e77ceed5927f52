import SessionStreams.Proofs.Acting

set_option autoImplicit false

/- What belongs to a stream: the descriptor that it was opened over, and the sink that a writer
collects in. An action closes a descriptor just if it ends the stream that the descriptor belongs
to, and takes a sink away just if it gives up the writer that the sink belongs to
(`possession_perform`). -/

namespace SessionStreams

/-- Nothing is taken away by what takes nothing. -/
theorem iff_and_none_ne {α : Type} {a : α} {p : Prop} : p ↔ p ∧ none ≠ some a :=
  (and_iff_left (Option.some_ne_none a).symm).symm

theorem Target.spot?_cases {target : Target} {spot : Spot} (here : target.spot? = some spot) :
    (∃ contents, spot = .file contents) ∨ ∃ pipe, spot = .pipe pipe := by
  cases target with
  | file contents => exact Or.inl ⟨contents, (Option.some.inj here).symm⟩
  | pipeEnd pipe reading => exact Or.inr ⟨pipe, (Option.some.inj here).symm⟩
  | _ => cases here

namespace World

variable {world after : World} {fd other sink : Nat}

/-- Behind a descriptor there is a file or a pipe, if anything. -/
theorem behind_cases {spot : Spot} (inside : spot ∈ world.behind fd) :
    spot = .descriptor fd ∨ (∃ contents, spot = .file contents) ∨ ∃ pipe, spot = .pipe pipe := by
  rcases inside with same | behind
  · exact Or.inl same
  · obtain ⟨target, -, here⟩ := Option.bind_eq_some_iff.mp behind
    exact Or.inr (Target.spot?_cases here)

def IsOpen (world : World) (fd : Nat) : Prop := (world.descriptors.get? fd).isSome

def HasSink (world : World) (sink : Nat) : Prop := (world.sinks.get? sink).isSome

theorem isOpen_of_descriptors {one two : World} (same : one.descriptors = two.descriptors)
    (isOpen : one.IsOpen fd) : two.IsOpen fd := by
  rwa [IsOpen, ← same]

theorem isOpen_iff_target? : world.IsOpen fd ↔ (world.target? fd).isSome := by
  rw [IsOpen, target?, Option.isSome_map]

theorem descriptor_mem_behind_iff : .descriptor other ∈ world.behind fd ↔ other = fd := by
  constructor
  · intro inside
    rcases behind_cases inside with same | ⟨_, same⟩ | ⟨_, same⟩
    · exact Spot.descriptor.inj same
    · cases same
    · cases same
  · rintro rfl
    exact descriptor_mem_behind world other

theorem sink_notMem_behind : .sink sink ∉ world.behind fd := by
  intro inside
  rcases behind_cases inside with same | ⟨_, same⟩ | ⟨_, same⟩ <;> cases same

theorem memory_notMem_behind : .memory sink ∉ world.behind fd := by
  intro inside
  rcases behind_cases inside with same | ⟨_, same⟩ | ⟨_, same⟩ <;> cases same

/-- Descriptors are open and sinks are there as before. -/
structure Retains (before after : World) : Prop where
  isOpen : ∀ fd, after.IsOpen fd ↔ before.IsOpen fd
  hasSink : ∀ sink, after.HasSink sink ↔ before.HasSink sink

theorem Retains.refl (world : World) : Retains world world := ⟨fun _ => Iff.rfl, fun _ => Iff.rfl⟩

theorem Within.hasSink {changed : Set Spot} (within : Within changed world after)
    (outside : .sink sink ∉ changed) : after.HasSink sink ↔ world.HasSink sink := by
  have same : after.sinks.get? sink = world.sinks.get? sink := within.stays (.sink sink) outside
  rw [HasSink, same, HasSink]

theorem Within.isOpen {changed : Set Spot} (within : Within changed world after)
    (outside : .descriptor fd ∉ changed) : after.IsOpen fd ↔ world.IsOpen fd := by
  have same : after.descriptors.get? fd = world.descriptors.get? fd :=
    within.stays (.descriptor fd) outside
  rw [IsOpen, same, IsOpen]

theorem isOpen_close : (world.close fd).IsOpen other ↔ world.IsOpen other ∧ other ≠ fd := by
  by_cases same : other = fd
  · subst same
    refine iff_of_false ?_ fun both => both.2 rfl
    cases found : world.descriptors.get? other with
    | none =>
        simp only [close, found, IsOpen, Option.isSome_none, Bool.false_eq_true, not_false_iff]
    | some descriptor =>
        rw [close_of_found found]
        have within : Within (unfiled { spot | descriptor.target.spot? = some spot }) _ _ :=
          within_closePipeEnd (world.put (.descriptor other) none) fun _ here => here
        have outside : .descriptor other ∉ unfiled { spot | descriptor.target.spot? = some spot } := by
          rintro ⟨here, -⟩
          rcases Target.spot?_cases here with ⟨_, same⟩ | ⟨_, same⟩ <;> cases same
        rw [within.isOpen outside, IsOpen, put, Arena.put_none, Arena.get?_release_self]
        exact Bool.false_ne_true
  · rw [(within_close world fd).isOpen fun inside => same (descriptor_mem_behind_iff.mp inside.1)]
    exact (and_iff_left same).symm

end World

namespace Boundary

open World (Retains)

/-- The descriptor of a reader. -/
def Reader.descriptor? : Reader → Option Nat
  | .descriptor fd => some fd
  | .bytes _ => none

/-- The descriptor of a writer. -/
def Writer.descriptor? : Writer → Option Nat
  | .buffered fd _ => some fd
  | _ => none

/-- The sink of a writer that collects. -/
def Writer.collecting? : Writer → Option Nat
  | .growing sink => some sink
  | _ => none

variable {world after : World}

theorem Reader.retains_read {reader next : Reader} {count : Nat} {data : Bytes}
    (done : reader.read count world = .ok (data, next, after)) :
    next.descriptor? = reader.descriptor? ∧ Retains world after := by
  cases reader with
  | descriptor fd =>
      simp only [read] at done
      split at done
      · cases done
      · rename_i finished
        cases done
        refine ⟨rfl, fun other => ?_, fun sink => ?_⟩
        · rw [World.isOpen_iff_target?, World.target?_read finished, World.isOpen_iff_target?]
        · exact (World.within_read finished).hasSink fun inside => World.sink_notMem_behind inside.1
  | bytes rest =>
      cases done
      exact ⟨rfl, Retains.refl _⟩

theorem Reader.isOpen_finish {reader : Reader} {fd : Nat} :
    (reader.finish world).IsOpen fd ↔ world.IsOpen fd ∧ reader.descriptor? ≠ some fd := by
  cases reader with
  | descriptor own =>
      rw [finish, World.isOpen_close]
      exact and_congr_right fun _ => not_congr ⟨fun same => same ▸ rfl, fun same =>
        (Option.some.inj same).symm⟩
  | bytes rest => exact iff_and_none_ne

theorem Reader.hasSink_finish {reader : Reader} {sink : Nat} :
    (reader.finish world).HasSink sink ↔ world.HasSink sink := by
  refine (reader.within_finish world).hasSink fun inside => ?_
  cases reader with
  | descriptor fd => exact World.sink_notMem_behind inside.1
  | bytes rest => exact inside.1

theorem retains_extend (world : World) (id : Nat) (data : Bytes) :
    Retains world (extend world id data) := by
  refine ⟨fun fd => (within_extend world id data).isOpen (fun inside => nomatch inside), fun sink => ?_⟩
  unfold extend
  split
  · exact Iff.rfl
  · rename_i found
    rw [World.HasSink, Arena.get?_set]
    split
    · rename_i same
      rw [World.HasSink, same.1, found]
      exact Iff.rfl
    · exact Iff.rfl

theorem Stays.retains {fd : Nat} (stays : Stays fd world after) : Retains world after :=
  ⟨fun other => by rw [World.isOpen_iff_target?, stays.1, World.isOpen_iff_target?],
    fun _ => stays.2.hasSink World.sink_notMem_behind⟩

theorem Writer.retains_serve (writer : Writer) (request : Request) (world : World) :
    (writer.serve request world).2.1.descriptor? = writer.descriptor? ∧
      (writer.serve request world).2.1.collecting? = writer.collecting? ∧
      Retains world (writer.serve request world).2.2 := by
  cases writer with
  | buffered fd pending =>
      cases request with
      | write data => exact ⟨rfl, rfl, (stays_write fd data pending world).retains⟩
      | flush => exact ⟨rfl, rfl, (stays_drain fd pending world).retains⟩
  | fixed region length position =>
      cases request with
      | write data =>
          have within := within_fill world region position (data.take (length - position))
          refine ⟨rfl, rfl, fun fd => within.isOpen ?_, fun sink => within.hasSink ?_⟩
          · rintro ⟨id, -, same⟩
            cases same
          · rintro ⟨id, -, same⟩
            cases same
      | flush => exact ⟨rfl, rfl, Retains.refl world⟩
  | growing sink =>
      cases request with
      | write data => exact ⟨rfl, rfl, retains_extend world sink data⟩
      | flush => exact ⟨rfl, rfl, Retains.refl world⟩

theorem Writer.retains_finish (writer : Writer) (world : World) :
    (∀ fd, (writer.finish world).IsOpen fd ↔ world.IsOpen fd ∧ writer.descriptor? ≠ some fd) ∧
      ∀ sink, (writer.finish world).HasSink sink ↔ world.HasSink sink := by
  cases writer with
  | buffered fd pending =>
      have drained := (stays_drain fd pending world).trans (stays_drain fd
        (Buffered.drain (offerTo fd) pending world).2.1
        (Buffered.drain (offerTo fd) pending world).2.2)
      refine ⟨fun other => ?_, fun sink => ?_⟩
      · show World.IsOpen (World.close _ fd) other ↔ _
        rw [World.isOpen_close, drained.retains.isOpen]
        exact and_congr_right fun _ => not_congr ⟨fun same => same ▸ rfl, fun same =>
          (Option.some.inj same).symm⟩
      · exact ((Writer.buffered fd pending).within_finish world).hasSink World.sink_notMem_behind
  | fixed region length position =>
      exact ⟨fun fd => iff_and_none_ne, fun sink => Iff.rfl⟩
  | growing sink => exact ⟨fun fd => iff_and_none_ne, fun sink => Iff.rfl⟩

end Boundary

namespace Host

open Boundary (Outcome Request)
open World (Retains)

namespace Holdings

/-- The descriptor that belongs to an open stream. -/
def descriptor? (held : Holdings) : Address → Option Nat
  | .context _ => none
  | .reader id => (held.readers.get? id).bind fun reader =>
      if reader.closed then none
      else (held.host.boundary.readers.get? reader.handle).bind Boundary.Reader.descriptor?
  | .writer id => (held.writers.get? id).bind fun writer =>
      if writer.closed then none
      else (held.host.boundary.writers.get? writer.handle).bind Boundary.Writer.descriptor?

/-- The sink that belongs to a writer, also after it was closed. -/
def sink? (held : Holdings) : Address → Option Nat
  | .writer id => (held.writers.get? id).bind (·.sink)
  | _ => none

/-- The sink that an open writer collects in. -/
def collecting? (held : Holdings) : Address → Option Nat
  | .writer id => (held.writers.get? id).bind fun writer =>
      if writer.closed then none
      else (held.host.boundary.writers.get? writer.handle).bind Boundary.Writer.collecting?
  | _ => none

/-- The descriptor that goes with the stream that an action ends. -/
def closes? (held : Holdings) (action : Action) : Option Nat :=
  action.ending?.bind held.descriptor?

/-- The sink that goes with the writer that an action gives up. -/
def discards? (held : Holdings) : Action → Option Nat
  | .writer id action => (held.writers.get? id).bind action.discards
  | _ => none

/-- What an action does to all that belongs to streams. -/
structure Possession (held : Holdings) (action : Action) (address : Address) (after : Holdings) :
    Prop where
  descriptor? : after.descriptor? address =
    if action.ending? = none then held.descriptor? address else none
  collecting? : after.collecting? address =
    if action.ending? = none then held.collecting? address else none
  sink? : after.sink? address =
    if held.discards? action = none then held.sink? address else none
  isOpen : ∀ fd, after.world.IsOpen fd ↔ held.world.IsOpen fd ∧ held.closes? action ≠ some fd
  hasSink : ∀ sink, after.world.HasSink sink ↔
    held.world.HasSink sink ∧ held.discards? action ≠ some sink

section

variable {held after : Holdings} {id : Nat} {address : Address} {answer : Answer}

theorem descriptor?_reader {reader : Reader} {source : Boundary.Reader}
    (found : held.readers.get? id = some reader) (opened : reader.closed = false)
    (live : held.host.boundary.readers.get? reader.handle = some source) :
    held.descriptor? (.reader id) = source.descriptor? := by
  simp only [descriptor?, found, opened, live, Option.bind_some, Bool.false_eq_true, if_false]

theorem descriptor?_writer {writer : Writer} {target : Boundary.Writer}
    (found : held.writers.get? id = some writer) (opened : writer.closed = false)
    (live : held.host.boundary.writers.get? writer.handle = some target) :
    held.descriptor? (.writer id) = target.descriptor? := by
  simp only [descriptor?, found, opened, live, Option.bind_some, Bool.false_eq_true, if_false]

theorem collecting?_writer {writer : Writer} {target : Boundary.Writer}
    (found : held.writers.get? id = some writer) (opened : writer.closed = false)
    (live : held.host.boundary.writers.get? writer.handle = some target) :
    held.collecting? (.writer id) = target.collecting? := by
  simp only [collecting?, found, opened, live, Option.bind_some, Bool.false_eq_true, if_false]

/-- What does not hold a session owns no descriptor. -/
theorem descriptor?_of_vacant (vacant : held.custody.claim? address = none) :
    held.descriptor? address = none := by
  cases address with
  | context id => rfl
  | reader id =>
      cases found : held.readers.get? id with
      | none => simp only [descriptor?, found, Option.bind_none]
      | some reader =>
          rw [claim?_reader found, Reader.claim?] at vacant
          split at vacant
          · rename_i closed
            simp only [descriptor?, found, Option.bind_some, closed, if_true]
          · cases vacant
  | writer id =>
      cases found : held.writers.get? id with
      | none => simp only [descriptor?, found, Option.bind_none]
      | some writer =>
          rw [claim?_writer found, Writer.claim?] at vacant
          split at vacant
          · rename_i closed
            simp only [descriptor?, found, Option.bind_some, closed, if_true]
          · cases vacant

/-- What does not hold a session collects in no sink. -/
theorem descriptor?_of_streamless (readers : held.readers = {}) (writers : held.writers = {})
    (address : Address) : held.descriptor? address = none := by
  cases address with
  | context id => rfl
  | reader id =>
      rw [descriptor?, readers]
      rfl
  | writer id =>
      rw [descriptor?, writers]
      rfl

theorem collecting?_of_vacant (vacant : held.custody.claim? address = none) :
    held.collecting? address = none := by
  cases address with
  | context id => rfl
  | reader id => rfl
  | writer id =>
      cases found : held.writers.get? id with
      | none => simp only [collecting?, found, Option.bind_none]
      | some writer =>
          rw [claim?_writer found, Writer.claim?] at vacant
          split at vacant
          · rename_i closed
            simp only [collecting?, found, Option.bind_some, closed, if_true]
          · cases vacant

theorem closes?_of_quiet {action : Action} (quiet : action.ending? = none) :
    held.closes? action = none := by
  rw [closes?, quiet]
  rfl

theorem closes?_of_ends {action : Action} (ends : action.ending? = some address) :
    held.closes? action = held.descriptor? address := by
  rw [closes?, ends]
  rfl

/-- What ends nothing gives no sink up. -/
theorem discards?_of_quiet {action : Action} (quiet : action.ending? = none) :
    held.discards? action = none := by
  cases action with
  | writer id asked =>
      obtain ⟨request, rfl⟩ := WriterAction.exists_request quiet
      simp only [discards?]
      cases held.writers.get? id with
      | none => rfl
      | some writer => cases request <;> rfl
  | _ => rfl

/-- A step that ends nothing. -/
theorem Possession.of_quiet {action : Action} (quiet : action.ending? = none)
    (descriptor : after.descriptor? address = held.descriptor? address)
    (collecting : after.collecting? address = held.collecting? address)
    (sink : after.sink? address = held.sink? address) (retains : Retains held.world after.world) :
    held.Possession action address after := by
  have kept : held.discards? action = none := discards?_of_quiet quiet
  refine ⟨?_, ?_, ?_, fun fd => ?_, fun sink => ?_⟩
  · rw [if_pos quiet, descriptor]
  · rw [if_pos quiet, collecting]
  · rw [if_pos kept, sink]
  · rw [closes?_of_quiet quiet, retains.isOpen]
    exact iff_and_none_ne
  · rw [kept, retains.hasSink]
    exact iff_and_none_ne

/-- A step that ends what owned no descriptor. -/
theorem Possession.of_ends {action : Action} (ends : action.ending? = some address)
    (vacant : after.custody.claim? address = none)
    (sink : after.sink? address =
      if held.discards? action = none then held.sink? address else none)
    (isOpen : ∀ fd, after.world.IsOpen fd ↔
      held.world.IsOpen fd ∧ held.descriptor? address ≠ some fd)
    (hasSink : ∀ sink, after.world.HasSink sink ↔
      held.world.HasSink sink ∧ held.discards? action ≠ some sink) :
    held.Possession action address after := by
  refine ⟨?_, ?_, sink, ?_, hasSink⟩
  · rw [descriptor?_of_vacant vacant, ends, if_neg (Option.some_ne_none _)]
  · rw [collecting?_of_vacant vacant, ends, if_neg (Option.some_ne_none _)]
  · rw [closes?_of_ends ends]
    exact isOpen

theorem possession_context (sound : Sound held.custody) {action : ContextAction}
    (on : (Action.context id action).On (.context id))
    (done : held.perform (.context id action) = .done (answer, after)) :
    held.Possession (.context id action) (.context id) after := by
  have acted := acted_context sound on done
  have aside (spot : Spot) : after.world.at? spot = held.world.at? spot := by
    refine acted.confined.stays (.spot spot) ?_
    rintro ⟨same | ⟨handle, -, same⟩ | ⟨_, inside, -⟩, -⟩
    · cases same
    · cases same
    · exact inside
  have closes : held.closes? (.context id action) = none := by
    rcases on.ending with quiet | ends
    · exact closes?_of_quiet quiet
    · rw [closes?_of_ends ends, descriptor?]
  refine ⟨(ite_self none).symm, (ite_self none).symm, rfl, fun fd => ?_, fun sink => ?_⟩
  · have same : after.world.descriptors.get? fd = held.world.descriptors.get? fd :=
      aside (.descriptor fd)
    rw [closes, World.IsOpen, same]
    exact iff_and_none_ne
  · have same : after.world.sinks.get? sink = held.world.sinks.get? sink := aside (.sink sink)
    rw [World.HasSink, same]
    exact iff_and_none_ne

theorem vacant_rest_reader {action : ReaderAction}
    (ends : (Action.reader id action).ending? = some (.reader id)) {reader : Reader}
    (found : held.readers.get? id = some reader)
    (remains : after.readers = action.rest held.readers id reader) :
    after.custody.claim? (.reader id) = none := by
  show (after.readers.get? id).bind Reader.claim? = none
  rw [remains]
  cases action with
  | read count => cases ends
  | close =>
      rw [ReaderAction.rest, Arena.get?_set_self _ found]
      rfl
  | drop =>
      rw [ReaderAction.rest, Arena.get?_release_self]
      rfl

theorem possession_reader (sound : Sound held.custody) {action : ReaderAction}
    (on : (Action.reader id action).On (.reader id))
    (done : held.perform (.reader id action) = .done (answer, after)) :
    held.Possession (.reader id action) (.reader id) after := by
  have unchanged (vacant : held.custody.claim? (.reader id) = none) (same : after.world = held.world)
      (ends : (Action.reader id action).ending? = some (.reader id))
      (gone : after.custody.claim? (.reader id) = none) :
      held.Possession (.reader id action) (.reader id) after := by
    refine .of_ends ends gone rfl (fun fd => ?_) fun sink => ?_
    · rw [same, descriptor?_of_vacant vacant]
      exact iff_and_none_ne
    · rw [same]
      exact iff_and_none_ne
  cases found : held.readers.get? id with
  | none =>
      have vacant : held.custody.claim? (.reader id) = none := by
        simp only [custody, claim?, found, Option.bind_none]
      simp only [perform, found] at done
      cases done
      rcases on.ending with quiet | ends
      · exact .of_quiet quiet rfl rfl rfl (Retains.refl _)
      · exact unchanged vacant rfl ends vacant
  | some reader =>
      have claim := claim?_reader found
      cases closed : reader.closed with
      | true =>
          rw [Reader.claim?, closed] at claim
          rcases on.ending with quiet | ends
          · obtain ⟨count, rfl⟩ := ReaderAction.exists_read quiet
            rw [perform_read_of_closed found closed] at done
            cases done
            exact .of_quiet quiet rfl rfl rfl (Retains.refl _)
          · rw [perform_endReader_of_closed ends found closed] at done
            cases done
            exact unchanged claim rfl ends (vacant_rest_reader ends found rfl)
      | false =>
          obtain ⟨source, live⟩ := Reader.exists_source sound closed claim
          have own := descriptor?_reader found closed live
          rcases on.ending with quiet | ends
          · obtain ⟨count, rfl⟩ := ReaderAction.exists_read quiet
            rw [perform_read found closed live] at done
            cases reads : source.read count held.world with
            | error failure =>
                rw [reads] at done
                cases done
                exact .of_quiet quiet rfl rfl rfl (Retains.refl _)
            | ok outcome =>
                obtain ⟨data, next, world⟩ := outcome
                rw [reads] at done
                cases done
                obtain ⟨same, retains⟩ := Boundary.Reader.retains_read reads
                refine .of_quiet quiet ?_ rfl rfl retains
                rw [own, ← same]
                exact descriptor?_reader found closed (Arena.get?_set_self next live)
          · rw [perform_endReader sound ends found closed live] at done
            obtain ⟨tree, contexts, shares, ledger, parted⟩ :=
              exists_parted (held.host.withoutReader reader.handle source) reader.share
            rw [parted] at done
            cases done
            refine .of_ends ends (vacant_rest_reader ends found rfl) rfl (fun fd => ?_) fun sink => ?_
            · rw [own]
              exact Boundary.Reader.isOpen_finish
            · exact Boundary.Reader.hasSink_finish.trans
                iff_and_none_ne

theorem vacant_rest_writer {action : WriterAction}
    (ends : (Action.writer id action).ending? = some (.writer id)) {writer : Writer}
    (found : held.writers.get? id = some writer)
    (remains : after.writers = action.rest held.writers id writer) :
    after.custody.claim? (.writer id) = none := by
  show (after.writers.get? id).bind Writer.claim? = none
  rw [remains]
  cases action with
  | write data => cases ends
  | flush => cases ends
  | close =>
      rw [WriterAction.rest, Arena.get?_set_self _ found]
      rfl
  | _ =>
      rw [WriterAction.rest, Arena.get?_release_self]
      rfl

theorem sink?_rest {action : WriterAction}
    (ends : (Action.writer id action).ending? = some (.writer id)) {writer : Writer}
    (found : held.writers.get? id = some writer)
    (remains : after.writers = action.rest held.writers id writer) :
    after.sink? (.writer id) =
      if held.discards? (.writer id action) = none then held.sink? (.writer id) else none := by
  simp only [sink?, discards?, remains, found, Option.bind_some]
  cases action with
  | write data => cases ends
  | flush => cases ends
  | close =>
      rw [WriterAction.rest, Arena.get?_set_self _ found]
      rfl
  | _ =>
      rw [WriterAction.rest, Arena.get?_release_self]
      cases gone : writer.sink <;> simp [WriterAction.discards, gone]

theorem hasSink_discard {world : World} {gone : Option Nat} {sink : Nat} :
    (discard gone world).HasSink sink ↔ world.HasSink sink ∧ gone ≠ some sink := by
  cases gone with
  | none => exact iff_and_none_ne
  | some number =>
      simp only [discard, World.HasSink, Arena.get?_release]
      by_cases same : sink = number
      · subst same
        simp
      · have apart : some number ≠ some sink := fun equal => same (Option.some.inj equal).symm
        rw [if_neg same]
        exact (and_iff_left apart).symm

theorem possession_writer (sound : Sound held.custody) {action : WriterAction}
    (on : (Action.writer id action).On (.writer id))
    (done : held.perform (.writer id action) = .done (answer, after)) :
    held.Possession (.writer id action) (.writer id) after := by
  cases found : held.writers.get? id with
  | none =>
      have vacant : held.custody.claim? (.writer id) = none := by
        simp only [custody, claim?, found, Option.bind_none]
      simp only [perform, found] at done
      cases done
      rcases on.ending with quiet | ends
      · exact .of_quiet quiet rfl rfl rfl (Retains.refl _)
      · have kept : held.discards? (.writer id action) = none := by
          rw [discards?, found]
          rfl
        refine .of_ends ends vacant ?_ (fun fd => ?_) fun sink => ?_
        · rw [kept, if_pos rfl]
        · rw [descriptor?_of_vacant vacant]
          exact iff_and_none_ne
        · rw [kept]
          exact iff_and_none_ne
  | some writer =>
      have claim := claim?_writer found
      have gone : held.discards? (.writer id action) = action.discards writer := by
        rw [discards?, found]
        rfl
      cases closed : writer.closed with
      | true =>
          rw [Writer.claim?, closed] at claim
          rcases on.ending with quiet | ends
          · obtain ⟨request, rfl⟩ := WriterAction.exists_request quiet
            rw [perform_request_of_closed found closed] at done
            cases done
            exact .of_quiet quiet rfl rfl rfl (Retains.refl _)
          · rw [perform_endWriter_of_closed ends found closed] at done
            cases done
            refine .of_ends ends (vacant_rest_writer ends found rfl) (sink?_rest ends found rfl)
              (fun fd => ?_) fun sink => ?_
            · rw [descriptor?_of_vacant claim]
              refine Iff.trans ?_ iff_and_none_ne
              cases action.discards writer <;> exact Iff.rfl
            · rw [gone]
              exact hasSink_discard
      | false =>
          obtain ⟨target, live⟩ := Writer.exists_target sound closed claim
          have own := descriptor?_writer found closed live
          rcases on.ending with quiet | ends
          · obtain ⟨request, rfl⟩ := WriterAction.exists_request quiet
            obtain ⟨handle, share, _, sink⟩ := writer
            cases closed
            rw [perform_request request found live] at done
            cases done
            obtain ⟨same, alike, retains⟩ := target.retains_serve request held.world
            have set := Arena.get?_set_self (target.serve request held.world).2.1 live
            refine .of_quiet quiet ?_ ?_ rfl retains
            · rw [own, ← same]
              exact descriptor?_writer found rfl set
            · rw [collecting?_writer found rfl live, ← alike]
              exact collecting?_writer found rfl set
          · rw [perform_endWriter sound ends found closed live] at done
            obtain ⟨tree, contexts, shares, ledger, parted⟩ :=
              exists_parted (held.host.withoutWriter writer.handle target) writer.share
            rw [parted] at done
            cases done
            obtain ⟨isOpen, hasSink⟩ := target.retains_finish held.world
            refine .of_ends ends (vacant_rest_writer ends found rfl) (sink?_rest ends found rfl)
              (fun fd => ?_) fun sink => ?_
            · rw [own]
              refine Iff.trans ?_ (isOpen fd)
              cases action.discards writer <;> exact Iff.rfl
            · rw [gone]
              exact hasSink_discard.trans (and_congr_left fun _ => hasSink sink)

/-- An action closes the descriptor of the stream that it ends, and takes away the sink of the
writer that it gives up. -/
theorem possession_perform (sound : Sound held.custody) {action : Action} (on : action.On address)
    (done : held.perform action = .done (answer, after)) :
    held.Possession action address after := by
  obtain ⟨same, -⟩ := id on
  cases action with
  | build config => cases same
  | context id action =>
      cases same
      exact possession_context sound on done
  | reader id action =>
      cases same
      exact possession_reader sound on done
  | writer id action =>
      cases same
      exact possession_writer sound on done

end

end Holdings

end Host

end SessionStreams
