import SessionStreams.Proofs.Endings

set_option autoImplicit false

namespace SessionStreams

/-- Just the descriptor `fd` was closed, and with it the end of a pipe that it may have been. -/
structure World.Shut (fd : Nat) (before after : World) : Prop where
  frame : after = { before with descriptors := after.descriptors, pipes := after.pipes }
  gone : after.descriptors.get? fd = none
  others : ∀ other, other ≠ fd → after.descriptors.get? other = before.descriptors.get? other
  pipes : ∀ pipe, (∀ reading, before.target? fd ≠ some (.pipeEnd pipe reading)) →
    after.pipes.get? pipe = before.pipes.get? pipe
  content : ∀ pipe state, before.pipes.get? pipe = some state →
    ∃ later, after.pipes.get? pipe = some later ∧ later.content = state.content

theorem World.closePipeEnd_cases (world : World) (target : Target) :
    world.closePipeEnd target = world ∨ ∃ pipe reading state later,
      target = .pipeEnd pipe reading ∧ world.pipes.get? pipe = some state ∧
      later.content = state.content ∧
      world.closePipeEnd target = { world with pipes := world.pipes.set pipe later } := by
  cases target with
  | pipeEnd pipe reading =>
      cases found : world.pipes.get? pipe with
      | none => exact Or.inl (by rw [closePipeEnd, found])
      | some state =>
          refine Or.inr ⟨pipe, reading, state, _, rfl, found, ?_, by rw [closePipeEnd, found]⟩
          cases reading <;> rfl
  | file contents => exact Or.inl rfl
  | directory => exact Or.inl rfl
  | device device => exact Or.inl rfl

theorem World.shut_close (world : World) (fd : Nat) : Shut fd world (world.close fd) := by
  cases found : world.descriptors.get? fd with
  | none =>
      rw [show world.close fd = world by rw [close, found]]
      exact ⟨rfl, found, fun _ _ => rfl, fun _ _ => rfl, fun _ state there => ⟨state, there, rfl⟩⟩
  | some descriptor =>
      have gone := world.descriptors.get?_release_self fd
      have others (other : Nat) (apart : other ≠ fd) :=
        world.descriptors.get?_release_ne apart
      have closed : world.close fd = { world with
          descriptors := world.descriptors.release fd }.closePipeEnd descriptor.target := by
        rw [close, found]
      rw [closed]
      rcases closePipeEnd_cases { world with descriptors := world.descriptors.release fd }
          descriptor.target with same | ⟨pipe, reading, state, later, target, there, content, same⟩
      · rw [same]
        exact ⟨rfl, gone, others, fun _ _ => rfl, fun _ state there => ⟨state, there, rfl⟩⟩
      · rw [same]
        refine ⟨rfl, gone, others, fun other apart => ?_, fun other old known => ?_⟩
        · have stands : world.target? fd = some (.pipeEnd pipe reading) := by
            rw [target?, found, Option.map_some, target]
          have different : other ≠ pipe := fun both => apart reading (both ▸ stands)
          exact world.pipes.get?_set_ne later different
        · by_cases here : other = pipe
          · subst here
            obtain rfl := Option.some.inj (there.symm.trans known)
            exact ⟨later, Arena.get?_set_self later there, content⟩
          · exact ⟨old, (world.pipes.get?_set_ne later here).trans known, rfl⟩

namespace Boundary

/-- A call fails with a fault in the slot, if there is one, and leaves all as it was. -/
def Declines {α : Type} (boundary : Boundary) (slot : ErrorSlot) (failed : α)
    (call : Outcome (Reply α)) : Prop :=
  ∃ fault, call = .done ⟨failed, slot.store fault, boundary⟩

section

variable {boundary : Boundary} {id count : Nat} (slot : ErrorSlot)

theorem declines_read {reader : Reader} (live : boundary.readers.get? id = some reader) :
    boundary.Declines slot (-1, []) (boundary.read slot (some id) (.null (count + 1))) := by
  refine ⟨nullBuffer (count + 1), ?_⟩
  simp only [read, Outcome.require, Outcome.done_bind, live, Outcome.live, tryRead, Room.view,
    conclude]

theorem declines_write {writer : Writer} (live : boundary.writers.get? id = some writer) :
    boundary.Declines slot (-1) (boundary.write slot (some id) (.null (count + 1))) := by
  refine ⟨nullBuffer (count + 1), ?_⟩
  simp only [write, Outcome.require, Outcome.done_bind, live, Outcome.live, tryWrite, Loan.view,
    conclude]

/-- A constructor with an argument that its check turns down. -/
theorem declines_tryAdd {α : Type} {checked : Except Fault α} {fault : Fault}
    (refused : checked = .error fault) (add : α → Nat × Boundary) :
    boundary.Declines slot none
      (.done (concludeHandle slot (boundary.tryAdd checked add))) :=
  ⟨fault, by simp only [refused, tryAdd, concludeHandle, conclude]⟩

theorem checkDescriptor_of_negative {fd : Int} (negative : fd < 0) :
    checkDescriptor fd = .error (.invalidArgument ("Bad file descriptor: " ++ toString fd)) := by
  rw [checkDescriptor, if_pos negative]

end

end Boundary

namespace Host

open Boundary (Declines Destination ErrorSlot Outcome Request Source)

section

variable {custody : Custody} {address : Address} {share : Nat}

/-- A share that was in hold and is let go counts as before. -/
theorem letGo_hold_eq (sound : Sound custody) (holds : custody.Holds address share) :
    (custody.host.hold share).letGo share = .done custody.host := by
  obtain ⟨state, shared⟩ := sound.exists_share holds
  have positive := (sound.counted share state shared).1
  have more : ¬ state.holders + 1 ≤ 1 := by omega
  rw [Sound.hold_eq shared]
  simp only [letGo, Arena.get?_set_self _ shared, Outcome.live, Outcome.done_bind, more, if_false,
    Nat.add_sub_cancel, Arena.set_set, Arena.set_of_get? shared]

end

namespace Holdings

variable {held : Holdings} {id : Nat} {context : Context}

/-- A stream that is refused behind the boundary, where nothing has happened, leaves all as it
was. -/
theorem adopt_of_refused {α : Type} (sound : Sound held.custody) {share : Nat}
    (holds : held.custody.Holds (.context id) share) (name : String) (handle : Nat → Handle)
    (make : Nat → α) (fault : Boundary.Fault) :
    (held.host.hold share).adopt name handle share make
        (Boundary.concludeHandle .empty (.error fault, held.host.boundary)) =
      .done (.error (.reporting fault), held.host) := by
  have back := letGo_hold_eq sound holds
  rw [host_custody] at back
  have same : ({ held.host.hold share with boundary := held.host.boundary } : Host) =
      held.host.hold share := by
    rw [← boundary_hold held.host share]
  simp only [adopt, concludeHandle_after, examine_concludeHandle, Outcome.done_bind,
    mapError_error, same, back]

section

variable (sound : Sound held.custody) (found : held.contexts.get? id = some context)
  (unreleased : context.released = false) {fault : Boundary.Fault}

include sound found unreleased

/-- A constructor that fails behind the boundary without having done anything there. -/
theorem perform_source_declined (source : Source)
    (declined : source.attempt held.host.boundary = (.error fault, held.host.boundary)) :
    held.perform (.context id source.action) = .done (.failed (.reporting fault), held) := by
  have paired := Paired.of_context sound found unreleased rfl
  have adopted := adopt_of_refused sound (Custody.holds_of_claim paired.live) "Reader"
    Handle.reader (fun handle => ({ handle, share := context.share } : Reader)) fault
  rw [perform_source paired.context, declined, Reader.adopt, adopted]
  rfl

theorem perform_destination_declined (destination : Destination)
    (fallible : destination ≠ .growing)
    (declined : destination.attempt held.host.boundary = (.error fault, held.host.boundary)) :
    held.perform (.context id destination.action) = .done (.failed (.reporting fault), held) := by
  have paired := Paired.of_context sound found unreleased rfl
  have adopted := adopt_of_refused sound (Custody.holds_of_claim paired.live) "Writer"
    Handle.writer (fun handle => ({ handle, share := context.share } : Writer)) fault
  rw [perform_destination paired.context destination fallible, declined, Writer.adopt, adopted]
  rfl

theorem perform_handed_declined {handed : Handed} (negative : handed.number < 0)
    {action : ContextAction}
    (takes : action = .readerOverDescriptor handed ∨ action = .writerOverDescriptor handed) :
    ∃ error, held.perform (.context id action) = .done (.failed error, held) := by
  obtain ⟨fault, refused⟩ : ∃ fault, Boundary.checkDescriptor handed.number = .error fault :=
    ⟨_, Boundary.checkDescriptor_of_negative negative⟩
  rcases takes with rfl | rfl
  · have declined : (Source.descriptor handed).attempt held.host.boundary =
        (.error fault, held.host.boundary) := by
      rw [Source.attempt, refused, Boundary.tryAdd]
    exact ⟨_, perform_source_declined sound found unreleased (.descriptor handed) declined⟩
  · have declined : (Destination.descriptor handed).attempt held.host.boundary =
        (.error fault, held.host.boundary) := by
      rw [Destination.attempt, refused, Boundary.tryAdd]
    have fallible : Destination.descriptor handed ≠ .growing := by
      intro same
      cases same
    exact ⟨_, perform_destination_declined sound found unreleased _ fallible declined⟩

end

/-- Nothing is given up unless an owned descriptor is handed over. -/
theorem forfeit_of_unowned {action : ContextAction}
    (unowned : ∀ fd, (Action.context id action).handed? ≠ some (.owned fd)) (host : Host) :
    action.forfeit host = host := by
  have kept {handed : Handed} (given : (Action.context id action).handed? = some handed) :
      host.mapWorld (·.dropHanded handed) = host := by
    cases handed with
    | owned fd => exact absurd given (unowned fd)
    | raw number => rfl
  cases action with
  | readerOverDescriptor handed => exact kept rfl
  | writerOverDescriptor handed => exact kept rfl
  | _ => rfl

/-- A released context refuses, and does nothing unless an owned descriptor is handed over to it. -/
theorem perform_asked_of_released (found : held.contexts.get? id = some context)
    (released : context.released = true) {action : ContextAction}
    (asked : (Action.context id action).ending? = none)
    (unowned : ∀ fd, (Action.context id action).handed? ≠ some (.owned fd)) :
    ∃ error, held.perform (.context id action) = .done (.failed error, held) := by
  obtain ⟨error, performed, -⟩ := perform_of_released found released asked
  rw [forfeit_of_unowned unowned] at performed
  exact ⟨error, performed⟩

/-- Actions that are turned down for a reason that is there before they do anything. -/
inductive Rejects (held : Holdings) : Action → Prop where
  /-- A released context is asked something, or to open a stream. -/
  | released {id : Nat} {context : Context} {action : ContextAction}
      (found : held.contexts.get? id = some context) (released : context.released = true)
      (asked : (Action.context id action).ending? = none) : Rejects held (.context id action)
  /-- A path has a NUL in it. -/
  | path {id : Nat} {context : Context} {action : ContextAction} {path : Path}
      (found : held.contexts.get? id = some context) (nul : 0 ∈ path)
      (opens : action = .openReader path ∨ action = .openWriter path) :
      Rejects held (.context id action)
  /-- A context is to be built with a home that has a NUL in it. -/
  | home {config : Config} {path : Path} (set : config.home = some path) (nul : 0 ∈ path) :
      Rejects held (.build config)
  /-- A descriptor is negative. -/
  | descriptor {id : Nat} {context : Context} {action : ContextAction} {handed : Handed}
      (found : held.contexts.get? id = some context) (negative : handed.number < 0)
      (takes : action = .readerOverDescriptor handed ∨ action = .writerOverDescriptor handed) :
      Rejects held (.context id action)
  /-- A closed reader is read. -/
  | reader {id count : Nat} {reader : Reader} (found : held.readers.get? id = some reader)
      (closed : reader.closed = true) : Rejects held (.reader id (.read count))
  /-- A closed writer is written to or flushed. -/
  | writer {id : Nat} {writer : Writer} (request : Request)
      (found : held.writers.get? id = some writer) (closed : writer.closed = true) :
      Rejects held (.writer id request.action)

theorem perform_of_rejects (sound : Sound held.custody) {action : Action}
    (rejects : held.Rejects action) (keeps : ∀ fd, ¬ held.Forfeits action fd) :
    ∃ error, held.perform action = .done (.failed error, held) := by
  cases rejects with
  | released found released asked =>
      exact perform_asked_of_released found released asked fun fd owned =>
        keeps fd ⟨_, _, rfl, found, released, owned⟩
  | path found nul opens => exact ⟨_, perform_open_of_nul found nul opens⟩
  | home set nul => exact ⟨_, perform_build (Config.build_of_nul held.host set nul)⟩
  | @descriptor id context action handed found negative takes =>
      cases released : context.released with
      | false => exact perform_handed_declined sound found released negative takes
      | true =>
          -- The context is looked at first; a negative number owns nothing.
          refine perform_asked_of_released found released ?_ fun fd owned =>
            keeps fd ⟨_, _, rfl, found, released, owned⟩
          rcases takes with rfl | rfl <;> rfl
  | reader found closed => exact ⟨_, perform_read_of_closed found closed _⟩
  | writer request found closed => exact ⟨_, perform_request_of_closed found closed request⟩

/-- A released context gives up just the descriptor that is handed over to it. -/
theorem perform_of_forfeits {action : Action} {fd : Nat} (forfeits : held.Forfeits action fd) :
    held.perform action =
      .done (.failed (.released "Context"), held.inWorld (held.world.close fd)) := by
  obtain ⟨id, context, addressed, found, released, given⟩ := forfeits
  cases action with
  | build config => cases addressed
  | reader other action => cases addressed
  | writer other action => cases addressed
  | context other action =>
      cases addressed
      cases action with
      | readerOverDescriptor handed =>
          cases given
          exact perform_handed_of_released found released (Or.inl rfl)
      | writerOverDescriptor handed =>
          cases given
          exact perform_handed_of_released found released (Or.inr rfl)
      | _ => cases given

/-- A closed writer refuses any number of requests. -/
theorem run_requests_of_closed {writer : Writer} (found : held.writers.get? id = some writer)
    (closed : writer.closed = true) (requests : List Request) :
    ∃ answers, held.run (requests.map fun request => .writer id request.action) =
      .done (answers, held) := by
  induction requests with
  | nil => exact ⟨[], rfl⟩
  | cons request rest ih =>
      obtain ⟨answers, ran⟩ := ih
      exact ⟨_, run_cons (perform_request_of_closed found closed request) ran⟩

/-- What an allocating writer has collected stays there when it is closed, and when closed it
refuses whatever is asked, until it is harvested. -/
theorem run_harvest_rejected (sound : Sound held.custody) {writer : Writer} {sink : Nat}
    (found : held.writers.get? id = some writer) (collects : writer.sink = some sink)
    (requests : List Request) :
    ∃ answers after, held.run (.writer id .close ::
        requests.map (fun request => .writer id request.action) ++ [.writer id .harvest]) =
      .done (answers ++ [.bytes (Writer.collected held.host sink)], after) := by
  obtain ⟨host, closes, same⟩ := perform_close sound found
  let closed : Holdings :=
    { held with host, writers := held.writers.set id { writer with closed := true } }
  have there : closed.writers.get? id = some { writer with closed := true } :=
    Arena.get?_set_self _ found
  obtain ⟨answers, ran⟩ := run_requests_of_closed there rfl requests
  have harvested := (leaves_of_set found host).2
  rw [same] at harvested
  have collected : WriterAction.harvest.farewell writer held.host =
      .bytes (Writer.collected held.host sink) := by
    simp only [WriterAction.farewell, collects]
  rw [collected] at harvested
  exact ⟨.nothing :: answers, _, run_cons closes (run_concat ran harvested)⟩

/-- A world in which one descriptor can be written to. -/
def oneOutput : World :=
  { World.empty with descriptors := ⟨[some { target := .device .null, writable := true }]⟩ }

end Holdings

end Host

end SessionStreams
