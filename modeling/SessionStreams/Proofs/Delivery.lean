import SessionStreams.Proofs.Effects
import SessionStreams.Proofs.Filling
import SessionStreams.Proofs.Footprints
import SessionStreams.Proofs.Lifetime

set_option autoImplicit false

/- A writer over a descriptor that takes all that it is offered. Main statements: a write is
accepted in full and adds to what was delivered and what is pending (`Buffers.write`), a flush
leaves nothing pending (`Buffers.flush`), every way to end the writer delivers all and closes the
descriptor (`Buffers.finish`), and nothing happens after that (`perform_over`). -/

namespace SessionStreams.Host

open Boundary (Outcome Stays offerTo)
open Boundary.Buffered (Takes)

/-- The bytes that a writer took in an action. -/
def Action.accepted (action : Action) (writer : Nat) (answer : Answer) : Bytes :=
  match action, answer with
  | .writer id (.write data), .count taken => if id = writer then data.take taken else []
  | _, _ => []

/-- All bytes that a writer took. -/
def acceptedBy (writer : Nat) (log : List (Action × Answer)) : Bytes :=
  log.flatMap fun entry => entry.1.accepted writer entry.2

theorem acceptedBy_concat (writer : Nat) (log : List (Action × Answer)) (action : Action)
    (answer : Answer) :
    acceptedBy writer (log ++ [(action, answer)]) =
      acceptedBy writer log ++ action.accepted writer answer := by
  simp only [acceptedBy, List.flatMap_append, List.flatMap_singleton]

theorem Action.accepted_write (writer : Nat) (data : Bytes) :
    (Action.writer writer (.write data)).accepted writer (.count data.length) = data := by
  simp only [accepted, if_true, List.take_length]

theorem Action.accepted_of_not_count {answer : Answer} (uncounted : ∀ taken, answer ≠ .count taken)
    (action : Action) (writer : Nat) : action.accepted writer answer = [] := by
  unfold accepted
  split
  · next taken => exact absurd rfl (uncounted taken)
  · rfl

namespace Holdings

/-- An open writer over a descriptor, without a sink, with some bytes pending. -/
structure Buffers (held : Holdings) (id fd : Nat) (pending : Bytes) : Prop where
  stream : ∃ handle share, held.writers.get? id = some { handle, share } ∧
    held.host.boundary.writers.get? handle = some (.buffered fd pending)

/-- A writer without a sink that is closed or no longer held. -/
def WriterOver (held : Holdings) (id : Nat) : Prop :=
  ∀ writer, held.writers.get? id = some writer → writer.closed = true ∧ writer.sink = none

/-- Contexts and readers are what they were. -/
structure Aside (before after : Holdings) : Prop where
  contexts : after.contexts = before.contexts
  readers : after.readers = before.readers
  sources : after.host.boundary.readers = before.host.boundary.readers

variable {held : Holdings} {id fd : Nat} {pending delivered : Bytes}
  {Taken : Bytes → World → Prop}

/-- A writer that was made over a descriptor has nothing pending. -/
theorem exists_buffers {context share : Nat} {after : Boundary}
    (found : held.contexts.get? context = some { share }) {destination : Boundary.Destination}
    (fallible : destination ≠ .growing)
    (made : destination.attempt held.host.boundary = (.ok id, after))
    (live : after.writers.get? id = some (.buffered fd [])) :
    ∃ writer opened,
      held.perform (.context context destination.action) = .done (.made writer, opened) ∧
      opened.Buffers writer fd [] ∧ opened.writers.get? writer = some { handle := id, share } ∧
      opened.host.boundary = after ∧ opened.contexts = held.contexts ∧
      opened.readers = held.readers :=
  ⟨_, _, perform_destination_made found fallible made,
    ⟨id, share, Arena.get?_alloc_self _ _, live⟩, Arena.get?_alloc_self _ _, rfl, rfl, rfl⟩

/-- What was taken stays a front part of what is. -/
theorem takes_front {σ : Type} {offer : Boundary.Offer σ} {Taken : Bytes → σ → Prop}
    (takes : Takes offer Taken) (front : Bytes) :
    Takes offer fun taken state => Taken taken state ∧ front <+: taken := by
  intro data taken state someData start
  obtain ⟨after, offered, further⟩ := takes data taken state someData start.1
  exact ⟨after, offered, further, start.2.trans (List.prefix_append _ _)⟩

namespace Buffers

theorem write (buffers : held.Buffers id fd pending) (takes : Takes (offerTo fd) Taken)
    (start : Taken delivered held.world) (data : Bytes) :
    ∃ further kept after,
      held.perform (.writer id (.write data)) = .done (.count data.length, after) ∧
      after.Buffers id fd kept ∧ Taken further after.world ∧
      further ++ kept = delivered ++ pending ++ data ∧ delivered <+: further ∧
      Stays fd held.world after.world ∧ Aside held after ∧ after.writers = held.writers := by
  obtain ⟨handle, share, found, live⟩ := buffers.stream
  obtain ⟨further, kept, world, written, ⟨reached, front⟩, balanced⟩ :=
    Boundary.Buffered.write_of_takes (takes_front takes delivered) data pending
      ⟨start, List.prefix_rfl⟩
  have stays := Boundary.stays_write fd data pending held.world
  have performed := perform_request (.write data) found live
  simp only [Boundary.Request.action, Boundary.Writer.serve, Boundary.Writer.write, written,
    mapError_ok] at performed
  rw [written] at stays
  exact ⟨further, kept, _, performed, ⟨handle, share, found, Arena.get?_set_self _ live⟩, reached,
    balanced, front, stays, ⟨rfl, rfl, rfl⟩, rfl⟩

theorem flush (buffers : held.Buffers id fd pending) (takes : Takes (offerTo fd) Taken)
    (start : Taken delivered held.world) :
    ∃ after, held.perform (.writer id .flush) = .done (.nothing, after) ∧
      after.Buffers id fd [] ∧ Taken (delivered ++ pending) after.world ∧
      Stays fd held.world after.world ∧ Aside held after ∧ after.writers = held.writers := by
  obtain ⟨handle, share, found, live⟩ := buffers.stream
  obtain ⟨world, drained, reached⟩ := Boundary.Buffered.drain_of_takes takes pending start
  have stays := Boundary.stays_drain fd pending held.world
  have performed := perform_request .flush found live
  simp only [Boundary.Request.action, Boundary.Writer.serve, Boundary.Writer.flush,
    drained] at performed
  rw [drained] at stays
  exact ⟨_, performed, ⟨handle, share, found, Arena.get?_set_self _ live⟩, reached, stays,
    ⟨rfl, rfl, rfl⟩, rfl⟩

end Buffers

/-- A writer was ended: its descriptor was closed in the world `final`, in which all was
delivered. -/
structure Finished (held : Holdings) (id fd : Nat) (final : World) (after : Holdings) : Prop
    extends Aside held after where
  world : ∃ tree, after.world = { final.close fd with tree }
  /-- The session goes on for as long as another holds it. -/
  tree : ∀ another share, another ≠ .writer id → held.custody.Holds (.writer id) share →
    held.custody.Holds another share → after.world.tree = final.tree
  past : after.WriterOver id

theorem Buffers.finish (buffers : held.Buffers id fd pending) (sound : Sound held.custody)
    (takes : Takes (offerTo fd) Taken) (start : Taken delivered held.world) {action : WriterAction}
    (ends : (Action.writer id action).ending? = some (.writer id)) :
    ∃ answer final after, held.perform (.writer id action) = .done (answer, after) ∧
      answer ≠ .absent ∧ (∀ taken, answer ≠ .count taken) ∧ Taken (delivered ++ pending) final ∧
      Stays fd held.world final ∧ Finished held id fd final after := by
  obtain ⟨handle, share, found, live⟩ := buffers.stream
  obtain ⟨final, drained, reached⟩ := Boundary.Buffered.drain_of_takes takes pending start
  have stays := Boundary.stays_drain fd pending held.world
  rw [drained] at stays
  have finished : (Boundary.Writer.buffered fd pending).finish held.world = final.close fd := by
    simp only [Boundary.Writer.finish, Boundary.Writer.flush, Boundary.Writer.closeTarget, drained,
      Boundary.Buffered.drain_nil]
  have performed := perform_endWriter sound ends found rfl live
  have plain : action.discards { handle, share } = none := by cases action <;> rfl
  have heard (host : Host) : action.farewell { handle, share } host ≠ .absent := by
    cases action <;> exact Answer.noConfusion
  have uncounted (host : Host) (taken : Nat) :
      action.farewell { handle, share } host ≠ .count taken := by
    cases action <;> exact Answer.noConfusion
  obtain ⟨tree, contexts, shares, ledger, parted⟩ := exists_parted
    (held.host.withoutWriter handle (.buffered fd pending)) share
  refine ⟨_, final, _, performed, heard _, uncounted _, reached, stays, ⟨?_, ?_, ?_⟩, ?_, ?_, ?_⟩
  · rfl
  · rfl
  · rw [plain, parted]
    rfl
  · refine ⟨tree, ?_⟩
    rw [plain, parted, ← finished]
    rfl
  · intro another other apart mine others
    have own : held.custody.Holds (.writer id) share :=
      Custody.holds_of_claim (claim?_writer found)
    obtain rfl := mine.unique own
    obtain ⟨after, gone, same⟩ := letGo_of_shared sound mine others apart.symm
      (held.host.withoutWriter handle (.buffered fd pending)) rfl
    have whole : (held.host.withoutWriter handle (.buffered fd pending)).parted other = after := by
      simp only [Host.parted, gone]
    rw [plain, whole]
    show after.boundary.world.tree = final.tree
    rw [same]
    show ((Boundary.Writer.buffered fd pending).finish held.world).tree = final.tree
    rw [finished]
    exact (World.keeps_close final fd).tree
  · intro writer there
    cases action with
    | write data => cases ends
    | flush => cases ends
    | close =>
        have closed := Arena.get?_set_self ({ handle, share, closed := true } : Writer) found
        obtain rfl := Option.some.inj (closed.symm.trans there)
        exact ⟨rfl, rfl⟩
    | drop => cases (Arena.get?_release_self held.writers id).symm.trans there
    | harvest => cases (Arena.get?_release_self held.writers id).symm.trans there

/-- Nothing happens to a writer that is over. -/
theorem perform_over (past : held.WriterOver id) (action : WriterAction) :
    ∃ answer after, held.perform (.writer id action) = .done (answer, after) ∧
      (∀ taken, answer ≠ .count taken) ∧ after.host = held.host ∧ Aside held after ∧
      after.WriterOver id := by
  cases found : held.writers.get? id with
  | none =>
      refine ⟨.absent, held, ?_, fun _ => Answer.noConfusion, rfl, ⟨rfl, rfl, rfl⟩, past⟩
      simp only [perform, found]
  | some writer =>
      obtain ⟨closed, plain⟩ := past writer found
      have ending (ends : (Action.writer id action).ending? = some (.writer id)) :=
        perform_endWriter_of_closed ends found closed
      have gone : ({ held with writers := held.writers.release id } : Holdings).WriterOver id := by
        intro other there
        cases (Arena.get?_release_self held.writers id).symm.trans there
      cases action with
      | write data =>
          exact ⟨_, held, perform_request_of_closed found closed (.write data),
            fun _ => Answer.noConfusion, rfl, ⟨rfl, rfl, rfl⟩, past⟩
      | flush =>
          exact ⟨_, held, perform_request_of_closed found closed .flush,
            fun _ => Answer.noConfusion, rfl, ⟨rfl, rfl, rfl⟩, past⟩
      | close =>
          refine ⟨_, _, ending rfl, fun _ => Answer.noConfusion, rfl, ⟨rfl, rfl, rfl⟩, ?_⟩
          intro other there
          cases (Arena.get?_set_self _ found).symm.trans there
          exact ⟨rfl, plain⟩
      | drop =>
          simp only [WriterAction.discards, plain] at ending
          exact ⟨_, _, ending rfl, fun _ => Answer.noConfusion, rfl, ⟨rfl, rfl, rfl⟩, gone⟩
      | harvest =>
          simp only [WriterAction.discards, WriterAction.farewell, plain] at ending
          exact ⟨_, _, ending rfl, fun _ => Answer.noConfusion, rfl, ⟨rfl, rfl, rfl⟩, gone⟩

end Holdings

end SessionStreams.Host
