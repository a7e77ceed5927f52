import SessionStreams.Proofs.Independence
import SessionStreams.Proofs.Safety

set_option autoImplicit false

namespace SessionStreams

namespace Boundary

/-- What sinks hold is not touched by flushing a writer. -/
theorem Writer.sinks_flush (writer : Writer) (world : World) (sink : Nat) :
    (writer.flush world).2.2.sinks.get? sink = world.sinks.get? sink := by
  cases writer with
  | buffered fd pending =>
      exact (stays_drain fd pending world).2.stays (.sink sink) World.sink_notMem_behind
  | fixed region length position => rfl
  | growing collecting => rfl

/-- What sinks hold is not touched by freeing a writer. -/
theorem Writer.sinks_finish (writer : Writer) (world : World) (sink : Nat) :
    (writer.finish world).sinks.get? sink = world.sinks.get? sink := by
  cases writer with
  | buffered fd pending =>
      exact ((Writer.buffered fd pending).within_finish world).stays (.sink sink)
        World.sink_notMem_behind
  | fixed region length position => rfl
  | growing collecting => rfl

end Boundary

namespace Host

open Boundary (Outcome Request)

/-- The ledger has no part in letting a share go. -/
theorem exists_parted_ledger (host : Host) (ledger : List Event) (share : Nat) :
    ∃ further, ({ host with ledger } : Host).parted share =
      { host.parted share with ledger := further } := by
  unfold parted letGo
  cases shared : host.shares.get? share with
  | none => exact ⟨_, rfl⟩
  | some state =>
      simp only [Outcome.live, Outcome.done_bind]
      by_cases only : state.holders ≤ 1
      · cases freed : host.boundary.freeContext (some state.session) <;>
          simp only [only, if_true, Outcome.done_bind, Outcome.aborted_bind,
            Outcome.undefined_bind] <;>
          exact ⟨_, rfl⟩
      · simp only [only, if_false]
        exact ⟨_, rfl⟩

/-- The host after the writer that writes to `target` was flushed. -/
def flushed (host : Host) (handle : Nat) (target : Boundary.Writer) : Host :=
  { host with
    boundary := { host.boundary with
      world := (target.flush host.boundary.world).2.2
      writers := host.boundary.writers.set handle (target.flush host.boundary.world).2.1 } }.note
        (.used (.writer handle))

/-- A writer that was flushed is freed as if it had not been, but for the ledger. -/
theorem exists_parted_flushed (host : Host) (handle share : Nat) (target : Boundary.Writer) :
    ∃ ledger, ((host.flushed handle target).withoutWriter handle
        (target.flush host.boundary.world).2.1).parted share =
      { (host.withoutWriter handle target).parted share with ledger } := by
  have same : (host.flushed handle target).withoutWriter handle
      (target.flush host.boundary.world).2.1 = { host.withoutWriter handle target with
        ledger := .freed (.writer handle) :: .used (.writer handle) ::
          .used (.writer handle) :: host.ledger } := by
    simp only [flushed, withoutWriter, note, target.finish_flush, Arena.release_set]
  rw [same]
  exact exists_parted_ledger _ _ share

/-- What a writer answers at its end depends on the sinks only. -/
theorem farewell_congr (action : WriterAction) (writer : Writer) {host other : Host}
    (same : ∀ sink, host.boundary.world.sinks.get? sink = other.boundary.world.sinks.get? sink) :
    action.farewell writer host = action.farewell writer other := by
  cases action with
  | harvest =>
      cases sink : writer.sink with
      | none => simp only [WriterAction.farewell, sink]
      | some sink => simp only [WriterAction.farewell, sink, Writer.collected, same]
  | _ => rfl

theorem farewell_withoutWriter (host : Host) (handle share : Nat) (target : Boundary.Writer)
    (action : WriterAction) (writer : Writer) :
    action.farewell writer ((host.withoutWriter handle target).parted share) =
      action.farewell writer host := by
  obtain ⟨tree, contexts, shares, ledger, parted⟩ :=
    exists_parted (host.withoutWriter handle target) share
  rw [parted]
  exact farewell_congr action writer (target.sinks_finish host.boundary.world)

namespace Holdings

variable {held : Holdings} {id : Nat} {writer : Writer}

/-- Dropping and harvesting a writer leave the same behind, and the harvest is `yield`. -/
def Leaves (held : Holdings) (id : Nat) (yield : Answer) (after : Holdings) : Prop :=
  held.perform (.writer id .drop) = .done (.nothing, after) ∧
    held.perform (.writer id .harvest) = .done (yield, after)

theorem leaves_of_open (sound : Sound held.custody) (found : held.writers.get? id = some writer)
    (opened : writer.closed = false) {target : Boundary.Writer}
    (live : held.host.boundary.writers.get? writer.handle = some target) :
    held.Leaves id (WriterAction.harvest.farewell writer held.host) { held with
      host := ((held.host.withoutWriter writer.handle target).parted writer.share).mapWorld
        (discard writer.sink)
      writers := held.writers.release id } := by
  refine ⟨perform_endWriter sound rfl found opened live, ?_⟩
  rw [perform_endWriter sound rfl found opened live, farewell_withoutWriter]
  rfl

theorem leaves_of_closed (found : held.writers.get? id = some writer)
    (closed : writer.closed = true) :
    held.Leaves id (WriterAction.harvest.farewell writer held.host) { held with
      host := held.host.mapWorld (discard writer.sink)
      writers := held.writers.release id } :=
  ⟨perform_endWriter_of_closed rfl found closed, perform_endWriter_of_closed rfl found closed⟩

theorem exists_leaves (sound : Sound held.custody) (found : held.writers.get? id = some writer) :
    ∃ final, held.Leaves id (WriterAction.harvest.farewell writer held.host) final := by
  cases closed : writer.closed with
  | true => exact ⟨_, leaves_of_closed found closed⟩
  | false =>
      obtain ⟨target, live⟩ := Writer.exists_target sound closed (claim?_writer found)
      exact ⟨_, leaves_of_open sound found closed live⟩

/-- A writer that has been closed leaves just its sink behind, wherever it was closed. -/
theorem leaves_of_set (found : held.writers.get? id = some writer) (host : Host) :
    ({ held with host, writers := held.writers.set id { writer with closed := true } } :
      Holdings).Leaves id (WriterAction.harvest.farewell writer host) { held with
        host := host.mapWorld (discard writer.sink)
        writers := held.writers.release id } := by
  let final : Holdings :=
    { held with host, writers := held.writers.set id { writer with closed := true } }
  have there : final.writers.get? id = some { writer with closed := true } :=
    Arena.get?_set_self _ found
  have leaves := leaves_of_closed there rfl
  simp only [final, Arena.release_set] at leaves
  exact leaves

/-- A writer is closed, and what it would answer to a harvest stays the same. -/
theorem perform_close (sound : Sound held.custody) (found : held.writers.get? id = some writer) :
    ∃ host, held.perform (.writer id .close) = .done (.nothing, { held with
        host, writers := held.writers.set id { writer with closed := true } }) ∧
      WriterAction.harvest.farewell writer host =
        WriterAction.harvest.farewell writer held.host := by
  cases closed : writer.closed with
  | true => exact ⟨_, perform_endWriter_of_closed rfl found closed, rfl⟩
  | false =>
      obtain ⟨target, live⟩ := Writer.exists_target sound closed (claim?_writer found)
      exact ⟨_, perform_endWriter sound rfl found closed live, farewell_withoutWriter _ _ _ _ _ _⟩

/-- After a close or a flush the writer is still there, and will leave behind and yield what it
would have without. -/
def Spared (held : Holdings) (id : Nat) (action : WriterAction) : Prop :=
  ∃ answer middle yield one two, held.perform (.writer id action) = .done (answer, middle) ∧
    (middle.writers.get? id).isSome ∧ held.Leaves id yield one ∧ middle.Leaves id yield two ∧
    two.unrecorded = one.unrecorded

theorem spared_close (sound : Sound held.custody) (found : held.writers.get? id = some writer) :
    held.Spared id .close := by
  have there := Arena.get?_set_self { writer with closed := true } found
  cases closed : writer.closed with
  | true =>
      have ended : held.perform (.writer id .close) = _ :=
        perform_endWriter_of_closed rfl found closed
      refine ⟨_, _, _, _, _, ended, ?_, leaves_of_closed found closed,
        leaves_of_set found held.host, rfl⟩
      simp only [WriterAction.rest, there, Option.isSome_some]
  | false =>
      obtain ⟨target, live⟩ := Writer.exists_target sound closed (claim?_writer found)
      have ended : held.perform (.writer id .close) = _ :=
        perform_endWriter sound rfl found closed live
      have later := leaves_of_set found
        ((held.host.withoutWriter writer.handle target).parted writer.share)
      rw [farewell_withoutWriter] at later
      refine ⟨_, _, _, _, _, ended, ?_, leaves_of_open sound found closed live, later, rfl⟩
      simp only [WriterAction.rest, there, Option.isSome_some]

theorem spared_flush (sound : Sound held.custody) (found : held.writers.get? id = some writer) :
    held.Spared id .flush := by
  cases closed : writer.closed with
  | true =>
      have refused := perform_request_of_closed found closed .flush
      have leaves := leaves_of_closed found closed
      exact ⟨_, _, _, _, _, refused, by rw [found]; rfl, leaves, leaves, rfl⟩
  | false =>
      obtain ⟨target, live⟩ := Writer.exists_target sound closed (claim?_writer found)
      obtain ⟨handle, share, _, sink⟩ := writer
      cases closed
      have done := perform_request .flush found live
      let middle : Holdings := { held with host := held.host.flushed handle target }
      have still : middle.host.boundary.writers.get? handle =
          some (target.flush held.host.boundary.world).2.1 := Arena.get?_set_self _ live
      have there : middle.writers.get? id = some { handle, share, sink } := found
      have steady : Sound middle.custody := sound_perform sound done
      have later := leaves_of_open steady there rfl still
      have yields : WriterAction.harvest.farewell { handle, share, sink } middle.host =
          WriterAction.harvest.farewell { handle, share, sink } held.host :=
        farewell_congr _ _ (target.sinks_flush held.host.boundary.world)
      rw [yields] at later
      refine ⟨_, middle, _, _, _, done, ?_, leaves_of_open sound found rfl live, later, ?_⟩
      · rw [there, Option.isSome_some]
      · obtain ⟨ledger, parted⟩ := exists_parted_flushed held.host handle share target
        simp only [middle, parted]
        rfl

theorem Leaves.unique {yield other : Answer} {one two : Holdings}
    (leaves : held.Leaves id yield one) (also : held.Leaves id other two) :
    yield = other ∧ one = two := by
  have same := leaves.2.symm.trans also.2
  cases same
  exact ⟨rfl, rfl⟩

/-- Closing and flushing, any number of times and in any order, make no difference to the end. -/
theorem run_spared (sound : Sound held.custody) {yield : Answer} {final : Holdings}
    (there : (held.writers.get? id).isSome) (leaves : held.Leaves id yield final)
    {before : List WriterAction} (brief : ∀ action ∈ before, action = .close ∨ action = .flush) :
    ∃ answers middle after, held.run (before.map (.writer id)) = .done (answers, middle) ∧
      middle.Leaves id yield after ∧ after.unrecorded = final.unrecorded := by
  induction before generalizing held final with
  | nil => exact ⟨[], held, final, rfl, leaves, rfl⟩
  | cons action rest ih =>
      obtain ⟨writer, found⟩ := Option.isSome_iff_exists.mp there
      have spared : held.Spared id action := by
        rcases brief action List.mem_cons_self with rfl | rfl
        · exact spared_close sound found
        · exact spared_flush sound found
      obtain ⟨answer, middle, also, one, two, done, still, first, second, same⟩ := spared
      obtain ⟨rfl, rfl⟩ := leaves.unique first
      obtain ⟨answers, final, after, ran, ends, equal⟩ :=
        ih (sound_perform sound done) still second fun action inside =>
          brief action (List.mem_cons_of_mem _ inside)
      exact ⟨answer :: answers, final, after, run_cons done ran, ends, equal.trans same⟩

/-- A run with one action more. -/
theorem run_concat {actions : List Action} {last : Action} {answer : Answer}
    {answers : List Answer} {middle after : Holdings}
    (ran : held.run actions = .done (answers, middle))
    (done : middle.perform last = .done (answer, after)) :
    held.run (actions ++ [last]) = .done (answers ++ [answer], after) := by
  induction actions generalizing held answers with
  | nil =>
      cases ran
      exact run_cons done rfl
  | cons action rest ih =>
      cases performed : held.perform action with
      | undefined => simp only [run, performed, Outcome.undefined_bind, reduceCtorEq] at ran
      | aborted message => simp only [run, performed, Outcome.aborted_bind, reduceCtorEq] at ran
      | done first =>
          obtain ⟨one, next⟩ := first
          cases further : next.run rest with
          | undefined =>
              simp only [run, performed, Outcome.done_bind, further, Outcome.undefined_bind,
                reduceCtorEq] at ran
          | aborted message =>
              simp only [run, performed, Outcome.done_bind, further, Outcome.aborted_bind,
                reduceCtorEq] at ran
          | done others =>
              rw [run_cons performed further] at ran
              cases ran
              exact run_cons performed (ih further)

/-- All ways to end a writer agree. Whatever turns a program has taken, a writer that it drops or
harvests, at once or after any number of closes and flushes, leaves the same behind but for the
ledger: the same world, sessions and streams. A harvest always answers the same, which is all that
was collected if the writer collects. -/
theorem endings_agree (world : World) (turns : List Turn) :
    ∃ held, (start world).proceed turns = .done held ∧
      ∀ id writer, held.writers.get? id = some writer → ∃ yield final,
        (∀ sink, writer.sink = some sink → yield = .bytes (Writer.collected held.host sink)) ∧
        ∀ before : List WriterAction, (∀ action ∈ before, action = .close ∨ action = .flush) →
          (∃ answers after,
            held.run (before.map (.writer id) ++ [.writer id .drop]) =
              .done (answers ++ [.nothing], after) ∧ after.unrecorded = final) ∧
          ∃ answers after,
            held.run (before.map (.writer id) ++ [.writer id .harvest]) =
              .done (answers ++ [yield], after) ∧ after.unrecorded = final := by
  obtain ⟨held, done, sound, -⟩ := proceed_sound world turns
  refine ⟨held, done, fun id writer found => ?_⟩
  obtain ⟨final, leaves⟩ := exists_leaves sound found
  refine ⟨WriterAction.harvest.farewell writer held.host, final.unrecorded,
    fun sink collects => ?_, fun before brief => ?_⟩
  · simp only [WriterAction.farewell, collects]
  · obtain ⟨answers, middle, after, ran, ends, same⟩ :=
      run_spared sound (by rw [found]; rfl) leaves brief
    exact ⟨⟨answers, after, run_concat ran ends.1, same⟩,
      answers, after, run_concat ran ends.2, same⟩

theorem endings_agree_two_closes :
    ∃ held final, (start .empty).proceed [.act (.build { home := some [Path.slash] }),
          .act (.context 0 .allocatingWriter), .act (.writer 0 (.write [1, 2]))] = .done held ∧
      (∃ answers after, held.run [.writer 0 .close, .writer 0 .close, .writer 0 .drop] =
          .done (answers ++ [.nothing], after) ∧ after.unrecorded = final) ∧
      ∃ answers after, held.run [.writer 0 .close, .writer 0 .close, .writer 0 .harvest] =
          .done (answers ++ [.bytes [1, 2]], after) ∧ after.unrecorded = final := by
  obtain ⟨held, done, agree⟩ := endings_agree .empty [.act (.build { home := some [Path.slash] }),
    .act (.context 0 .allocatingWriter), .act (.writer 0 (.write [1, 2]))]
  have checked : ((start .empty).proceed [.act (.build { home := some [Path.slash] }),
        .act (.context 0 .allocatingWriter), .act (.writer 0 (.write [1, 2]))] >>= fun held =>
      Outcome.done (decide (held.writers.get? 0 = some { handle := 0, share := 0, sink := some 0 } ∧
        Writer.collected held.host 0 = [1, 2]))) = .done true := by decide +kernel
  rw [done] at checked
  obtain ⟨found, collected⟩ := of_decide_eq_true (Outcome.done.inj checked)
  obtain ⟨yield, final, yields, ends⟩ := agree 0 _ found
  obtain rfl := yields 0 rfl
  obtain ⟨dropped, harvested⟩ := ends [.close, .close] (by simp)
  rw [collected] at harvested
  exact ⟨held, final, done, dropped, harvested⟩

end Holdings

end Host

end SessionStreams
