import SessionStreams.Proofs.Safety
import SessionStreams.Proofs.Vessels

set_option autoImplicit false

/- How a host program uses a writer over a vessel. A writer is open, closed or gone (`Stage`), and
at each stage its answers are determined by what was accepted before (`Phase.act`); writing as a
whole fails just where there is not enough room, and has filled the vessel then (`Phase.writeAll`).
Main statement (`Poured.keeps`): at any time all data that was given to the writer before its end is
in the vessel, as far as there is room, and in one that does not go with the writer it stays. -/

namespace SessionStreams

namespace Host

/-- How far a writer has come: it is open, it was closed but is still held, or nobody holds it. -/
inductive Stage where
  | flowing
  | closed
  | gone
deriving DecidableEq

def Stage.next : Stage → WriterAction → Stage
  | gone, _ => gone
  | _, .drop => gone
  | _, .harvest => gone
  | _, .close => closed
  | stage, _ => stage

end Host

namespace Boundary.Vessel

open Host (Answer Stage WriterAction)

/-- The sink that a writer of the host collects in. -/
def sink? : Vessel → Option Nat
  | lent _ _ _ => none
  | sink id _ => some id

/-- What a writer is used up for: all that it collected, if it is one that collects. -/
def harvest (vessel : Vessel) (accepted : Bytes) : Answer :=
  match vessel with
  | lent _ _ _ => .failed ⟨.invalidOperation, "Writer does not collect data"⟩
  | sink _ initial => .bytes (initial.bytes ++ accepted)

/-- The answer of a writer that has accepted so much. -/
def reply (vessel : Vessel) (accepted : Bytes) : Stage → WriterAction → Answer
  | .gone, _ => .absent
  | _, .drop => .nothing
  | _, .close => .nothing
  | _, .harvest => vessel.harvest accepted
  | .closed, _ => .failed (.released "Writer")
  | .flowing, .write data => .count (vessel.takes accepted.length data).length
  | .flowing, .flush => .nothing

/-- How writing data as a whole ends, while the writer is open. -/
def replyAll (vessel : Vessel) (accepted data : Bytes) : Except Host.StreamError Unit :=
  if vessel.takes accepted.length data = data then .ok () else .error .nothingWritten

end Boundary.Vessel

namespace Host

open Boundary (Outcome Vessel)

/-- A use of a writer: an action, or data that is written as a whole, with the answer. -/
inductive WriterUse where
  | act (action : WriterAction) (answer : Answer)
  | writeAll (data : Bytes) (answer : Except StreamError Unit)

namespace WriterUse

def Made (id : Nat) (use : WriterUse) (held after : Holdings) : Prop :=
  match use with
  | act action answer => held.perform (.writer id action) = .done (answer, after)
  | writeAll data answer => ∃ writer host, held.writers.get? id = some writer ∧
      writer.writeAll data held.host = .done (answer, host) ∧ after = { held with host }

/-- The data that was to be written. -/
def data : WriterUse → Bytes
  | act (.write data) _ => data
  | writeAll data _ => data
  | _ => []

/-- What was accepted: what a write was told, and all data that was written as a whole, or as much
of it as there was room for. -/
def accepted (vessel : Vessel) (before : Nat) : WriterUse → Bytes
  | act (.write data) (.count taken) => data.take taken
  | writeAll data (.ok _) => data
  | writeAll data (.error .nothingWritten) => vessel.takes before data
  | _ => []

def next (stage : Stage) : WriterUse → Stage
  | act action _ => stage.next action
  | writeAll _ _ => stage

theorem flowing_of_next {stage : Stage} {use : WriterUse} (still : use.next stage = .flowing) :
    stage = .flowing := by
  cases use with
  | writeAll data answer => exact still
  | act action answer =>
      cases stage with
      | flowing => rfl
      | closed => cases action <;> cases still
      | gone => cases action <;> cases still

theorem data_of_ends {use : WriterUse} (ends : use.next .flowing ≠ .flowing) : use.data = [] := by
  cases use with
  | writeAll data answer => exact absurd rfl ends
  | act action answer => cases action <;> first | rfl | exact absurd rfl ends

theorem accepted_of_not_write {action : WriterAction} (other : ∀ data, action ≠ .write data)
    {answer : Answer} {vessel : Vessel} {before : Nat} :
    (act action answer).accepted vessel before = [] := by
  cases action with
  | write data => exact absurd rfl (other data)
  | _ => rfl

/-- An open writer accepts what the vessel takes of the data, and another one nothing. -/
theorem accepted_reply (vessel : Vessel) (accepted : Bytes) (stage : Stage) (action : WriterAction) :
    (act action (vessel.reply accepted stage action)).accepted vessel accepted.length =
      if stage = .flowing then
        vessel.takes accepted.length (act action (vessel.reply accepted stage action)).data
      else [] := by
  cases stage with
  | gone => cases action <;> rfl
  | closed => cases action <;> rfl
  | flowing =>
      rw [if_pos rfl]
      cases action with
      | write data => exact (vessel.takes_eq_take _ data).symm
      | _ => exact (vessel.takes_nil _).symm

theorem accepted_reply_of_ended {stage : Stage} (ended : stage ≠ .flowing) (vessel : Vessel)
    (accepted : Bytes) (action : WriterAction) :
    (act action (vessel.reply accepted stage action)).accepted vessel accepted.length = [] :=
  (accepted_reply vessel accepted stage action).trans (if_neg ended)

/-- Once a writer is closed, a write is told of no bytes. -/
theorem reply_write_of_ended {stage : Stage} (ended : stage ≠ .flowing) (vessel : Vessel)
    (accepted data : Bytes) (taken : Nat) :
    vessel.reply accepted stage (.write data) ≠ .count taken := by
  cases stage with
  | flowing => exact absurd rfl ended
  | closed => exact nofun
  | gone => exact nofun

end WriterUse

/-- All that was accepted. -/
def acceptedOver (vessel : Vessel) (log : List WriterUse) : Bytes :=
  log.foldl (fun before use => before ++ use.accepted vessel before.length) []

theorem acceptedOver_concat (vessel : Vessel) (log : List WriterUse) (use : WriterUse) :
    acceptedOver vessel (log ++ [use]) =
      acceptedOver vessel log ++ use.accepted vessel (acceptedOver vessel log).length :=
  List.foldl_concat _ _ _ _

/-- How far the writer has come. -/
def stageAfter (log : List WriterUse) : Stage := log.foldl WriterUse.next .flowing

theorem stageAfter_concat (log : List WriterUse) (use : WriterUse) :
    stageAfter (log ++ [use]) = use.next (stageAfter log) := List.foldl_concat _ _ _ _

theorem stageAfter_eq_flowing_iff (log : List WriterUse) :
    stageAfter log = .flowing ↔ ∀ use ∈ log, use.next .flowing = .flowing := by
  induction log using List.reverseRecOn with
  | nil => exact iff_of_true rfl nofun
  | append_singleton log use ih =>
      rw [stageAfter_concat, List.forall_mem_append, List.forall_mem_singleton, ← ih]
      refine ⟨fun still => ?_, fun ⟨before, next⟩ => ?_⟩
      · -- No use opens a writer again.
        have before := WriterUse.flowing_of_next still
        exact ⟨before, before ▸ still⟩
      · rw [before]
        exact next

/-- All data that was to be written while the writer was open. -/
def givenBeforeEnd (log : List WriterUse) : Bytes :=
  (log.takeWhile fun use => use.next .flowing = .flowing).flatMap WriterUse.data

theorem givenBeforeEnd_concat (log : List WriterUse) (use : WriterUse) :
    givenBeforeEnd (log ++ [use]) =
      givenBeforeEnd log ++ if stageAfter log = .flowing then use.data else [] := by
  unfold givenBeforeEnd
  by_cases flowing : stageAfter log = .flowing
  · have opens : ∀ use ∈ log, decide (use.next .flowing = .flowing) = true := fun use inside =>
      decide_eq_true ((stageAfter_eq_flowing_iff log).mp flowing use inside)
    rw [if_pos flowing, List.takeWhile_append_of_pos opens, List.takeWhile_eq_self_iff.mpr opens,
      List.flatMap_append]
    congr 1
    -- A use that is the end of the writer is left out, but it has no data anyway.
    by_cases still : use.next .flowing = .flowing
    · simp only [List.takeWhile_cons, still, decide_true, if_true, List.takeWhile_nil,
        List.flatMap_singleton]
    · have nothing : use.data = [] := WriterUse.data_of_ends still
      simp only [List.takeWhile_cons, still, decide_false, Bool.false_eq_true, if_false,
        List.flatMap_nil, nothing]
  · have short : (log.takeWhile fun use => use.next .flowing = .flowing).length ≠ log.length := by
      intro whole
      have same := (List.takeWhile_prefix _).eq_of_length whole
      refine flowing ((stageAfter_eq_flowing_iff log).mpr fun use inside => ?_)
      exact of_decide_eq_true (List.takeWhile_eq_self_iff.mp same use inside)
    rw [if_neg flowing, List.append_nil, List.takeWhile_append, if_neg short]

example : givenBeforeEnd [.act (.write [1, 2]) (.count 2), .act .close .nothing,
    .act (.write [3]) (.failed (.released "Writer"))] = [1, 2] := by decide

/-- A writer over a vessel that accepted these bytes. A sink goes with its writer. -/
inductive Phase (vessel : Vessel) (accepted : Bytes) (id : Nat) (held : Holdings) : Stage → Prop where
  | flowing {handle share : Nat}
      (found : held.writers.get? id = some { handle, share, sink := vessel.sink? })
      (live : held.host.boundary.writers.get? handle = some (vessel.writer accepted.length))
      (holds : vessel.Holds accepted held.world) : Phase vessel accepted id held .flowing
  | closed {handle share : Nat}
      (found : held.writers.get? id = some { handle, share, closed := true, sink := vessel.sink? })
      (holds : vessel.Holds accepted held.world) : Phase vessel accepted id held .closed
  | gone (known : held.Known (.writer id)) (absent : held.writers.get? id = none)
      (holds : vessel.sink? = none → vessel.Holds accepted held.world) :
      Phase vessel accepted id held .gone

namespace Phase

open Holdings

variable {vessel : Vessel} {accepted : Bytes} {id : Nat} {held after : Holdings} {stage : Stage}

theorem known (phase : Phase vessel accepted id held stage) : held.Known (.writer id) := by
  cases phase with
  | flowing found live holds => exact Arena.lt_fresh_of_get? found
  | closed found holds => exact Arena.lt_fresh_of_get? found
  | gone known absent holds => exact known

/-- What was accepted is there as long as what it is in is. -/
theorem holds (phase : Phase vessel accepted id held stage)
    (stays : stage = .gone → vessel.sink? = none) : vessel.Holds accepted held.world := by
  cases phase with
  | flowing found live holds => exact holds
  | closed found holds => exact holds
  | gone known absent holds => exact holds (stays rfl)

theorem exists_writer (phase : Phase vessel accepted id held .flowing) :
    ∃ writer, held.writers.get? id = some writer := by
  cases phase with
  | flowing found live holds => exact ⟨_, found⟩

theorem holds_of_same {world other : World} (holds : vessel.Holds accepted world)
    (memory : other.memory = world.memory) (sinks : other.sinks = world.sinks) :
    vessel.Holds accepted other := by
  refine holds.leaves fun spot inside => ?_
  cases vessel with
  | lent region content enough =>
      obtain ⟨number, -, rfl⟩ := inside
      exact congrArg (·.get? number) memory
  | sink number initial =>
      obtain rfl : spot = .sink number := inside
      exact congrArg (·.get? number) sinks

/-- What is left when an open or a closed writer ends, in a world with the same memory in which only
what goes with the writer was given up. -/
theorem of_end (stage : Stage) (alive : stage ≠ .gone) {writer : Writer}
    (found : held.writers.get? id = some writer) (sink : writer.sink = vessel.sink?)
    (holds : vessel.Holds accepted held.world)
    (action : WriterAction) (ends : (Action.writer id action).ending? = some (.writer id))
    {world : World} {host : Host}
    (memory : world.memory = held.world.memory) (sinks : world.sinks = held.world.sinks)
    (settled : host.boundary.world = discard (action.discards writer) world) :
    Phase vessel accepted id { held with host, writers := action.rest held.writers id writer }
      (stage.next action) := by
  have same := holds_of_same holds memory sinks
  have gone (settled : host.boundary.world = discard writer.sink world) :
      Phase vessel accepted id { held with host, writers := held.writers.release id } .gone := by
    refine .gone ?_ (Arena.get?_release_self _ _) fun sinkless => ?_
    · show id < (held.writers.release id).fresh
      rw [Arena.fresh_release]
      exact Arena.lt_fresh_of_get? found
    · rw [sink, sinkless] at settled
      show vessel.Holds accepted host.boundary.world
      rw [settled]
      exact same
  cases action with
  | write data => cases ends
  | flush => cases ends
  | close =>
      obtain ⟨handle, share, _, _⟩ := writer
      cases sink
      have there := Arena.get?_set_self
        ({ handle, share, closed := true, sink := vessel.sink? } : Writer) found
      have still : vessel.Holds accepted host.boundary.world := by
        rw [settled]
        exact same
      let rest := held.writers.set id { handle, share, closed := true, sink := vessel.sink? }
      have closed : Phase vessel accepted id { held with host, writers := rest } .closed :=
        .closed there still
      cases stage with
      | gone => exact absurd rfl alive
      | _ => exact closed
  | drop =>
      cases stage with
      | gone => exact absurd rfl alive
      | _ => exact gone settled
  | harvest =>
      cases stage with
      | gone => exact absurd rfl alive
      | _ => exact gone settled

theorem farewell_eq {writer : Writer} (sink : writer.sink = vessel.sink?) {host : Host}
    (holds : vessel.Holds accepted host.boundary.world) :
    WriterAction.harvest.farewell writer host = vessel.harvest accepted := by
  cases vessel with
  | lent region content enough => simp only [WriterAction.farewell, sink, Vessel.sink?, Vessel.harvest]
  | sink number initial =>
      have there : host.boundary.world.sinks.get? number = some (initial.grown accepted) := holds
      simp only [WriterAction.farewell, sink, Vessel.sink?, Vessel.harvest, Writer.collected, there,
        Sink.bytes_grown]

theorem write_eq (phase : Phase vessel accepted id held .flowing) {writer : Writer}
    (found : held.writers.get? id = some writer) (data : Bytes) :
    ∃ host, writer.write data held.host =
        .done (.ok (vessel.takes accepted.length data).length, host) ∧
      Phase vessel (accepted ++ vessel.takes accepted.length data) id { held with host }
        .flowing := by
  cases phase with
  | @flowing handle share there live holds =>
      obtain rfl := Option.some.inj (there.symm.trans found)
      obtain ⟨world, written, further⟩ := Vessel.write holds data
      have opened : ({ handle, share, sink := vessel.sink? } : Writer).closed = false := rfl
      have done := Writer.write_eq opened live data
      simp only [Boundary.tryWrite, Boundary.Loan.view, written, mapError_ok] at done
      exact ⟨_, done, .flowing found (Arena.get?_set_self _ live) further⟩

theorem write (phase : Phase vessel accepted id held .flowing) (data : Bytes) :
    ∃ after, held.perform (.writer id (.write data)) =
        .done (.count (vessel.takes accepted.length data).length, after) ∧
      Phase vessel (accepted ++ vessel.takes accepted.length data) id after .flowing := by
  cases phase with
  | flowing found live holds =>
      obtain ⟨host, done, further⟩ := write_eq (.flowing found live holds) found data
      refine ⟨_, ?_, further⟩
      simp only [perform, found, performOnWriter, done, Outcome.done_bind]
      rfl

theorem flush (phase : Phase vessel accepted id held .flowing) :
    ∃ after, held.perform (.writer id .flush) = .done (.nothing, after) ∧
      Phase vessel accepted id after .flowing := by
  cases phase with
  | flowing found live holds =>
      have performed := perform_request .flush found live
      simp only [Boundary.Request.action, Boundary.Writer.serve, vessel.flush, Except.map,
        mapError_ok] at performed
      exact ⟨_, performed, .flowing found (Arena.get?_set_self _ live) holds⟩

theorem end_of_flowing (sound : Sound held.custody)
    (phase : Phase vessel accepted id held .flowing) (action : WriterAction)
    (ends : (Action.writer id action).ending? = some (.writer id)) :
    ∃ after, held.perform (.writer id action) =
        .done (vessel.reply accepted .flowing action, after) ∧
      Phase vessel accepted id after (Stage.flowing.next action) := by
  cases phase with
  | @flowing handle share found live holds =>
      have performed := perform_endWriter sound ends found rfl live
      obtain ⟨tree, contexts, shares, ledger, parted⟩ := exists_parted
        (held.host.withoutWriter handle (vessel.writer accepted.length)) share
      have finished := vessel.finish accepted.length held.host.boundary.world
      have world : ((held.host.withoutWriter handle (vessel.writer accepted.length)).parted
          share).boundary.world = { held.world with tree } := by
        rw [parted]
        show { (vessel.writer accepted.length).finish held.host.boundary.world with tree } = _
        rw [finished]
      have still : vessel.Holds accepted ((held.host.withoutWriter handle
          (vessel.writer accepted.length)).parted share).boundary.world := by
        rw [world]
        exact holds_of_same holds rfl rfl
      have answer : action.farewell { handle, share, sink := vessel.sink? }
          ((held.host.withoutWriter handle (vessel.writer accepted.length)).parted share) =
            vessel.reply accepted .flowing action := by
        cases action with
        | harvest => exact farewell_eq rfl still
        | close => rfl
        | drop => rfl
        | _ => cases ends
      rw [answer] at performed
      refine ⟨_, performed, of_end .flowing nofun found rfl holds action ends ?_ ?_ rfl⟩
      · rw [world]
      · rw [world]

theorem end_of_closed (phase : Phase vessel accepted id held .closed) (action : WriterAction)
    (ends : (Action.writer id action).ending? = some (.writer id)) :
    ∃ after, held.perform (.writer id action) =
        .done (vessel.reply accepted .closed action, after) ∧
      Phase vessel accepted id after (Stage.closed.next action) := by
  cases phase with
  | @closed handle share found holds =>
      have performed := perform_endWriter_of_closed ends found rfl
      have answer : action.farewell { handle, share, closed := true, sink := vessel.sink? } held.host =
          vessel.reply accepted .closed action := by
        cases action with
        | harvest => exact farewell_eq rfl holds
        | close => rfl
        | drop => rfl
        | _ => cases ends
      rw [answer] at performed
      exact ⟨_, performed, of_end .closed nofun found rfl holds action ends rfl rfl rfl⟩

/-- Every action is answered as the stage tells, and what is accepted goes into the vessel. -/
theorem act (sound : Sound held.custody) (phase : Phase vessel accepted id held stage)
    (action : WriterAction) :
    ∃ after, held.perform (.writer id action) = .done (vessel.reply accepted stage action, after) ∧
      Phase vessel (accepted ++ (WriterUse.act action (vessel.reply accepted stage action)).accepted
        vessel accepted.length) id after (stage.next action) := by
  cases stage with
  | gone =>
      cases phase with
      | gone known absent holds =>
          have nothing : (WriterUse.act action .absent).accepted vessel accepted.length = [] := by
            cases action <;> rfl
          refine ⟨held, ?_, ?_⟩
          · simp only [perform, absent]
            cases action <;> rfl
          · have answer : vessel.reply accepted .gone action = .absent := by cases action <;> rfl
            rw [answer, nothing, List.append_nil]
            cases action <;> exact .gone known absent holds
  | closed =>
      have ended : Stage.closed ≠ .flowing := Stage.noConfusion
      have nothing := WriterUse.accepted_reply_of_ended ended vessel accepted action
      rw [nothing, List.append_nil]
      cases action with
      | write data =>
          cases phase with
          | closed found holds =>
              exact ⟨held, perform_request_of_closed found rfl (.write data), .closed found holds⟩
      | flush =>
          cases phase with
          | closed found holds =>
              exact ⟨held, perform_request_of_closed found rfl .flush, .closed found holds⟩
      | close => exact phase.end_of_closed .close rfl
      | drop => exact phase.end_of_closed .drop rfl
      | harvest => exact phase.end_of_closed .harvest rfl
  | flowing =>
      cases action with
      | write data =>
          obtain ⟨after, performed, further⟩ := phase.write data
          refine ⟨after, performed, ?_⟩
          show Phase vessel (accepted ++ data.take (vessel.takes accepted.length data).length) id after
            .flowing
          rw [← vessel.takes_eq_take]
          exact further
      | flush =>
          obtain ⟨after, performed, further⟩ := phase.flush
          exact ⟨after, performed, (List.append_nil accepted).symm ▸ further⟩
      | close =>
          obtain ⟨after, performed, further⟩ := phase.end_of_flowing sound .close rfl
          exact ⟨after, performed, (List.append_nil accepted).symm ▸ further⟩
      | drop =>
          obtain ⟨after, performed, further⟩ := phase.end_of_flowing sound .drop rfl
          exact ⟨after, performed, (List.append_nil accepted).symm ▸ further⟩
      | harvest =>
          obtain ⟨after, performed, further⟩ := phase.end_of_flowing sound .harvest rfl
          exact ⟨after, performed, (List.append_nil accepted).symm ▸ further⟩

theorem harvest (sound : Sound held.custody) (phase : Phase vessel accepted id held stage)
    (alive : stage ≠ .gone) :
    ∃ next, held.perform (.writer id .harvest) = .done (vessel.harvest accepted, next) := by
  obtain ⟨next, performed, -⟩ := phase.act sound .harvest
  cases stage with
  | gone => exact absurd rfl alive
  | _ => exact ⟨next, performed⟩

/-- An action that is told of no bytes leaves what was accepted. -/
theorem act_idle (sound : Sound held.custody) (phase : Phase vessel accepted id held stage)
    {action : WriterAction}
    (nothing : (WriterUse.act action (vessel.reply accepted stage action)).accepted vessel
      accepted.length = []) :
    ∃ after, held.perform (.writer id action) = .done (vessel.reply accepted stage action, after) ∧
      Phase vessel accepted id after (stage.next action) := by
  obtain ⟨after, performed, further⟩ := phase.act sound action
  rw [nothing, List.append_nil] at further
  exact ⟨after, performed, further⟩

/-- Where there is no room for a byte, data that is not empty cannot be written. -/
theorem writeAll_of_full (phase : Phase vessel accepted id held .flowing) {writer : Writer}
    (found : held.writers.get? id = some writer) {data : Bytes} (nonempty : data ≠ [])
    (full : vessel.takes accepted.length data = []) :
    ∃ host, writer.writeAll data held.host = .done (.error .nothingWritten, host) ∧
      Phase vessel accepted id { held with host } .flowing := by
  obtain ⟨host, done, further⟩ := phase.write_eq found data
  rw [full, List.length_nil] at done
  rw [full, List.append_nil] at further
  refine ⟨host, ?_, further⟩
  cases data with
  | nil => exact absurd rfl nonempty
  | cons byte rest => rw [Writer.writeAll, done, Outcome.done_bind]

/-- All that there is room for is written, and it fails just where that is not all. -/
theorem writeAll (phase : Phase vessel accepted id held .flowing) {writer : Writer}
    (found : held.writers.get? id = some writer) (data : Bytes) :
    ∃ host, writer.writeAll data held.host = .done (vessel.replyAll accepted data, host) ∧
      Phase vessel (accepted ++ vessel.takes accepted.length data) id { held with host }
        .flowing := by
  have front := vessel.takes_eq_take accepted.length data
  cases data with
  | nil =>
      rw [List.take_nil] at front
      refine ⟨held.host, ?_, ?_⟩
      · rw [Writer.writeAll, Vessel.replyAll, if_pos front]
      · rw [front, List.append_nil]
        exact phase
  | cons byte rest =>
      obtain ⟨middle, done, further⟩ := phase.write_eq found (byte :: rest)
      have behind := vessel.takes_rest accepted.length (byte :: rest)
      rw [Writer.writeAll, done, Outcome.done_bind]
      generalize part : vessel.takes accepted.length (byte :: rest) = taken at *
      cases count : taken.length with
      | zero =>
          have nothing : taken = [] := List.eq_nil_of_length_eq_zero count
          refine ⟨middle, ?_, further⟩
          rw [Vessel.replyAll, part, nothing, if_neg (List.cons_ne_nil byte rest).symm]
      | succ more =>
          rw [count] at front behind
          rw [List.drop_succ_cons] at behind
          by_cases all : rest.drop more = []
          · refine ⟨middle, ?_, further⟩
            have whole : taken = byte :: rest := by
              rw [front, List.take_succ_cons, List.take_of_length_le (List.drop_eq_nil_iff.mp all)]
            show writer.writeAll (rest.drop more) middle = _
            rw [all, Writer.writeAll, Vessel.replyAll, part, if_pos whole]
          · -- The first write came to the end of the room, so the second takes nothing.
            have full : vessel.takes (accepted ++ taken).length (rest.drop more) = [] := by
              rw [List.length_append, count]
              exact behind
            obtain ⟨host, failed, still⟩ := further.writeAll_of_full found all full
            refine ⟨host, ?_, still⟩
            have short : taken ≠ byte :: rest := by
              intro whole
              rw [whole, List.length_cons] at count
              exact all (List.drop_of_length_le (Nat.le_of_eq (Nat.succ.inj count)))
            rw [Vessel.replyAll, part, if_neg short]
            exact failed

theorem writeAll_of_closed (phase : Phase vessel accepted id held .closed) {writer : Writer}
    (found : held.writers.get? id = some writer) (data : Bytes) :
    ∃ answer, writer.writeAll data held.host = .done (answer, held.host) ∧
      (WriterUse.writeAll data answer).accepted vessel accepted.length = [] := by
  cases phase with
  | closed there holds =>
      obtain rfl := Option.some.inj (there.symm.trans found)
      cases data with
      | nil =>
          refine ⟨.ok (), ?_, rfl⟩
          rw [Writer.writeAll]
      | cons byte rest =>
          refine ⟨.error (.host (.released "Writer")), ?_, rfl⟩
          rw [Writer.writeAll, Writer.write, if_pos rfl, Outcome.done_bind]

theorem accepted_replyAll (vessel : Vessel) (accepted data : Bytes) :
    (WriterUse.writeAll data (vessel.replyAll accepted data)).accepted vessel accepted.length =
      vessel.takes accepted.length data := by
  unfold Vessel.replyAll
  by_cases whole : vessel.takes accepted.length data = data
  · rw [if_pos whole, whole]
    rfl
  · rw [if_neg whole]
    rfl

/-- Whatever use is made of the writer, as much is accepted as there is room for, and goes into the
vessel. -/
theorem use (sound : Sound held.custody) (phase : Phase vessel accepted id held stage)
    {use : WriterUse} (made : use.Made id held after) :
    use.accepted vessel accepted.length =
        (if stage = .flowing then vessel.takes accepted.length use.data else []) ∧
      Phase vessel (accepted ++ use.accepted vessel accepted.length) id after (use.next stage) := by
  cases use with
  | act action answer =>
      obtain ⟨next, performed, further⟩ := phase.act sound action
      cases performed.symm.trans made
      exact ⟨WriterUse.accepted_reply vessel accepted stage action, further⟩
  | writeAll data answer =>
      obtain ⟨writer, host, found, done, rfl⟩ := made
      cases stage with
      | flowing =>
          obtain ⟨next, written, further⟩ := phase.writeAll found data
          cases written.symm.trans done
          rw [accepted_replyAll]
          exact ⟨rfl, further⟩
      | closed =>
          obtain ⟨_, refused, nothing⟩ := phase.writeAll_of_closed found data
          cases refused.symm.trans done
          rw [nothing, List.append_nil]
          exact ⟨rfl, phase⟩
      | gone =>
          cases phase with
          | gone known absent holds => cases absent.symm.trans found

theorem meanwhile (sound : Sound held.custody) (phase : Phase vessel accepted id held stage)
    (meanwhile : held.Meanwhile (.writer id) vessel.spots after) :
    Phase vessel accepted id after stage := by
  obtain ⟨object, handle⟩ := meanwhile.own sound trivial phase.known
  have same : held.writers.get? id = after.writers.get? id := object
  cases phase with
  | flowing found live holds =>
      have stream : held.host.boundary.writers.get? _ = after.host.boundary.writers.get? _ :=
        handle (.writer _) (owns_writer found rfl)
      exact .flowing (same.symm.trans found) (stream.symm.trans live)
        (holds.leaves meanwhile.leaves)
  | closed found holds => exact .closed (same.symm.trans found) (holds.leaves meanwhile.leaves)
  | gone known absent holds =>
      exact .gone (meanwhile.known sound known) (same.symm.trans absent) fun sinkless =>
        (holds sinkless).leaves meanwhile.leaves

end Phase

theorem WriterUse.Made.sound {id : Nat} {use : WriterUse} {held after : Holdings}
    (made : use.Made id held after) (sound : Sound held.custody) : Sound after.custody := by
  cases use with
  | act action answer => exact Holdings.sound_perform sound made
  | writeAll data answer =>
      obtain ⟨writer, host, found, done, rfl⟩ := made
      obtain ⟨result, written, moves⟩ :=
        Writer.writeAll_spec sound (Holdings.claim?_writer found) data
      cases written.symm.trans done
      exact Moves.sound moves sound

/-- All that was accepted is in the vessel. -/
structure Poured (vessel : Vessel) (id : Nat) (log : List WriterUse) (held : Holdings) : Prop where
  sound : Sound held.custody
  /-- No byte is left out for which there is room. -/
  told : acceptedOver vessel log = vessel.takes 0 (givenBeforeEnd log)
  phase : Phase vessel (acceptedOver vessel log) id held (stageAfter log)

theorem Poured.start {vessel : Vessel} {id : Nat} {held : Holdings} (sound : Sound held.custody)
    (phase : Phase vessel [] id held .flowing) : Poured vessel id [] held :=
  ⟨sound, (vessel.takes_nil 0).symm, phase⟩

theorem Poured.keeps {vessel : Vessel} {id : Nat} {log : List WriterUse} {first held : Holdings}
    (start : Poured vessel id [] first)
    (dialogue : Dialogue (WriterUse.Made id) (Holdings.Meanwhile (.writer id) vessel.spots) first log
      held) : Poured vessel id log held := by
  refine dialogue.keeps (Poured vessel id) start ?_ ?_
  · intro log before after use poured made
    obtain ⟨taken, further⟩ := poured.phase.use poured.sound made
    refine ⟨made.sound poured.sound, ?_, ?_⟩
    · rw [acceptedOver_concat, givenBeforeEnd_concat, vessel.takes_append, taken, ← poured.told]
      congr 1
      by_cases flowing : stageAfter log = .flowing
      · rw [if_pos flowing, if_pos flowing]
      · rw [if_neg flowing, if_neg flowing, vessel.takes_nil]
    · rw [acceptedOver_concat, stageAfter_concat]
      exact further
  · intro log before after poured meanwhile
    exact ⟨meanwhile.sound poured.sound, poured.told,
      poured.phase.meanwhile poured.sound meanwhile⟩

end Host

end SessionStreams
