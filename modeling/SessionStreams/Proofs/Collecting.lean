import SessionStreams.Proofs.Pouring

set_option autoImplicit false

namespace SessionStreams

open Boundary (Service Vessel acceptedIn givenIn)

/-- A sink that had `initial`, after calls on a growing writer. -/
structure Boundary.InSink (sink : Nat) (initial : Sink) (id : Nat) (log : List Service)
    (boundary : Boundary) : Prop where
  /-- All data was accepted as a whole. -/
  told : acceptedIn log = givenIn log
  contents : boundary.world.sinks.get? sink = some (initial.grown (givenIn log))
  write : .freed ∉ log → ∀ slot loan data, loan.view = .ok data → ∃ next,
    (Call.write id loan).make slot boundary = .done ⟨.count data.length, slot, next⟩ ∧
      next.world.sinks.get? sink = some (initial.grown (givenIn log ++ data))
  writeNothing : .freed ∉ log → ∀ slot loan, loan.view = .ok [] → ∃ next,
    (Call.write id loan).make slot boundary = .done ⟨.count 0, slot, next⟩ ∧
      next.world.sinks.get? sink = boundary.world.sinks.get? sink
  flush : .freed ∉ log → ∀ slot, ∃ next,
    (Call.flush id).make slot boundary = .done ⟨.status .success, slot, next⟩ ∧
      next.world.sinks.get? sink = boundary.world.sinks.get? sink
  free : .freed ∉ log → ∃ next, boundary.freeWriter (some id) = .done next ∧
    next.world.sinks.get? sink = boundary.world.sinks.get? sink

namespace Host

/-- The sink of a program's writer, after all that was given to it. -/
structure InSink (sink : Nat) (given : Bytes) (stage : Stage) (id : Nat) (held : Holdings) :
    Prop where
  /-- There is no buffer before there is a byte, and the sink goes with the writer. -/
  contents : stage ≠ .gone → held.world.sinks.get? sink = some (Sink.missing.grown given)
  write : stage = .flowing → ∀ data, ∃ next,
    held.perform (.writer id (.write data)) = .done (.count data.length, next)
  writeAll : stage = .flowing → ∀ data, ∃ next, (WriterUse.writeAll data (.ok ())).Made id held next
  flush : stage = .flowing → ∃ next, held.perform (.writer id .flush) = .done (.nothing, next)
  /-- A closed writer refuses all data, and does nothing. -/
  refuse : stage = .closed →
    (∀ data, held.perform (.writer id (.write data)) = .done (.failed (.released "Writer"), held)) ∧
      held.perform (.writer id .flush) = .done (.failed (.released "Writer"), held)
  close : stage ≠ .gone → ∃ next, held.perform (.writer id .close) = .done (.nothing, next)
  harvest : stage ≠ .gone → ∃ next,
    held.perform (.writer id .harvest) = .done (.bytes given, next)

end Host

section

variable {sink id : Nat} {initial : Sink}

theorem Boundary.Vessel.Filled.inSink {log : List Service} {boundary : Boundary}
    (filled : (Vessel.sink sink initial).Filled id log boundary) :
    boundary.InSink sink initial id log := by
  have told : acceptedIn log = givenIn log := filled.told
  have contents : boundary.world.sinks.get? sink = some (initial.grown (acceptedIn log)) :=
    filled.holds
  rw [told] at contents
  have write (unfreed : .freed ∉ log) (slot : ErrorSlot) (loan : Loan) (data : Bytes)
      (viewed : loan.view = .ok data) : ∃ next,
      (Call.write id loan).make slot boundary = .done ⟨.count data.length, slot, next⟩ ∧
        next.world.sinks.get? sink = some (initial.grown (givenIn log ++ data)) := by
    obtain ⟨next, further, called⟩ := filled.write unfreed data
    have stored : next.world.sinks.get? sink = some (initial.grown _) := further.holds
    have more : acceptedIn (log ++ [.wrote data data.length]) = givenIn log ++ data := by
      rw [acceptedIn_concat, told, Service.accepted, List.take_length]
    exact ⟨next, called slot loan viewed, stored.trans (congrArg (some ∘ initial.grown) more)⟩
  refine ⟨told, contents, write, fun unfreed slot loan viewed => ?_, fun unfreed slot => ?_,
    fun unfreed => ?_⟩
  · obtain ⟨next, called, stored⟩ := write unfreed slot loan [] viewed
    rw [List.append_nil] at stored
    exact ⟨next, called, stored.trans contents.symm⟩
  · obtain ⟨-, called⟩ := filled.flush unfreed
    exact ⟨boundary, called slot, rfl⟩
  · obtain ⟨next, freed, same, -⟩ := filled.free unfreed
    exact ⟨next, freed, by rw [same]⟩

namespace Host

variable {given : Bytes} {stage : Stage} {held : Holdings}

theorem Phase.inSink (sound : Sound held.custody)
    (phase : Phase (.sink sink .missing) given id held stage) : InSink sink given stage id held := by
  refine ⟨fun alive => phase.holds fun gone => absurd gone alive, ?_, ?_, ?_, ?_, fun alive => ?_,
    phase.harvest sound⟩
  · rintro rfl data
    obtain ⟨next, performed, -⟩ := phase.write data
    exact ⟨next, performed⟩
  · rintro rfl data
    obtain ⟨writer, found⟩ := phase.exists_writer
    obtain ⟨host, written, -⟩ := phase.writeAll found data
    have whole : (Vessel.sink sink .missing).takes given.length data = data := rfl
    rw [Vessel.replyAll, if_pos whole] at written
    exact ⟨_, writer, host, found, written, rfl⟩
  · rintro rfl
    obtain ⟨next, performed, -⟩ := phase.flush
    exact ⟨next, performed⟩
  · rintro rfl
    cases phase with
    | closed found holds =>
        exact ⟨fun data => Holdings.perform_request_of_closed found rfl (.write data),
          Holdings.perform_request_of_closed found rfl .flush⟩
  · obtain ⟨next, performed, -⟩ := phase.act sound .close
    cases stage with
    | gone => exact absurd rfl alive
    | _ => exact ⟨next, performed⟩

/-- A writer that a program makes to collect in has a new sink with no buffer. -/
theorem exists_poured_sink (sound : Sound held.custody) {context share : Nat}
    (found : held.contexts.get? context = some { share }) :
    ∃ writer opened, held.perform (.context context .allocatingWriter) =
        .done (.made writer, opened) ∧
      Poured (.sink held.world.sinks.fresh .missing) writer [] opened := by
  have performed := perform_growing found
  refine ⟨_, _, performed, .start (Holdings.sound_perform sound performed) ?_⟩
  exact .flowing (Arena.get?_alloc_self _ _) (Arena.get?_alloc_self _ _) (Arena.get?_alloc_self _ _)

/-- A sink has what it had at first and then all data that was written, with a program that goes on
from any state with a context that it has not released, which is given the data by using the writer
up, and with any caller behind the boundary. -/
theorem sink_collects_exactly (world : World) (earlier : List Action) :
    (∃ answers held, (Holdings.start world).run earlier = .done (answers, held) ∧
      ∀ context object, held.contexts.get? context = some object → object.released = false →
      ∀ now : World, ∃ writer opened,
        (held.inWorld now).perform (.context context .allocatingWriter) =
            .done (.made writer, opened) ∧
          ∀ log after, Dialogue (WriterUse.Made writer) (Holdings.Meanwhile (.writer writer)
              (Vessel.sink now.sinks.fresh .missing).spots) opened log after →
            acceptedOver (.sink now.sinks.fresh .missing) log = givenBeforeEnd log ∧
              InSink now.sinks.fresh (givenBeforeEnd log) (stageAfter log) writer after) ∧
    ∀ (boundary : Boundary) (sink length : Nat) (initial : Sink),
      boundary.world.sinks.get? sink = some initial →
      ∃ id opened, boundary.growingWriter (some sink) (some length) = .done (id, opened) ∧
        ∀ log after, Dialogue (Service.Made id) (Boundary.Meanwhile Boundary.writers id
            (Vessel.sink sink initial).spots) opened log after →
          after.InSink sink initial id log := by
  constructor
  · obtain ⟨answers, held, ran, sound⟩ := Holdings.run_sound world earlier
    refine ⟨answers, held, ran, ?_⟩
    intro context object found unreleased now
    have bare := Holdings.bare_of_unreleased found unreleased
    obtain ⟨writer, opened, performed, poured⟩ :=
      exists_poured_sink (Holdings.sound_inWorld sound now) bare
    refine ⟨writer, opened, performed, fun log after dialogue => ?_⟩
    obtain ⟨still, told, phase⟩ := poured.keeps dialogue
    have whole : acceptedOver (.sink now.sinks.fresh .missing) log = givenBeforeEnd log := told
    rw [← whole]
    exact ⟨rfl, phase.inSink still⟩
  · intro boundary sink length initial there
    refine ⟨_, _, rfl, fun log after dialogue => ?_⟩
    have start : (Vessel.sink sink initial).Filled boundary.writers.fresh []
        (boundary.addWriter (.growing sink)).2 := .start there (Arena.get?_alloc_self _ _)
    exact (start.keeps dialogue).inSink

/-- A byte is added to a chunk of two. -/
theorem sink_collects_exactly_prefilled :
    ∃ id opened next, ({ world := { World.empty with sinks := ⟨[some (.full [1, 2])]⟩ } } :
          Boundary).growingWriter (some 0) (some 0) = .done (id, opened) ∧
        (Boundary.Call.write id (.bytes [3])).make .empty opened = .done ⟨.count 1, .empty, next⟩ ∧
        next.world.sinks.get? 0 = some (.full [1, 2, 3]) := by
  obtain ⟨-, collects⟩ := sink_collects_exactly .empty []
  obtain ⟨id, opened, made, inSink⟩ := collects
    { world := { World.empty with sinks := ⟨[some (.full [1, 2])]⟩ } } 0 0 (.full [1, 2]) rfl
  obtain ⟨next, written, stored⟩ :=
    (inSink [] opened .start).write List.not_mem_nil .empty (.bytes [3]) [3] rfl
  exact ⟨id, opened, next, made, written, stored⟩

end Host

end

end SessionStreams
