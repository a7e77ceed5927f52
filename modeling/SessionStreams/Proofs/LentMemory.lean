import SessionStreams.Proofs.Pouring

set_option autoImplicit false

namespace SessionStreams

open Boundary (Region Service Vessel acceptedIn givenIn)

/-- Lent memory that held `content`, after calls on a writer over it. -/
structure Boundary.InLentMemory (region : Region) (content : Bytes) (id : Nat) (log : List Service)
    (boundary : Boundary) : Prop where
  /-- What is accepted is the front of all data that was written. -/
  told : acceptedIn log = (givenIn log).take region.length
  room : (acceptedIn log).length ≤ region.length
  contents : region.contents? boundary.world =
    some (acceptedIn log ++ content.drop (acceptedIn log).length)
  /-- A writer that was not freed takes what there is room for. -/
  write : .freed ∉ log → ∀ slot loan data, loan.view = .ok data → ∃ next,
    (Call.write id loan).make slot boundary = .done
      ⟨.count (min data.length (region.length - (acceptedIn log).length) : Nat), slot, next⟩
  flush : .freed ∉ log → ∀ slot, ∃ next,
    (Call.flush id).make slot boundary = .done ⟨.status .success, slot, next⟩ ∧
      region.contents? next.world = region.contents? boundary.world
  free : .freed ∉ log → ∃ next, boundary.freeWriter (some id) = .done next ∧
    region.contents? next.world = region.contents? boundary.world

namespace Host

/-- Lent memory that held `content`, after so much was accepted by a writer over it. -/
structure InLentMemory (region : Region) (content accepted : Bytes) (stage : Stage) (id : Nat)
    (held : Holdings) : Prop where
  room : accepted.length ≤ region.length
  contents : region.contents? held.world = some (accepted ++ content.drop accepted.length)
  /-- An open writer takes what there is room for, which may be nothing. -/
  write : stage = .flowing → ∀ data, ∃ next, held.perform (.writer id (.write data)) =
    .done (.count (min data.length (region.length - accepted.length)), next)
  /-- Data that is too long for the room is written up to there, and no other fails. -/
  writeAll : stage = .flowing → ∀ data, ∃ answer next,
    (WriterUse.writeAll data answer).Made id held next ∧
      (answer = .error .nothingWritten ↔ region.length - accepted.length < data.length) ∧
      (answer = .ok () ↔ data.length ≤ region.length - accepted.length) ∧
      region.contents? next.world =
        some (accepted ++ data.take (region.length - accepted.length) ++
          content.drop (accepted.length + min data.length (region.length - accepted.length)))
  /-- Nothing is accepted after the end. -/
  ended : stage ≠ .flowing → ∀ data, ∃ answer next,
    held.perform (.writer id (.write data)) = .done (answer, next) ∧
      (∀ taken, answer ≠ .count taken) ∧
      region.contents? next.world = region.contents? held.world
  /-- Whatever is not a write changes no byte. -/
  quiet : ∀ action, (∀ data, action ≠ .write data) → ∃ answer next,
    held.perform (.writer id action) = .done (answer, next) ∧
      region.contents? next.world = region.contents? held.world
  /-- There is nothing to be had from using the writer up. -/
  harvest : stage ≠ .gone → ∃ text next,
    held.perform (.writer id .harvest) = .done (.failed ⟨.invalidOperation, text⟩, next)

end Host

section

variable {region : Region} {content : Bytes} {enough : region.length ≤ content.length}

theorem length_takes_lent (enough : region.length ≤ content.length) (before : Nat) (data : Bytes) :
    ((Vessel.lent region content enough).takes before data).length =
      min data.length (region.length - before) := by
  rw [Vessel.takes, List.length_take, Nat.min_comm]

theorem Boundary.Vessel.Filled.inLentMemory {id : Nat} {log : List Service} {boundary : Boundary}
    (filled : (Vessel.lent region content enough).Filled id log boundary) :
    boundary.InLentMemory region content id log := by
  obtain ⟨room, contents⟩ := filled.holds
  refine ⟨filled.told, room, contents, fun unfreed slot loan data viewed => ?_, fun unfreed slot => ?_,
    fun unfreed => ?_⟩
  · obtain ⟨next, -, called⟩ := filled.write unfreed data
    have made := called slot loan viewed
    rw [length_takes_lent] at made
    exact ⟨next, made⟩
  · obtain ⟨-, called⟩ := filled.flush unfreed
    exact ⟨boundary, called slot, rfl⟩
  · obtain ⟨next, freed, same, -⟩ := filled.free unfreed
    exact ⟨next, freed, by rw [same]⟩

namespace Host

variable {accepted : Bytes} {stage : Stage} {id : Nat} {held : Holdings}

theorem Phase.holds_lent
    (phase : Phase (.lent region content enough) accepted id held stage) :
    accepted.length ≤ region.length ∧
      region.contents? held.world = some (accepted ++ content.drop accepted.length) :=
  phase.holds fun _ => rfl

theorem replyAll_lent (enough : region.length ≤ content.length) (accepted data : Bytes) :
    (Vessel.lent region content enough).replyAll accepted data =
      if data.length ≤ region.length - accepted.length then .ok () else .error .nothingWritten := by
  simp only [Vessel.replyAll, Vessel.takes, List.take_eq_self_iff]

theorem Phase.inLentMemory (sound : Sound held.custody)
    (phase : Phase (.lent region content enough) accepted id held stage) :
    InLentMemory region content accepted stage id held := by
  obtain ⟨room, contents⟩ := phase.holds_lent
  refine ⟨room, contents, ?_, ?_, ?_, ?_, ?_⟩
  · rintro rfl data
    obtain ⟨next, performed, -⟩ := phase.write data
    rw [length_takes_lent] at performed
    exact ⟨next, performed⟩
  · rintro rfl data
    obtain ⟨writer, found⟩ := phase.exists_writer
    obtain ⟨host, written, further⟩ := phase.writeAll found data
    have stored := further.holds_lent.2
    rw [List.length_append, length_takes_lent] at stored
    rw [replyAll_lent] at written
    refine ⟨_, _, ⟨writer, host, found, written, rfl⟩, ?_, ?_, stored⟩
    · by_cases fits : data.length ≤ region.length - accepted.length
      · rw [if_pos fits]
        exact iff_of_false nofun (Nat.not_lt.mpr fits)
      · rw [if_neg fits]
        exact iff_of_true rfl (Nat.not_le.mp fits)
    · by_cases fits : data.length ≤ region.length - accepted.length
      · rw [if_pos fits]
        exact iff_of_true rfl fits
      · rw [if_neg fits]
        exact iff_of_false nofun fits
  · intro ended data
    have nothing := WriterUse.accepted_reply_of_ended ended (.lent region content enough) accepted
      (.write data)
    obtain ⟨next, performed, further⟩ := phase.act_idle sound nothing
    exact ⟨_, next, performed, WriterUse.reply_write_of_ended ended _ accepted data,
      further.holds_lent.2.trans contents.symm⟩
  · intro action other
    obtain ⟨next, performed, further⟩ := phase.act_idle sound (WriterUse.accepted_of_not_write other)
    exact ⟨_, next, performed, further.holds_lent.2.trans contents.symm⟩
  · intro alive
    obtain ⟨next, performed⟩ := phase.harvest sound alive
    exact ⟨_, next, performed⟩

/-- A writer that a program makes over lent memory has accepted nothing. -/
theorem exists_poured_lent (sound : Sound held.custody) {context share : Nat}
    (found : held.contexts.get? context = some { share })
    (there : region.contents? held.world = some content) :
    ∃ writer opened, held.perform (.context context (.writerOverMemory region)) =
        .done (.made writer, opened) ∧
      Poured (.lent region content enough) writer [] opened := by
  have made : (Boundary.Destination.memory region).attempt held.host.boundary =
      (.ok held.host.boundary.writers.fresh, { held.host.boundary with
        writers := held.host.boundary.writers.alloc
          ((Vessel.lent region content enough).writer 0) }) := by
    simp only [Boundary.Destination.attempt, Boundary.tryAdd, Vessel.view_lent enough there,
      Boundary.addWriter]
  have fallible : Boundary.Destination.memory region ≠ .growing := Boundary.Destination.noConfusion
  have performed := Holdings.perform_destination_made found fallible made
  refine ⟨_, _, performed, .start (Holdings.sound_perform sound performed) ?_⟩
  exact .flowing (Arena.get?_alloc_self _ _) (Arena.get?_alloc_self _ _)
    (Vessel.holds_lent enough there)

/-- Memory that is lent to a writer is filled in order and as far as it goes, and nothing else is
done to it, whether a program writes that goes on from any state with a context that it has not
released, or any caller behind the boundary. -/
theorem lent_memory_filled_in_order (world : World) (earlier : List Action) :
    (∃ answers held, (Holdings.start world).run earlier = .done (answers, held) ∧
      ∀ context object, held.contexts.get? context = some object → object.released = false →
      ∀ (now : World) (region : Region) (content : Bytes)
        (enough : region.length ≤ content.length), region.contents? now = some content →
      ∃ writer opened, (held.inWorld now).perform (.context context (.writerOverMemory region)) =
          .done (.made writer, opened) ∧
        ∀ log after, Dialogue (WriterUse.Made writer) (Holdings.Meanwhile (.writer writer)
            (Vessel.lent region content enough).spots) opened log after →
          acceptedOver (.lent region content enough) log =
              (givenBeforeEnd log).take region.length ∧
            InLentMemory region content (acceptedOver (.lent region content enough) log)
              (stageAfter log) writer after) ∧
    ∀ (boundary : Boundary) (slot : Boundary.ErrorSlot) (region : Region) (content : Bytes)
      (enough : region.length ≤ content.length),
      region.contents? boundary.world = some content →
      ∃ id opened, (Boundary.Call.writerOverMemory region).make slot boundary =
          .done ⟨.handle (some id), slot, opened⟩ ∧
        ∀ log after, Dialogue (Service.Made id) (Boundary.Meanwhile Boundary.writers id
            (Vessel.lent region content enough).spots) opened log after →
          after.InLentMemory region content id log := by
  constructor
  · obtain ⟨answers, held, ran, sound⟩ := Holdings.run_sound world earlier
    refine ⟨answers, held, ran, ?_⟩
    intro context object found unreleased now region content enough there
    have bare := Holdings.bare_of_unreleased found unreleased
    obtain ⟨writer, opened, performed, poured⟩ :=
      exists_poured_lent (Holdings.sound_inWorld sound now) bare there
    refine ⟨writer, opened, performed, fun log after dialogue => ?_⟩
    obtain ⟨still, told, phase⟩ := poured.keeps dialogue
    exact ⟨told, phase.inLentMemory still⟩
  · intro boundary slot region content enough there
    have made : (Boundary.Call.writerOverMemory region).make slot boundary =
        .done ⟨.handle (some boundary.writers.fresh), slot,
          (boundary.addWriter ((Vessel.lent region content enough).writer 0)).2⟩ := by
      simp only [Boundary.Call.make, Boundary.writerOverMemory, Boundary.tryAdd,
        Vessel.view_lent enough there]
      rfl
    refine ⟨_, _, made, fun log after dialogue => ?_⟩
    have start : (Vessel.lent region content enough).Filled boundary.writers.fresh []
        (boundary.addWriter ((Vessel.lent region content enough).writer 0)).2 :=
      .start (Vessel.holds_lent enough there) (Arena.get?_alloc_self _ _)
    exact (start.keeps dialogue).inLentMemory

/-- Two of three bytes fit, and the byte behind the room stays. -/
theorem lent_memory_filled_in_order_past_room :
    ∃ held, (Holdings.start .empty).run [.build { home := some [Path.slash] }] =
        .done ([.made 0], held) ∧
      ∃ writer opened next, (held.inWorld { World.empty with memory := ⟨[some [7, 7, 7]]⟩ }).perform
          (.context 0 (.writerOverMemory (.memory 0 2))) = .done (.made writer, opened) ∧
        (WriterUse.writeAll [1, 2, 3] (.error .nothingWritten)).Made writer opened next ∧
        (Region.memory 0 2).contents? next.world = some [1, 2, 7] := by
  obtain ⟨held, ran, found, -⟩ := Holdings.run_build_root .empty
  obtain ⟨⟨_, _, also, fill⟩, -⟩ :=
    lent_memory_filled_in_order .empty [.build { home := some [Path.slash] }]
  cases ran.symm.trans also
  obtain ⟨writer, opened, made, filled⟩ := fill 0 _ found rfl
    { World.empty with memory := ⟨[some [7, 7, 7]]⟩ } (.memory 0 2) [7, 7, 7] (by decide) rfl
  obtain ⟨-, inMemory⟩ := filled [] opened .start
  obtain ⟨answer, next, written, short, -, stored⟩ := inMemory.writeAll rfl [1, 2, 3]
  obtain rfl := short.mpr (by decide)
  exact ⟨held, ran, writer, opened, next, made, written, stored⟩

end Host

end

end SessionStreams
