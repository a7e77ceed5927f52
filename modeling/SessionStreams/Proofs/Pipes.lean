import SessionStreams.Proofs.Delivery

set_option autoImplicit false

namespace SessionStreams

namespace World

/-- The bytes on their way through a pipe. -/
def inPipe (world : World) (pipe : Nat) : Bytes :=
  match world.pipes.get? pipe with
  | none => []
  | some state => state.content

/-- A descriptor for the read end of a pipe. -/
def Reads (world : World) (fd pipe : Nat) : Prop :=
  ∃ descriptor, world.descriptors.get? fd = some descriptor ∧
    descriptor.target = .pipeEnd pipe true ∧ descriptor.readable = true

/-- A pipe that is open at both ends holds these bytes. -/
structure Carries (world : World) (readEnd writeEnd pipe : Nat) (content : Bytes) : Prop where
  reads : world.Reads readEnd pipe
  writes : ∃ descriptor, world.descriptors.get? writeEnd = some descriptor ∧
    descriptor.target = .pipeEnd pipe false ∧ descriptor.writable = true
  state : world.pipes.get? pipe = some { content }

/-- A pipe that was closed at its write end still holds these bytes. -/
structure Drains (world : World) (readEnd pipe : Nat) (content : Bytes) : Prop where
  reads : world.Reads readEnd pipe
  state : world.pipes.get? pipe = some { content, writeEndOpen := false }

section

variable {world : World} {readEnd writeEnd pipe : Nat} {content : Bytes}

theorem carries_makePipe (world : World) :
    (world.makePipe).2.Carries world.makePipe.1.1 world.makePipe.1.2 world.pipes.fresh [] := by
  have first := Arena.get?_alloc_self world.descriptors
    { target := .pipeEnd world.pipes.fresh true, readable := true }
  refine ⟨⟨_, Arena.get?_alloc_of_get? _ first, rfl, rfl⟩, ⟨_, Arena.get?_alloc_self _ _, rfl, rfl⟩, ?_⟩
  exact Arena.get?_alloc_self world.pipes {}

theorem inPipe_of_state {state : Pipe} (found : world.pipes.get? pipe = some state) :
    world.inPipe pipe = state.content := by
  simp only [inPipe, found]

theorem Carries.apart (carries : world.Carries readEnd writeEnd pipe content) :
    readEnd ≠ writeEnd := by
  rintro rfl
  obtain ⟨reading, found, inward, -⟩ := carries.reads
  obtain ⟨writing, again, outward, -⟩ := carries.writes
  cases found.symm.trans again
  cases inward.symm.trans outward

/-- A read of something at the read end. -/
theorem read_of_reads (reads : world.Reads readEnd pipe) {state : Pipe}
    (found : world.pipes.get? pipe = some state) {count : Nat} (positive : 0 < count) :
    world.read readEnd count =
      if state.content = [] then
        if state.writeEndOpen then .error (.os .tryAgain) else .ok ([], world)
      else .ok (state.content.take count, { world with
        pipes := world.pipes.set pipe { state with content := state.content.drop count } }) := by
  obtain ⟨descriptor, there, inward, readable⟩ := reads
  have nonzero : count ≠ 0 := Nat.pos_iff_ne_zero.mp positive
  simp only [read, there, readable, Bool.not_true, Bool.false_eq_true, if_false, inward, found,
    nonzero]

/-- Whatever is read from a pipe comes from its front. -/
theorem Carries.read (carries : world.Carries readEnd writeEnd pipe content) {count : Nat}
    {data : Bytes} {after : World} (done : world.read readEnd count = .ok (data, after)) :
    ∃ rest, content = data ++ rest ∧ after.Carries readEnd writeEnd pipe rest := by
  rcases Nat.eq_zero_or_pos count with rfl | positive
  · obtain ⟨descriptor, there, inward, readable⟩ := carries.reads
    simp only [World.read, there, readable, Bool.not_true, Bool.false_eq_true, if_false, inward,
      carries.state, if_true] at done
    cases done
    exact ⟨content, rfl, carries⟩
  · rw [read_of_reads carries.reads carries.state positive] at done
    split at done
    · cases done
    · cases done
      refine ⟨content.drop count, (List.take_append_drop count content).symm, carries.reads,
        carries.writes, Arena.get?_set_self _ carries.state⟩

theorem Drains.read (drains : world.Drains readEnd pipe content) {count : Nat}
    {data : Bytes} {after : World} (done : world.read readEnd count = .ok (data, after)) :
    ∃ rest, content = data ++ rest ∧ after.Drains readEnd pipe rest := by
  rcases Nat.eq_zero_or_pos count with rfl | positive
  · obtain ⟨descriptor, there, inward, readable⟩ := drains.reads
    simp only [World.read, there, readable, Bool.not_true, Bool.false_eq_true, if_false, inward,
      drains.state, if_true] at done
    cases done
    exact ⟨content, rfl, drains⟩
  · rw [read_of_reads drains.reads drains.state positive] at done
    split at done
    · next empty =>
        cases done
        exact ⟨content, rfl, drains⟩
    · cases done
      exact ⟨content.drop count, (List.take_append_drop count content).symm, drains.reads,
        Arena.get?_set_self _ drains.state⟩

theorem takes_carries (readEnd writeEnd pipe : Nat) :
    Boundary.Buffered.Takes (Boundary.offerTo writeEnd) fun content (world : World) =>
      world.Carries readEnd writeEnd pipe content := by
  intro data content world someData carries
  obtain ⟨descriptor, there, outward, writable⟩ := carries.writes
  refine ⟨{ world with pipes := world.pipes.set pipe { content := content ++ data } }, ?_,
    carries.reads, carries.writes, Arena.get?_set_self _ carries.state⟩
  simp only [Boundary.offerTo, Boundary.Offer.steady, Boundary.push, World.write, there, writable,
    Bool.not_true, Bool.false_eq_true, if_false, outward, carries.state, someData]

theorem Carries.close (carries : world.Carries readEnd writeEnd pipe content) :
    (world.close writeEnd).Drains readEnd pipe content := by
  obtain ⟨descriptor, there, outward, -⟩ := carries.writes
  obtain ⟨reading, found, inward, readable⟩ := carries.reads
  have closed : world.close writeEnd = { world with
      descriptors := world.descriptors.release writeEnd
      pipes := world.pipes.set pipe { content, writeEndOpen := false } } := by
    simp only [World.close, there, closePipeEnd, outward, carries.state, Bool.false_eq_true,
      if_false]
  rw [closed]
  refine ⟨⟨reading, ?_, inward, readable⟩, Arena.get?_set_self _ carries.state⟩
  exact (Arena.get?_release_ne _ carries.apart).trans found

end

end World

namespace Host

open Boundary (offerTo)

/-- What takes part in the use of a writer: the writer itself, and the release of its context. -/
def TakesPart (context writer : Nat) (action : Action) : Prop :=
  (∃ request, action = .writer writer request) ∨
    action = .context context .release ∨ action = .context context .drop

/-- The course of a writer's use, with reads at the other end of its pipe at any time: what was done
and answered, and all that was read. A read that fails changes nothing and does not show. -/
inductive Exchange (context writer readEnd : Nat) (opened : Holdings) :
    List (Action × Answer) → Bytes → Holdings → Prop where
  | opened : Exchange context writer readEnd opened [] [] opened
  | act {log : List (Action × Answer)} {obtained : Bytes} {held after : Holdings} {action : Action}
      {answer : Answer} (earlier : Exchange context writer readEnd opened log obtained held)
      (part : TakesPart context writer action)
      (done : held.perform action = .done (answer, after)) :
      Exchange context writer readEnd opened (log ++ [(action, answer)]) obtained after
  | read {log : List (Action × Answer)} {obtained data : Bytes} {held : Holdings} {count : Nat}
      {world : World} (earlier : Exchange context writer readEnd opened log obtained held)
      (positive : 0 < count) (done : held.world.read readEnd count = .ok (data, world)) :
      Exchange context writer readEnd opened log (obtained ++ data) (held.inWorld world)

/-- The bytes that a writer accepted and did not deliver yet. -/
def Holdings.pending (held : Holdings) (id : Nat) : Bytes :=
  match held.writers.get? id with
  | none => []
  | some writer =>
      if writer.closed then []
      else match held.host.boundary.writers.get? writer.handle with
        | some (.buffered _ pending) => pending
        | _ => []

theorem Holdings.Buffers.pending {held : Holdings} {id fd : Nat} {pending : Bytes}
    (buffers : held.Buffers id fd pending) : held.pending id = pending := by
  obtain ⟨handle, share, found, live⟩ := buffers.stream
  simp only [Holdings.pending, found, Bool.false_eq_true, if_false, live]

theorem Holdings.WriterOver.pending {held : Holdings} {id : Nat} (past : held.WriterOver id) :
    held.pending id = [] := by
  unfold Holdings.pending
  split
  · rfl
  · next writer found => rw [if_pos (past writer found).1]

/-- The books of a pipe, while its writer is in use and after it has ended. -/
inductive Balanced (writer readEnd writeEnd pipe : Nat) (log : List (Action × Answer))
    (obtained : Bytes) (held : Holdings) : Prop where
  | flowing {content pending : Bytes} (buffers : held.Buffers writer writeEnd pending)
      (carries : held.world.Carries readEnd writeEnd pipe content)
      (balanced : obtained ++ content ++ pending = acceptedBy writer log)
      (open_ : ¬ Ended log (.writer writer))
  | ended {content : Bytes} (past : held.WriterOver writer)
      (drains : held.world.Drains readEnd pipe content)
      (balanced : obtained ++ content = acceptedBy writer log)
      (ended : Ended log (.writer writer))

namespace Balanced

variable {context writer readEnd writeEnd pipe : Nat} {log : List (Action × Answer)}
  {obtained : Bytes} {held after : Holdings}

theorem inPipe_pending (balanced : Balanced writer readEnd writeEnd pipe log obtained held) :
    obtained ++ held.world.inPipe pipe ++ held.pending writer = acceptedBy writer log := by
  cases balanced with
  | flowing buffers carries balanced open_ =>
      rw [World.inPipe_of_state carries.state, buffers.pending]
      exact balanced
  | ended past drains balanced ended =>
      rw [World.inPipe_of_state drains.state, past.pending, List.append_nil]
      exact balanced

/-- What the writer does keeps the books. -/
theorem request (balanced : Balanced writer readEnd writeEnd pipe log obtained held)
    (sound : Sound held.custody) {action : WriterAction} {answer : Answer}
    (done : held.perform (.writer writer action) = .done (answer, after)) :
    Balanced writer readEnd writeEnd pipe (log ++ [(.writer writer action, answer)]) obtained
      after := by
  have takes := World.takes_carries readEnd writeEnd pipe
  cases balanced with
  | ended past drains balanced ended =>
      obtain ⟨other, next, performed, uncounted, host, -, still⟩ :=
        Holdings.perform_over past action
      obtain ⟨rfl, rfl⟩ := Prod.mk.inj (Boundary.Outcome.done.inj (performed.symm.trans done))
      rw [Holdings.world, ← host] at drains
      refine .ended still drains ?_ ((ended_concat _).mpr (Or.inl ended))
      rw [acceptedBy_concat, Action.accepted_of_not_count uncounted, List.append_nil]
      exact balanced
  | @flowing content pending buffers carries balanced open_ =>
      -- All three ways to end the writer deliver what is pending before the write end is closed.
      have finishing (ends : (Action.writer writer action).ending? = some (.writer writer)) :
          Balanced writer readEnd writeEnd pipe (log ++ [(.writer writer action, answer)]) obtained
            after := by
        obtain ⟨other, final, next, performed, heard, uncounted, delivered, -, finished⟩ :=
          buffers.finish sound takes carries ends
        obtain ⟨rfl, rfl⟩ := Prod.mk.inj (Boundary.Outcome.done.inj (performed.symm.trans done))
        obtain ⟨tree, world⟩ := finished.world
        have drained := delivered.close
        have drains : next.world.Drains readEnd pipe (content ++ pending) := by
          rw [world]
          exact ⟨drained.reads, drained.state⟩
        refine .ended finished.past drains ?_ ((ended_concat _).mpr (Or.inr ?_))
        · rw [acceptedBy_concat, Action.accepted_of_not_count uncounted, List.append_nil,
            ← List.append_assoc]
          exact balanced
        · rw [Action.ends?, if_neg heard, ends]
      cases action with
      | write data =>
          obtain ⟨further, kept, next, performed, still, taken, whole, -⟩ :=
            buffers.write takes carries data
          obtain ⟨rfl, rfl⟩ := Prod.mk.inj (Boundary.Outcome.done.inj (performed.symm.trans done))
          refine .flowing still taken ?_ ?_
          · rw [acceptedBy_concat, Action.accepted_write, ← balanced, List.append_assoc, whole]
            simp only [List.append_assoc]
          · rw [ended_concat_of_stays (Action.ends?_of_quiet rfl _)]
            exact open_
      | flush =>
          obtain ⟨next, performed, still, taken, -⟩ := buffers.flush takes carries
          obtain ⟨rfl, rfl⟩ := Prod.mk.inj (Boundary.Outcome.done.inj (performed.symm.trans done))
          refine .flowing still taken ?_ ?_
          · have nothing : (Action.writer writer .flush).accepted writer .nothing = [] := rfl
            rw [acceptedBy_concat, nothing, List.append_nil, List.append_nil, ← List.append_assoc]
            exact balanced
          · rw [ended_concat_of_stays (Action.ends?_of_quiet rfl _)]
            exact open_
      | close => exact finishing rfl
      | drop => exact finishing rfl
      | harvest => exact finishing rfl

/-- What becomes of the context does not touch the books. -/
theorem release (balanced : Balanced writer readEnd writeEnd pipe log obtained held)
    (sound : Sound held.custody) {action : ContextAction}
    (ends : (Action.context context action).ending? = some (.context context)) {answer : Answer}
    (done : held.perform (.context context action) = .done (answer, after)) :
    Balanced writer readEnd writeEnd pipe (log ++ [(.context context action, answer)]) obtained
      after := by
  obtain ⟨-, -, writers, -, targets, tree, world⟩ := Holdings.endContext_frame sound ends done
  have same : acceptedBy writer (log ++ [(.context context action, answer)]) =
      acceptedBy writer log := by
    rw [acceptedBy_concat]
    exact List.append_nil _
  have still : Ended (log ++ [(.context context action, answer)]) (.writer writer) ↔
      Ended log (.writer writer) := by
    rw [ended_concat]
    refine ⟨fun either => either.resolve_right ?_, Or.inl⟩
    unfold Action.ends?
    rw [ends]
    split <;> simp
  cases balanced with
  | @flowing content pending buffers carries balanced open_ =>
      have kept : after.Buffers writer writeEnd pending := by
        obtain ⟨handle, share, found, live⟩ := buffers.stream
        exact ⟨handle, share, by rw [writers]; exact found, by rw [targets]; exact live⟩
      have carried : after.world.Carries readEnd writeEnd pipe content := by
        rw [world]
        exact ⟨carries.reads, carries.writes, carries.state⟩
      exact .flowing kept carried (balanced.trans same.symm) (fun past => open_ (still.mp past))
  | @ended content past drains balanced ended =>
      have kept : after.WriterOver writer := by
        unfold Holdings.WriterOver
        rw [writers]
        exact past
      have drained : after.world.Drains readEnd pipe content := by
        rw [world]
        exact ⟨drains.reads, drains.state⟩
      exact .ended kept drained (balanced.trans same.symm) (still.mpr ended)

/-- What is read leaves the pipe. -/
theorem read (balanced : Balanced writer readEnd writeEnd pipe log obtained held) {count : Nat}
    {data : Bytes} {world : World} (done : held.world.read readEnd count = .ok (data, world)) :
    Balanced writer readEnd writeEnd pipe log (obtained ++ data) (held.inWorld world) := by
  cases balanced with
  | flowing buffers carries balanced open_ =>
      obtain ⟨rest, rfl, further⟩ := carries.read done
      refine .flowing ⟨buffers.stream⟩ further ?_ open_
      rw [← balanced]
      simp only [List.append_assoc]
  | ended past drains balanced ended =>
      obtain ⟨rest, rfl, further⟩ := drains.read done
      refine .ended past further ?_ ended
      rw [← balanced, List.append_assoc]

/-- What a read answers tells whether the writer has ended and all was read. -/
theorem answers (balanced : Balanced writer readEnd writeEnd pipe log obtained held) {count : Nat}
    (positive : 0 < count) :
    ((∃ world, held.world.read readEnd count = .ok ([], world)) ↔
        Ended log (.writer writer) ∧ obtained = acceptedBy writer log) ∧
      (held.world.inPipe pipe ≠ [] → ∃ world,
        held.world.read readEnd count = .ok ((held.world.inPipe pipe).take count, world)) ∧
      (held.world.inPipe pipe = [] → ¬ Ended log (.writer writer) →
        held.world.read readEnd count = .error (.os .tryAgain)) := by
  have front {content : Bytes} (nonempty : content ≠ []) : content.take count ≠ [] := by
    intro nothing
    have length := congrArg List.length nothing
    have least := List.length_pos_iff.mpr nonempty
    simp only [List.length_take, List.length_nil] at length
    omega
  cases balanced with
  | @flowing content pending buffers carries balanced open_ =>
      have reads := World.read_of_reads carries.reads carries.state positive
      rw [World.inPipe_of_state carries.state]
      dsimp only at reads ⊢
      by_cases empty : content = []
      · rw [if_pos empty, if_pos rfl] at reads
        rw [reads]
        refine ⟨⟨?_, fun past => absurd past.1 open_⟩, absurd empty, fun _ _ => rfl⟩
        rintro ⟨world, done⟩
        cases done
      · rw [if_neg empty] at reads
        rw [reads]
        refine ⟨⟨?_, fun past => absurd past.1 open_⟩, fun _ => ⟨_, rfl⟩,
          fun nothing => absurd nothing empty⟩
        rintro ⟨world, done⟩
        exact absurd (Prod.mk.inj (Except.ok.inj done)).1 (front empty)
  | @ended content past drains balanced ended =>
      have reads := World.read_of_reads drains.reads drains.state positive
      rw [World.inPipe_of_state drains.state]
      dsimp only at reads ⊢
      by_cases empty : content = []
      · rw [if_pos empty, if_neg Bool.false_ne_true] at reads
        rw [reads]
        rw [empty, List.append_nil] at balanced
        exact ⟨⟨fun _ => ⟨ended, balanced⟩, fun _ => ⟨_, rfl⟩⟩, absurd empty,
          fun _ open_ => absurd ended open_⟩
      · rw [if_neg empty] at reads
        rw [reads]
        refine ⟨⟨?_, ?_⟩, fun _ => ⟨_, rfl⟩, fun nothing => absurd nothing empty⟩
        · rintro ⟨world, done⟩
          exact absurd (Prod.mk.inj (Except.ok.inj done)).1 (front empty)
        · rintro ⟨-, all⟩
          rw [← balanced] at all
          exact absurd (List.self_eq_append_right.mp all) empty

end Balanced

namespace Exchange

variable {context writer readEnd writeEnd pipe : Nat} {log : List (Action × Answer)}
  {obtained : Bytes} {opened held : Holdings}

theorem sound (exchange : Exchange context writer readEnd opened log obtained held)
    (start : Sound opened.custody) : Sound held.custody := by
  induction exchange with
  | opened => exact start
  | act earlier part done ih => exact Holdings.sound_perform ih done
  | read earlier some done ih => exact Holdings.sound_inWorld ih _

theorem balanced (exchange : Exchange context writer readEnd opened log obtained held)
    (start : Sound opened.custody)
    (first : Balanced writer readEnd writeEnd pipe [] [] opened) :
    Balanced writer readEnd writeEnd pipe log obtained held := by
  induction exchange with
  | opened => exact first
  | act earlier part done ih =>
      have sound := earlier.sound start
      rcases part with ⟨request, rfl⟩ | rfl | rfl
      · exact ih.request sound done
      · exact ih.release sound rfl done
      · exact ih.release sound rfl done
  | read earlier some done ih => exact ih.read done

end Exchange

/-- A writer on a pipe delivers everything, in order, and ends the stream last. -/
theorem pipe_delivers (world : World) (earlier : List Action) :
    ∃ answers held, (Holdings.start world).run earlier = .done (answers, held) ∧
    ∀ context object, held.contexts.get? context = some object → object.released = false →
    ∀ now readEnd writeEnd pipe, World.Carries now readEnd writeEnd pipe [] →
    ∀ handed : Handed, handed.number = writeEnd →
    ∃ writer opened, (held.inWorld now).perform
        (.context context (.writerOverDescriptor handed)) = .done (.made writer, opened) ∧
    ∀ log obtained after, Exchange context writer readEnd opened log obtained after →
      (∀ action, TakesPart context writer action →
        ∃ answer next, after.perform action = .done (answer, next)) ∧
      obtained ++ after.world.inPipe pipe ++ after.pending writer = acceptedBy writer log ∧
      ∀ count, 0 < count →
        ((∃ next, after.world.read readEnd count = .ok ([], next)) ↔
          Ended log (.writer writer) ∧ obtained = acceptedBy writer log) ∧
        (after.world.inPipe pipe ≠ [] → ∃ next, after.world.read readEnd count =
          .ok ((after.world.inPipe pipe).take count, next)) ∧
        (after.world.inPipe pipe = [] → ¬ Ended log (.writer writer) →
          after.world.read readEnd count = .error (.os .tryAgain)) := by
  obtain ⟨answers, held, ran, sound⟩ := Holdings.run_sound world earlier
  refine ⟨answers, held, ran, ?_⟩
  intro context object found unreleased now readEnd writeEnd pipe carries handed given
  have bare : (held.inWorld now).contexts.get? context = some { share := object.share } := by
    obtain ⟨share, _⟩ := object
    cases unreleased
    exact found
  have fallible : Boundary.Destination.descriptor handed ≠ .growing := nofun
  obtain ⟨writer, opened, made, buffers, -, same, -⟩ := Holdings.exists_buffers bare fallible
    (Boundary.Destination.attempt_descriptor given (held.inWorld now).host.boundary)
    (Arena.get?_alloc_self _ _)
  have start := Holdings.sound_perform (Holdings.sound_inWorld sound now) made
  have carried : opened.world.Carries readEnd writeEnd pipe [] := by
    rw [Holdings.world, same]
    exact carries
  have first : Balanced writer readEnd writeEnd pipe [] [] opened :=
    .flowing buffers carried rfl (not_ended_nil _)
  refine ⟨writer, opened, made, ?_⟩
  intro log obtained after exchange
  have balanced := exchange.balanced start first
  refine ⟨?_, balanced.inPipe_pending, fun count positive => balanced.answers positive⟩
  intro action part
  obtain ⟨answer, next, done, -⟩ := Holdings.perform_spec (exchange.sound start) action
  exact ⟨answer, next, done⟩

/-- All that was accepted is in a new pipe or pending. -/
theorem pipe_delivers_new_pipe :
    ∃ held, (Holdings.start .empty).run [.build { home := some [Path.slash] }] =
        .done ([.made 0], held) ∧
      ∃ writer opened, (held.inWorld World.empty.makePipe.2).perform
          (.context 0 (.writerOverDescriptor (.owned 1))) = .done (.made writer, opened) ∧
      ∃ answer after, opened.perform (.writer writer (.write [1, 2])) = .done (answer, after) ∧
        after.world.inPipe 0 ++ after.pending writer =
          acceptedBy writer [(.writer writer (.write [1, 2]), answer)] := by
  obtain ⟨held, ran, found, -⟩ := Holdings.run_build_root .empty
  obtain ⟨_, _, also, delivers⟩ :=
    pipe_delivers .empty [.build { home := some [Path.slash] }]
  cases ran.symm.trans also
  obtain ⟨writer, opened, made, exchanges⟩ := delivers 0 _ found rfl World.empty.makePipe.2 0 1 0
    (World.carries_makePipe .empty) (.owned 1) rfl
  have part : TakesPart 0 writer (.writer writer (.write [1, 2])) := Or.inl ⟨_, rfl⟩
  obtain ⟨answer, after, done⟩ := (exchanges [] [] opened .opened).1 _ part
  obtain ⟨-, balance, -⟩ := exchanges _ _ _ (.act .opened part done)
  exact ⟨held, ran, writer, opened, made, answer, after, done, balance⟩

end Host

end SessionStreams
