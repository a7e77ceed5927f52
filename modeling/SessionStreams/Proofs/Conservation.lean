import SessionStreams.Proofs.Refinement

set_option autoImplicit false

namespace SessionStreams

namespace Boundary

open Buffered (Conserves serve serveAll settle)

/-- Writers over these are buffered. -/
def Destination.Buffers : Destination → Prop
  | .file _ => True
  | .descriptor _ => True
  | .memory _ => False
  | .growing => False

/-- The descriptor that the writer writes to. -/
def Destination.Opens (destination : Destination) (before : World) (fd : Nat) (after : World) :
    Prop :=
  match destination with
  | .file path => before.openForWriting path.path .truncate = .ok (fd, after)
  | .descriptor handed => handed.number = fd ∧ after = before
  | .memory _ => False
  | .growing => False

/-- What a buffered writer over a descriptor has come to after some requests: the answers, what is
pending, the world, and what the descriptor has taken. -/
structure Delivers (fd : Nat) (opened : World) (requests : List Request)
    (answers : List (Except IoFailure Nat)) (pending : Bytes) (world : World) (received : Bytes) :
    Prop where
  served : serveAll (traced fd) requests [] (opened, []) = (answers, pending, world, received)
  conserves : Conserves (traced fd) Prod.snd (opened, []) requests answers pending (world, received)

theorem exists_delivers (fd : Nat) (opened : World) (requests : List Request) :
    ∃ answers pending world received,
      Delivers fd opened requests answers pending world received ∧
        serveAll (offerTo fd) requests [] opened = (answers, pending, world) := by
  have conserves := Buffered.conserves_of_honest (honest_traced fd) (opened, []) requests
  have projected := Buffered.serveAll_project (projects_traced fd) requests [] (opened, [])
  exact ⟨_, _, _, _, ⟨rfl, conserves⟩, projected⟩

theorem settle_traced (fd attempts : Nat) (pending : Bytes) (world : World) (received : Bytes) :
    (settle (offerTo fd) attempts pending world).2.2 =
      (settle (traced fd) attempts pending (world, received)).2.2.1 := by
  have projected := Buffered.settle_project (projects_traced fd) attempts pending (world, received)
  rw [projected]

/-- A third flush does nothing that the second has not done. -/
theorem settle_three (fd : Nat) (pending : Bytes) (world : World) :
    (settle (offerTo fd) 3 pending world).2.2 = (settle (offerTo fd) 2 pending world).2.2 := by
  simp only [settle, Buffered.drain_drain]

theorem opens_of_makeWriter {destination : Destination} {boundary : Boundary}
    {reply : Reply (Option Nat)} {id : Nat} (buffers : destination.Buffers)
    (made : destination.makeWriter boundary = .done reply) (returned : reply.result = some id) :
    ∃ fd, destination.Opens boundary.world fd reply.after.world ∧
      reply.after.writers.get? id = some (.buffered fd []) := by
  rw [destination.makeWriter_eq] at made
  cases made
  cases destination with
  | memory region => cases buffers
  | growing => cases buffers
  | descriptor handed =>
      simp only [Destination.attempt, tryAdd, checkDescriptor] at returned ⊢
      by_cases negative : handed.number < 0
      · rw [if_pos negative] at returned
        cases returned
      · rw [if_neg negative] at returned ⊢
        cases returned
        refine ⟨handed.number.toNat, ⟨?_, rfl⟩, Arena.get?_alloc_self _ _⟩
        omega
  | file path =>
      simp only [Destination.attempt, tryOpenWriter] at returned ⊢
      cases opened : boundary.world.openForWriting path.path .truncate with
      | error failure =>
          rw [opened] at returned
          cases returned
      | ok result =>
          rw [opened] at returned
          cases returned
          exact ⟨result.1, opened, Arena.get?_alloc_self _ _⟩

/-- What calls return on a buffered writer. -/
def returns (requests : List Request) (answers : List (Except IoFailure Nat)) : List Returned :=
  requests.zipWith (fun request answer => .ofRequest request (answer.mapError .ofIo)) answers

/-- The writer is a buffer over the descriptor, flushed twice when it is freed. -/
def Serves (opened : Boundary) (id fd : Nat) : Prop :=
  ∀ requests, ∃ after served pending received,
    Delivers fd opened.world requests served pending after.world received ∧
    callAll (callWriter id) requests opened = .done (returns requests served, after) ∧
    after.writers.get? id = some (.buffered fd pending) ∧
    ∃ freed, after.freeWriter (some id) = .done freed ∧
      freed.world = (settle (traced fd) 2 pending (after.world, received)).2.2.1.close fd

/-- Calls on a buffered writer are served by its descriptor. -/
theorem callAll_buffered {boundary : Boundary} {id fd : Nat} {pending : Bytes}
    (live : boundary.writers.get? id = some (.buffered fd pending)) (requests : List Request) :
    ∃ after, callAll (callWriter id) requests boundary =
        .done (returns requests (serveAll (offerTo fd) requests pending boundary.world).1, after) ∧
      after.writers.get? id =
        some (.buffered fd (serveAll (offerTo fd) requests pending boundary.world).2.1) ∧
      after.world = (serveAll (offerTo fd) requests pending boundary.world).2.2 := by
  induction requests generalizing boundary pending with
  | nil => exact ⟨boundary, rfl, live, rfl⟩
  | cons request rest ih =>
      have called := callWriter_eq live request
      rw [Writer.serve_buffered] at called
      have next : ({ boundary with
          world := (serve (offerTo fd) request pending boundary.world).2.2
          writers := boundary.writers.set id (.buffered fd
            (serve (offerTo fd) request pending boundary.world).2.1) } : Boundary).writers.get? id =
          some (.buffered fd (serve (offerTo fd) request pending boundary.world).2.1) :=
        Arena.get?_set_self _ live
      obtain ⟨after, further, still, world⟩ := ih next
      refine ⟨after, ?_, still, world⟩
      simp only [callAll, called, Outcome.done_bind, further]
      rfl

theorem free_buffered {boundary : Boundary} {id fd : Nat} {pending : Bytes}
    (live : boundary.writers.get? id = some (.buffered fd pending)) :
    ∃ freed, boundary.freeWriter (some id) = .done freed ∧
      freed.world = (settle (offerTo fd) 2 pending boundary.world).2.2.close fd := by
  refine ⟨{ boundary with
    world := (Writer.buffered fd pending).finish boundary.world
    writers := boundary.writers.release id }, ?_, Writer.finish_buffered fd pending _⟩
  simp only [freeWriter, live, Outcome.live, Outcome.done_bind]

theorem serves_of_buffered {opened : Boundary} {id fd : Nat}
    (live : opened.writers.get? id = some (.buffered fd [])) : opened.Serves id fd := by
  intro requests
  obtain ⟨served, pending, world, received, delivers, projected⟩ :=
    exists_delivers fd opened.world requests
  obtain ⟨after, called, there, same⟩ := callAll_buffered live requests
  rw [projected] at called there same
  obtain ⟨freed, done, finished⟩ := free_buffered there
  rw [settle_traced fd 2 pending _ received] at finished
  dsimp only at same
  rw [← same] at delivers
  exact ⟨after, served, pending, received, delivers, called, there, freed, done, finished⟩

end Boundary

namespace Host

open Boundary (Delivers Destination Outcome Reply Request callAll callWriter offerTo returns traced)
open Boundary.Buffered (Conserves Honest Willing serve serveAll settle)

theorem Agrees.exists_handle {number : Nat} {id : Option Nat} {stored : Option Boundary.Fault}
    (agrees : Agrees (.made number) (.handle id stored)) : ∃ found, id = some found := by
  cases agrees
  exact ⟨_, rfl⟩

/-- The ends that a writer without a sink can come to, and the answers. -/
def endings : List (WriterAction × Answer) :=
  [(.close, .nothing), (.drop, .nothing),
    (.harvest, .failed ⟨.invalidOperation, "Writer does not collect data"⟩)]

/-- The host's writer is a buffer over the descriptor, flushed three times at its end. -/
def Holdings.Serves (opened : Holdings) (writer fd : Nat) : Prop :=
  ∀ requests, ∃ answers after served pending received,
    Delivers fd opened.host.boundary.world requests served pending after.host.boundary.world
      received ∧
    opened.run (requests.map fun request => .writer writer request.action) =
      .done (answers, after) ∧
    List.Forall₂ Agrees answers (returns requests served) ∧
    (∃ object, after.writers.get? writer = some object ∧
      after.host.boundary.writers.get? object.handle = some (.buffered fd pending)) ∧
    ∀ ending answer, (ending, answer) ∈ endings →
      ∃ ended, after.perform (.writer writer ending) = .done (answer, ended) ∧
        ended.host.boundary.world =
          (settle (traced fd) 3 pending (after.host.boundary.world, received)).2.2.1.close fd

theorem PairedWriter.serves {context share writer id fd : Nat} {opened : Holdings}
    {native : Boundary} (paired : PairedWriter context share writer id none opened native)
    (live : native.writers.get? id = some (.buffered fd [])) : opened.Serves writer fd := by
  intro requests
  have step (held : Holdings) (other : Boundary) (request : Request)
      (related : PairedWriter context share writer id none held other) := related.request request
  obtain ⟨answers, after, returned, other, ran, called, agrees, still⟩ :=
    run_agrees step paired requests
  obtain ⟨last, served, pending, received, delivers, again, there, freed, done, finished⟩ :=
    Boundary.serves_of_buffered live requests
  rw [called] at again
  cases again
  obtain ⟨handle, target, found, own, also⟩ := still.stream
  rw [there] at also
  cases also
  rw [← Boundary.settle_traced, ← Boundary.settle_three,
    Boundary.settle_traced fd 3 pending _ received, ← still.world] at finished
  rw [← paired.world, ← still.world] at delivers
  obtain ⟨one, first, ⟨closed, close, closing⟩, dropped, drop, dropping⟩ := still.close
  obtain ⟨two, harvested, second, harvest, harvesting⟩ := still.harvest
  rw [done] at first second
  cases first
  cases second
  refine ⟨answers, after, served, pending, received, delivers, ran, agrees, ⟨_, found, own⟩, ?_⟩
  intro ending answer listed
  simp only [endings, List.mem_cons, Prod.mk.injEq, List.not_mem_nil, or_false] at listed
  rcases listed with ⟨rfl, rfl⟩ | ⟨rfl, rfl⟩ | ⟨rfl, rfl⟩
  · exact ⟨closed, close, closing.trans finished⟩
  · exact ⟨dropped, drop, dropping.trans finished⟩
  · exact ⟨harvested, harvest, harvesting.trans finished⟩

/-- No byte is lost, sent twice or out of order by a buffered writer: whatever an honest device
does, it has received what was accepted but for what is pending. A writer behind the boundary over a
file or a descriptor is such a buffer, and so is one that the host makes with a context of any
program. -/
theorem no_byte_lost :
    (∀ (σ : Type) (offer : Boundary.Offer σ) (received : σ → Bytes), Honest offer received →
      ∀ start requests, ∃ answers pending state,
        serveAll offer requests [] start = (answers, pending, state) ∧
          Conserves offer received start requests answers pending state) ∧
    (∀ (boundary : Boundary) (destination : Destination), destination.Buffers →
      ∀ reply id, destination.makeWriter boundary = .done reply → reply.result = some id →
        ∃ fd, destination.Opens boundary.world fd reply.after.world ∧ reply.after.Serves id fd) ∧
    ∀ (world : World) (earlier : List Action),
      ∃ answers held, (Holdings.start world).run earlier = .done (answers, held) ∧
      ∀ context object, held.contexts.get? context = some object → object.released = false →
      ∀ destination : Destination, destination.Buffers →
      ∀ writer opened, held.perform (.context context destination.action) =
          .done (.made writer, opened) →
        ∃ fd, destination.Opens held.host.boundary.world fd opened.host.boundary.world ∧
          opened.Serves writer fd := by
  refine ⟨?_, ?_, ?_⟩
  · intro σ offer received honest start requests
    exact ⟨_, _, _, rfl, Boundary.Buffered.conserves_of_honest honest start requests⟩
  · intro boundary destination buffers reply id made returned
    obtain ⟨fd, opens, live⟩ := Boundary.opens_of_makeWriter buffers made returned
    exact ⟨fd, opens, Boundary.serves_of_buffered live⟩
  · intro world earlier
    obtain ⟨answers, held, ran, sound⟩ := Holdings.run_sound world earlier
    refine ⟨answers, held, ran, ?_⟩
    intro context object found unreleased destination buffers writer opened performed
    have same : held.host.boundary.world = held.host.boundary.world := rfl
    have paired := Paired.of_context sound found unreleased same
    obtain ⟨answer, after, reply, again, made, agrees, worlds, pairs⟩ :=
      PairedWriter.make paired destination
    rw [performed] at again
    cases again
    obtain ⟨id, returned⟩ := agrees.exists_handle
    obtain ⟨fd, opens, entry⟩ := Boundary.opens_of_makeWriter buffers made returned
    have both := pairs writer id rfl returned
    have bare : destination.sink? held.host.boundary.world = none := by
      cases destination with
      | growing => cases buffers
      | _ => rfl
    rw [bare] at both
    rw [← worlds] at opens
    exact ⟨fd, opens, both.serves entry⟩

/-- A device that is interrupted by every offer, and then takes a single byte. -/
def hesitant : Boundary.Offer Bytes := fun data received =>
  .interrupted received (.answered (.ok 1) (received ++ data.take 1))

theorem no_byte_lost_hesitant :
    ∃ pending state, serveAll hesitant [.write [1, 2], .write [3]] [] [] =
        ([.ok 2, .ok 1], pending, state) ∧ pending = [1, 2, 3] ∧
      serve hesitant .flush pending state = (.ok 0, [], [1, 2, 3]) := by
  have honest : Honest hesitant id := fun data received someData =>
    ⟨rfl, Nat.one_pos, List.length_pos_of_ne_nil someData, rfl⟩
  have willing : Willing hesitant fun _ => True := fun data received someData ready =>
    ⟨1, received ++ data.take 1, rfl, Nat.one_pos, ready⟩
  obtain ⟨answers, pending, state, served, conserves⟩ :=
    no_byte_lost.1 Bytes hesitant id honest [] [.write [1, 2], .write [3]]
  obtain ⟨after, flushed, whole, -⟩ := conserves.delivered (fun _ => True) willing trivial
  have small : serveAll hesitant [.write [1, 2], .write [3]] [] [] =
      ([.ok 2, .ok 1], [1, 2, 3], []) := rfl
  cases small.symm.trans served
  have received : after = [1, 2, 3] := whole
  exact ⟨_, _, served, rfl, received ▸ flushed⟩

end Host

end SessionStreams
