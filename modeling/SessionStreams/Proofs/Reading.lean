import SessionStreams.Proofs.Pieces
import SessionStreams.Proofs.Sentinels

set_option autoImplicit false

namespace SessionStreams

namespace Boundary

/-- What a source has to give: its bytes, or a regular file from the start. -/
def Source.Supplies (source : Source) (world : World) (data : Bytes) : Prop :=
  match source with
  | .bytes given => given = data
  | .file path =>
      ∃ contents, world.stat path.path = .ok (.leaf (.file contents)) ∧
        world.fileBytes contents = data
  | .descriptor handed =>
      ∃ (fd : Nat) (descriptor : Descriptor) (contents : Nat), handed.number = fd ∧
        world.descriptors.get? fd = some descriptor ∧ descriptor.readable = true ∧
        descriptor.target = .file contents ∧ descriptor.offset = 0 ∧
        world.fileBytes contents = data

namespace Reader

/-- These bytes are left to a reader, which is after nothing but these parts of the world. -/
def Offers (reader : Reader) (spots : Set Spot) (world : World) (rest : Bytes) : Prop :=
  match reader with
  | .bytes data => data = rest
  | .descriptor fd =>
      ∃ descriptor contents, world.descriptors.get? fd = some descriptor ∧
        descriptor.readable = true ∧ descriptor.target = .file contents ∧
        (world.fileBytes contents).drop descriptor.offset = rest ∧
        .descriptor fd ∈ spots ∧ .file contents ∈ spots

variable {reader : Reader} {spots : Set Spot} {world after : World} {rest : Bytes}

theorem read_of_offers (offers : reader.Offers spots world rest) (count : Nat) :
    ∃ next after, reader.read count world = .ok (rest.take count, next, after) ∧
      next.Offers spots after (rest.drop count) := by
  cases reader with
  | bytes data =>
      have same : data = rest := offers
      subst same
      exact ⟨_, world, rfl, rfl⟩
  | descriptor fd =>
      obtain ⟨descriptor, contents, found, readable, target, rfl, mine, file⟩ := offers
      have piece := world.filePart_eq contents descriptor.offset count
      have further := World.drop_length_take (world.fileBytes contents) descriptor.offset count
      refine ⟨.descriptor fd, world.setOffset fd descriptor (descriptor.offset +
        (((world.fileBytes contents).drop descriptor.offset).take count).length), ?_,
        _, contents, Arena.get?_set_self _ found, readable, target, further, mine, file⟩
      simp only [read, World.read, found, readable, target, piece, Bool.not_true,
        Bool.false_eq_true, if_false]

theorem Offers.leaves (offers : reader.Offers spots world rest)
    (leaves : World.Leaves spots world after) : reader.Offers spots after rest := by
  cases reader with
  | bytes data => exact offers
  | descriptor fd =>
      obtain ⟨descriptor, contents, found, readable, target, rest, mine, file⟩ := offers
      have stands : after.descriptors.get? fd = world.descriptors.get? fd := leaves _ mine
      have stored : after.files.get? contents = world.files.get? contents := leaves _ file
      refine ⟨descriptor, contents, stands.trans found, readable, target, ?_, mine, file⟩
      rw [← rest, World.fileBytes, World.fileBytes, stored]

/-- A descriptor on a file reaches just the two of them. -/
theorem offers_descriptor {fd contents : Nat} {descriptor : Descriptor}
    (found : world.descriptors.get? fd = some descriptor) (readable : descriptor.readable = true)
    (target : descriptor.target = .file contents) (start : descriptor.offset = 0) :
    (Reader.descriptor fd).Offers ((Reader.descriptor fd).spots world) world
      (world.fileBytes contents) := by
  refine ⟨descriptor, contents, found, readable, target, by rw [start, List.drop_zero],
    World.descriptor_mem_behind world fd, ?_⟩
  refine World.spot_mem_behind found ?_
  rw [target]
  rfl

end Reader

theorem Source.attempt_of_supplies {source : Source} {boundary : Boundary} {data : Bytes}
    (supplies : source.Supplies boundary.world data) :
    ∃ stream world, source.attempt boundary = (.ok boundary.readers.fresh,
        { boundary with world, readers := boundary.readers.alloc stream }) ∧
      stream.Offers (stream.spots world) world data := by
  cases source with
  | bytes given => exact ⟨.bytes given, boundary.world, rfl, supplies⟩
  | file path =>
      obtain ⟨contents, stands, rfl⟩ := supplies
      have there := Arena.get?_alloc_self boundary.world.descriptors
        { target := .file contents, readable := true }
      refine ⟨.descriptor boundary.world.descriptors.fresh, (boundary.world.addDescriptor
        { target := .file contents, readable := true }).2, ?_,
        Reader.offers_descriptor there rfl rfl rfl⟩
      simp only [attempt, tryOpenReader, World.openForReading, stands]
      rfl
  | descriptor handed =>
      obtain ⟨fd, descriptor, contents, given, found, readable, target, start, rfl⟩ := supplies
      exact ⟨.descriptor fd, boundary.world, Source.attempt_descriptor given boundary,
        Reader.offers_descriptor found readable target start⟩

/-- The call makes a reader over the source. -/
def Call.Opens (call : Call) (source : Source) : Prop :=
  match call with
  | .openReader path => source = .file path
  | .readerOverDescriptor number => ∃ handed, handed.number = number ∧ source = .descriptor handed
  | .readerOverBytes loan => ∃ data, loan.view = .ok data ∧ source = .bytes data
  | _ => False

theorem Call.make_of_opens {call : Call} {source : Source} (opens : call.Opens source)
    (slot : ErrorSlot) (boundary : Boundary) :
    call.make slot boundary =
      pack .handle (.done (concludeHandle slot (source.attempt boundary))) := by
  cases call with
  | openReader path =>
      cases opens
      rfl
  | readerOverDescriptor number =>
      obtain ⟨handed, rfl, rfl⟩ := opens
      rfl
  | readerOverBytes loan =>
      obtain ⟨data, viewed, rfl⟩ := opens
      simp only [make, Boundary.readerOverBytes, viewed, Source.attempt]
  | _ => exact opens.elim

/-- A call that read, into any room of the length that was asked for. -/
def Reads (id : Nat) (read : Nat × Bytes) (before after : Boundary) : Prop :=
  ∃ slot room, room.view = .ok read.1 ∧
    (Call.read id room).make slot before = .done ⟨.bytes read.2.length read.2, slot, after⟩

/-- These bytes are left to a reader. -/
def Offers (id : Nat) (spots : Set Spot) (rest : Bytes) (boundary : Boundary) : Prop :=
  ∃ reader, boundary.readers.get? id = some reader ∧ reader.Offers spots boundary.world rest

theorem make_read_of_offers {boundary : Boundary} {id : Nat} {spots : Set Spot} {rest : Bytes}
    (offers : boundary.Offers id spots rest) (count : Nat) :
    ∃ after, after.Offers id spots (rest.drop count) ∧
      ∀ slot room, room.view = .ok count → (Call.read id room).make slot boundary =
        .done ⟨.bytes (rest.take count).length (rest.take count), slot, after⟩ := by
  obtain ⟨reader, live, offered⟩ := offers
  obtain ⟨next, world, read, further⟩ := Reader.read_of_offers offered count
  refine ⟨{ boundary with world, readers := boundary.readers.set id next },
    ⟨next, Arena.get?_set_self next live, further⟩, fun slot room viewed => ?_⟩
  simp only [Call.make, Boundary.read, Outcome.require, live, Outcome.live, Outcome.done_bind,
    tryRead, viewed, read]
  rfl

theorem inOrder (id : Nat) (spots : Set Spot) :
    InOrder (Reads id) (Meanwhile Boundary.readers id spots)
      fun rest boundary => Offers id spots rest boundary := by
  refine ⟨fun {rest state} offers count => ?_, fun {rest state after count data} offers reads => ?_,
    fun {rest state after} offers meanwhile => ?_⟩
  · obtain ⟨after, -, called⟩ := make_read_of_offers offers count
    exact ⟨after, .absent, .space count, rfl, called .absent (.space count) rfl⟩
  · obtain ⟨slot, room, viewed, made⟩ := reads
    obtain ⟨next, further, called⟩ := make_read_of_offers offers count
    have same := (called slot room viewed).symm.trans made
    simp only [Outcome.done.injEq, Reply.mk.injEq, Result.bytes.injEq, true_and] at same
    obtain ⟨⟨-, rfl⟩, rfl⟩ := same
    exact ⟨rfl, further⟩
  · obtain ⟨reader, live, offered⟩ := offers
    exact ⟨reader, meanwhile.stream.trans live, offered.leaves meanwhile.leaves⟩

end Boundary

namespace Host

open Boundary (Call Source)

namespace Holdings

/-- An action that read. -/
def Reads (id : Nat) (read : Nat × Bytes) (held after : Holdings) : Prop :=
  held.perform (.reader id (.read read.1)) = .done (.bytes read.2, after)

/-- These bytes are left to an open reader. -/
structure Offers (id : Nat) (spots : Set Spot) (rest : Bytes) (held : Holdings) : Prop where
  sound : Sound held.custody
  stream : ∃ reader source, held.readers.get? id = some reader ∧ reader.closed = false ∧
    held.host.boundary.readers.get? reader.handle = some source ∧
    source.Offers spots held.world rest

theorem perform_read_of_offers {held : Holdings} {id : Nat} {spots : Set Spot} {rest : Bytes}
    (offers : held.Offers id spots rest) (count : Nat) :
    ∃ after, held.perform (.reader id (.read count)) = .done (.bytes (rest.take count), after) ∧
      after.Offers id spots (rest.drop count) := by
  obtain ⟨sound, reader, source, found, opened, live, offered⟩ := offers
  obtain ⟨next, world, read, further⟩ := Boundary.Reader.read_of_offers offered count
  have performed := perform_read found opened live count
  simp only [read] at performed
  exact ⟨_, performed, sound_perform sound performed, reader, next, found, opened,
    Arena.get?_set_self next live, further⟩

theorem inOrder (id : Nat) (spots : Set Spot) :
    InOrder (Reads id) (Meanwhile (.reader id) spots) fun rest held => Offers id spots rest held := by
  refine ⟨fun {rest state} offers count => ?_, fun {rest state after count data} offers reads => ?_,
    fun {rest state after} offers meanwhile => ?_⟩
  · obtain ⟨after, performed, -⟩ := perform_read_of_offers offers count
    exact ⟨after, performed⟩
  · obtain ⟨next, performed, further⟩ := perform_read_of_offers offers count
    cases performed.symm.trans reads
    exact ⟨rfl, further⟩
  · obtain ⟨sound, reader, source, found, opened, live, offered⟩ := offers
    have known : state.Known (.reader id) := Arena.lt_fresh_of_get? found
    obtain ⟨object, handle⟩ := meanwhile.own sound trivial known
    have there : state.readers.get? id = after.readers.get? id := object
    have stream : state.host.boundary.readers.get? reader.handle =
        after.host.boundary.readers.get? reader.handle :=
      handle (.reader reader.handle) (owns_reader found opened)
    exact ⟨meanwhile.sound sound, reader, source, there.symm.trans found, opened,
      stream.symm.trans live, offered.leaves meanwhile.leaves⟩

/-- A reader that a program makes over a source offers all of it. -/
theorem exists_offers {held : Holdings} (sound : Sound held.custody) {context share : Nat}
    (found : held.contexts.get? context = some { share }) {source : Source} {data : Bytes}
    (supplies : source.Supplies held.world data) :
    ∃ reader opened, held.perform (.context context source.action) = .done (.made reader, opened) ∧
      opened.Offers reader (opened.spots (.reader reader)) data := by
  obtain ⟨stream, world, made, offers⟩ := Source.attempt_of_supplies supplies
  have performed := perform_source_made found made
  have there := Arena.get?_alloc_self held.readers { handle := held.host.boundary.readers.fresh, share }
  have live := Arena.get?_alloc_self held.host.boundary.readers stream
  refine ⟨_, _, performed, sound_perform sound performed, _, stream, there, rfl, live, ?_⟩
  rw [spots_reader there rfl live]
  exact offers

end Holdings

/-- A reader over bytes or over a regular file returns each byte of it once and in order, however
it is read, to a program that goes on from any state with a context that it has not released, and to
any caller behind the boundary. -/
theorem reads_source_once (world : World) (earlier : List Action) :
    (∃ answers held, (Holdings.start world).run earlier = .done (answers, held) ∧
      ∀ context object, held.contexts.get? context = some object → object.released = false →
      ∀ (now : World) (source : Source) (data : Bytes), source.Supplies now data →
      ∃ reader opened, (held.inWorld now).perform (.context context source.action) =
          .done (.made reader, opened) ∧
        ∀ reads after, Dialogue (Holdings.Reads reader)
          (Holdings.Meanwhile (.reader reader) (opened.spots (.reader reader))) opened reads after →
          Served data (Holdings.Reads reader) reads after) ∧
    ∀ (boundary : Boundary) (slot : Boundary.ErrorSlot) (call : Call) (source : Source)
      (data : Bytes), call.Opens source → source.Supplies boundary.world data →
      ∃ id stream opened, call.make slot boundary = .done ⟨.handle (some id), slot, opened⟩ ∧
        opened.readers.get? id = some stream ∧
        ∀ reads after, Dialogue (Boundary.Reads id)
          (Boundary.Meanwhile Boundary.readers id (stream.spots opened.world)) opened reads after →
          Served data (Boundary.Reads id) reads after ∧
          ∀ slot room count, room.view = .ok count → ∃ data next,
            (Call.read id room).make slot after = .done ⟨.bytes data.length data, slot, next⟩ := by
  constructor
  · obtain ⟨answers, held, ran, sound⟩ := Holdings.run_sound world earlier
    refine ⟨answers, held, ran, ?_⟩
    intro context object found unreleased now source data supplies
    have bare := Holdings.bare_of_unreleased found unreleased
    obtain ⟨reader, opened, performed, offers⟩ :=
      Holdings.exists_offers (Holdings.sound_inWorld sound now) bare supplies
    exact ⟨reader, opened, performed, fun reads after dialogue =>
      (Holdings.inOrder reader _).served offers dialogue⟩
  · intro boundary slot call source data opens supplies
    obtain ⟨stream, world, made, offered⟩ := Source.attempt_of_supplies supplies
    have live := Arena.get?_alloc_self boundary.readers stream
    have called := Call.make_of_opens opens slot boundary
    rw [made] at called
    refine ⟨_, stream, _, called, live, fun reads after dialogue => ?_⟩
    have inOrder := Boundary.inOrder boundary.readers.fresh (stream.spots world)
    have offers : Boundary.Offers boundary.readers.fresh (stream.spots world) data
        { boundary with world, readers := boundary.readers.alloc stream } := ⟨stream, live, offered⟩
    obtain ⟨-, further⟩ := inOrder.exact offers dialogue
    refine ⟨inOrder.served offers dialogue, fun slot room count viewed => ?_⟩
    obtain ⟨next, -, reads⟩ := Boundary.make_read_of_offers further count
    exact ⟨_, next, reads slot room viewed⟩

/-- Three bytes come in twos. -/
theorem reads_source_once_three_bytes :
    ∃ held, (Holdings.start .empty).run [.build { home := some [Path.slash] }] =
        .done ([.made 0], held) ∧
      ∃ reader opened after, (held.inWorld .empty).perform
          (.context 0 (.readerOverBytes [1, 2, 3])) = .done (.made reader, opened) ∧
        ReadLoop (Holdings.Reads reader) 2 opened [2, 1, 0] after := by
  obtain ⟨held, ran, found, -⟩ := Holdings.run_build_root .empty
  obtain ⟨⟨_, _, also, reads⟩, -⟩ :=
    reads_source_once .empty [.build { home := some [Path.slash] }]
  cases ran.symm.trans also
  obtain ⟨reader, opened, made, served⟩ := reads 0 _ found rfl .empty (.bytes [1, 2, 3]) _ rfl
  have served := served [] opened .start
  obtain ⟨after, loop⟩ := (served.loop 2 Nat.two_pos [2, 1, 0]).mpr (by decide)
  exact ⟨held, ran, reader, opened, after, made, loop⟩

end Host

end SessionStreams
