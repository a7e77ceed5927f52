import SessionStreams.Proofs.Custody
import SessionStreams.Proofs.Replies

set_option autoImplicit false

/- What the host does, in moves. From sound custody every operation returns (`letGo_spec`,
`close_spec`, `ofPath_spec`, `build_spec`), and what it did is a chain of moves that ends with the
right claims. -/

namespace SessionStreams.Host

open Boundary (Added Attempted Fault Outcome Removed Steady)

/-- Any number of moves. -/
abbrev Moves : Custody → Custody → Prop := Relation.ReflTransGen Move

theorem Moves.sound {before after : Custody} (moves : Moves before after) (sound : Sound before) :
    Sound after := by
  induction moves with
  | refl => exact sound
  | tail _ move ih => exact move.sound ih

/-- Moves that let nothing appear in the tree. -/
def Ebb (before after : Custody) : Prop :=
  Move before after ∧ ∀ place, before.host.boundary.world.tree.node? place = none →
    after.host.boundary.world.tree.node? place = none

abbrev Ebbs : Custody → Custody → Prop := Relation.ReflTransGen Ebb

theorem Ebbs.moves {before after : Custody} (ebbs : Ebbs before after) : Moves before after := by
  induction ebbs with
  | refl => exact Relation.ReflTransGen.refl
  | tail _ ebb ih => exact ih.tail ebb.1

theorem Move.ebb {before after : Custody} (move : Move before after)
    (keeps : before.host.boundary.world.Keeps after.host.boundary.world) : Ebb before after := by
  refine ⟨move, ?_⟩
  intro place vacant
  rw [keeps.tree]
  exact vacant

/-- What an object of the host has a claim to. -/
def Context.claim? (context : Context) : Option Claim :=
  if context.released then none else some { share := context.share }

def Reader.claim? (reader : Reader) : Option Claim :=
  if reader.closed then none
  else some { share := reader.share, handle := some (.reader reader.handle) }

def Writer.claim? (writer : Writer) : Option Claim :=
  if writer.closed then none
  else some { share := writer.share, handle := some (.writer writer.handle) }

namespace Custody

theorem put_put (custody : Custody) (address : Address) (first second : Option Claim)
    (earlier host : Host) :
    (custody.put address first earlier).put address second host =
      custody.put address second host := by
  simp only [put, Function.update_idem]

theorem put_of_claim {custody : Custody} {address : Address} {claim : Option Claim}
    (found : custody.claim? address = claim) (host : Host) :
    custody.put address claim host = { custody with host } := by
  subst found
  simp only [put, Function.update_eq_self]

end Custody

section

variable {custody : Custody} {address : Address} {share : Nat}

@[simp] theorem boundary_hold (host : Host) (share : Nat) :
    (host.hold share).boundary = host.boundary := by
  unfold Host.hold
  split <;> rfl

theorem letGo_spec (sound : Sound custody) (found : custody.claim? address = some { share }) :
    ∃ host, custody.host.letGo share = .done host ∧
      Ebb custody (custody.put address none host) := by
  obtain ⟨state, shared⟩ := sound.exists_share (Custody.holds_of_claim found)
  unfold Host.letGo
  simp only [shared, Outcome.live, Outcome.done_bind]
  by_cases only : state.holders ≤ 1
  · obtain ⟨record, live, -⟩ := sound.session share state shared
    simp only [only, if_true, Boundary.freeContext, live, Outcome.live, Outcome.done_bind]
    refine ⟨_, rfl, Move.last found shared only live, ?_⟩
    intro place vacant
    exact World.node?_close_of_none record vacant
  · simp only [only, if_false]
    exact ⟨_, rfl, (Move.leave found shared (Nat.lt_of_not_le only)).ebb (World.Keeps.refl _)⟩

/-- A stream that is freed lets its session go. -/
theorem free_letGo_spec (sound : Sound custody) {handle : Handle} {after : Boundary}
    (found : custody.claim? address = some { share, handle := some handle })
    (removed : Removed handle custody.host.boundary after)
    (keeps : custody.host.boundary.world.Keeps after.world) :
    ∃ host, ({ custody.host with boundary := after }.note (.freed handle)).letGo share =
        .done host ∧ Ebbs custody (custody.put address none host) := by
  have first := Move.free found removed keeps
  have bare : (custody.put address (some { share })
      ({ custody.host with boundary := after }.note (.freed handle))).claim? address =
        some { share } := by
    rw [Custody.claim?_put, if_pos rfl]
  obtain ⟨host, gone, second⟩ := letGo_spec (first.sound sound) bare
  rw [Custody.put_put] at second
  exact ⟨host, gone, (Relation.ReflTransGen.single (first.ebb keeps)).tail second⟩

theorem Reader.claim?_of_open {reader : Reader} (opened : reader.closed = false) :
    reader.claim? = some { share := reader.share, handle := some (.reader reader.handle) } := by
  rw [claim?, opened]
  rfl

theorem Writer.claim?_of_open {writer : Writer} (opened : writer.closed = false) :
    writer.claim? = some { share := writer.share, handle := some (.writer writer.handle) } := by
  rw [claim?, opened]
  rfl

theorem Reader.exists_source (sound : Sound custody) {reader : Reader}
    (opened : reader.closed = false) (found : custody.claim? address = reader.claim?) :
    ∃ source, custody.host.boundary.readers.get? reader.handle = some source := by
  rw [claim?_of_open opened] at found
  exact Option.isSome_iff_exists.mp (sound.alive address _ (Custody.owns_of_claim found))

theorem Writer.exists_target (sound : Sound custody) {writer : Writer}
    (opened : writer.closed = false) (found : custody.claim? address = writer.claim?) :
    ∃ target, custody.host.boundary.writers.get? writer.handle = some target := by
  rw [claim?_of_open opened] at found
  exact Option.isSome_iff_exists.mp (sound.alive address _ (Custody.owns_of_claim found))

theorem Reader.read_spec (sound : Sound custody) {reader : Reader}
    (found : custody.claim? address = reader.claim?) (count : Nat) :
    ∃ result, reader.read count custody.host = .done result ∧
      Moves custody { custody with host := result.2 } := by
  by_cases closed : reader.closed
  · simp only [read, closed, if_true]
    exact ⟨_, rfl, Relation.ReflTransGen.refl⟩
  · have opened : reader.closed = false := by simpa using closed
    obtain ⟨source, live⟩ := exists_source sound opened found
    rw [claim?_of_open opened] at found
    have steady := Boundary.steady_tryRead live (.space count)
    exact ⟨_, read_eq opened live count,
      Relation.ReflTransGen.single (Move.use (Custody.owns_of_claim found) steady)⟩

theorem Reader.close_spec (sound : Sound custody) {reader : Reader}
    (found : custody.claim? address = reader.claim?) :
    ∃ host, reader.close custody.host = .done ({ reader with closed := true }, host) ∧
      Ebbs custody (custody.put address none host) := by
  by_cases closed : reader.closed
  · rw [claim?, if_pos closed] at found
    refine ⟨custody.host, ?_, ?_⟩
    · simp only [close, closed, if_true]
      rw [← closed]
    · rw [Custody.put_of_claim found]
  · have opened : reader.closed = false := by simpa using closed
    obtain ⟨source, live⟩ := exists_source sound opened found
    rw [claim?_of_open opened] at found
    obtain ⟨after, freed, removed, keeps⟩ := Boundary.removed_freeReader live
    obtain ⟨host, gone, moves⟩ := free_letGo_spec sound found removed keeps
    refine ⟨host, ?_, moves⟩
    simp only [close, opened, Bool.false_eq_true, if_false, freed, Outcome.done_bind, gone]

theorem Reader.drop_spec (sound : Sound custody) {reader : Reader}
    (found : custody.claim? address = reader.claim?) :
    ∃ host, reader.drop custody.host = .done host ∧
      Ebbs custody (custody.put address none host) := by
  obtain ⟨host, closed, moves⟩ := close_spec sound found
  exact ⟨host, by simp only [drop, closed, Outcome.done_bind], moves⟩

theorem Writer.write_spec (sound : Sound custody) {writer : Writer}
    (found : custody.claim? address = writer.claim?) (data : Bytes) :
    ∃ result, writer.write data custody.host = .done result ∧
      Moves custody { custody with host := result.2 } := by
  by_cases closed : writer.closed
  · simp only [write, closed, if_true]
    exact ⟨_, rfl, Relation.ReflTransGen.refl⟩
  · have opened : writer.closed = false := by simpa using closed
    obtain ⟨target, live⟩ := exists_target sound opened found
    rw [claim?_of_open opened] at found
    have steady := Boundary.steady_tryWrite live (.bytes data)
    exact ⟨_, write_eq opened live data,
      Relation.ReflTransGen.single (Move.use (Custody.owns_of_claim found) steady)⟩

theorem Writer.flushOpen_spec (sound : Sound custody) {writer : Writer}
    (opened : writer.closed = false) (found : custody.claim? address = writer.claim?) :
    ∃ result, writer.flushOpen custody.host = .done result ∧
      Ebb custody { custody with host := result.2 } := by
  obtain ⟨target, live⟩ := exists_target sound opened found
  rw [claim?_of_open opened] at found
  have move := Move.use (Custody.owns_of_claim found) (Boundary.steady_tryFlush live)
  exact ⟨_, flushOpen_eq live, move.ebb (target.keeps_flush custody.host.boundary.world)⟩

theorem Writer.flush_spec (sound : Sound custody) {writer : Writer}
    (found : custody.claim? address = writer.claim?) :
    ∃ result, writer.flush custody.host = .done result ∧
      Moves custody { custody with host := result.2 } := by
  by_cases closed : writer.closed
  · simp only [flush, closed, if_true]
    exact ⟨_, rfl, Relation.ReflTransGen.refl⟩
  · have opened : writer.closed = false := by simpa using closed
    obtain ⟨result, flushed, ebb⟩ := flushOpen_spec sound opened found
    refine ⟨result, ?_, Relation.ReflTransGen.single ebb.1⟩
    simp only [flush, opened, Bool.false_eq_true, if_false, flushed]

theorem Writer.close_spec (sound : Sound custody) {writer : Writer}
    (found : custody.claim? address = writer.claim?) :
    ∃ host, writer.close custody.host = .done ({ writer with closed := true }, host) ∧
      Ebbs custody (custody.put address none host) := by
  by_cases closed : writer.closed
  · rw [claim?, if_pos closed] at found
    refine ⟨custody.host, ?_, ?_⟩
    · simp only [close, closed, if_true]
      rw [← closed]
    · rw [Custody.put_of_claim found]
  · have opened : writer.closed = false := by simpa using closed
    obtain ⟨⟨answer, middle⟩, flushed, first⟩ := flushOpen_spec sound opened found
    have still : Sound { custody with host := middle } := first.1.sound sound
    obtain ⟨target, live⟩ := exists_target still opened found
    rw [claim?_of_open opened] at found
    obtain ⟨after, freed, removed, keeps⟩ := Boundary.removed_freeWriter live
    obtain ⟨host, gone, moves⟩ := free_letGo_spec still found removed keeps
    refine ⟨host, ?_, moves.head first⟩
    simp only [close, opened, Bool.false_eq_true, if_false, flushed, Outcome.done_bind, freed, gone]

theorem mapWorld_spec (custody : Custody) (change : World → World)
    (keeps : custody.host.boundary.world.Keeps (change custody.host.boundary.world)) :
    Ebb custody { custody with host := custody.host.mapWorld change } :=
  (Move.stir (Steady.of_world custody.host.boundary keeps.grows)).ebb keeps

theorem Writer.drop_spec (sound : Sound custody) {writer : Writer}
    (found : custody.claim? address = writer.claim?) :
    ∃ host, writer.drop custody.host = .done host ∧
      Ebbs custody (custody.put address none host) := by
  obtain ⟨host, closed, ebbs⟩ := close_spec sound found
  unfold drop
  rw [closed, Outcome.done_bind]
  cases writer.sink with
  | none => exact ⟨host, rfl, ebbs⟩
  | some sink =>
      exact ⟨_, rfl, ebbs.tail (mapWorld_spec _ _ ⟨rfl, rfl, rfl, rfl, rfl, rfl⟩)⟩

theorem Writer.harvest_spec (sound : Sound custody) {writer : Writer}
    (found : custody.claim? address = writer.claim?) :
    ∃ result, writer.harvest custody.host = .done result ∧
      Ebbs custody (custody.put address none result.2) := by
  cases there : writer.sink with
  | none =>
      obtain ⟨host, dropped, moves⟩ := drop_spec sound found
      simp only [harvest, there, dropped, Outcome.done_bind]
      exact ⟨_, rfl, moves⟩
  | some sink =>
      obtain ⟨middle, closed, first⟩ := close_spec sound found
      have still := Moves.sound (Ebbs.moves first) sound
      have given : (custody.put address none middle).claim? address =
          claim? { writer with closed := true } := by
        rw [Custody.claim?_put, if_pos rfl]
        rfl
      obtain ⟨host, dropped, second⟩ := drop_spec still given
      rw [Custody.host_put, there] at dropped
      rw [Custody.put_put] at second
      simp only [harvest, there, closed, Outcome.done_bind, dropped]
      exact ⟨_, rfl, first.trans second⟩

/-- What a constructor that was called with a context leaves behind: nothing but perhaps a trace in
the world, or a stream with a share in the context's session. -/
inductive Constructed {α : Type} (claim : α → Option Claim) (custody : Custody)
    (source address : Address) : Except Error α × Host → Prop where
  | refused {error : Error} {host : Host} (moves : Moves custody { custody with host }) :
      Constructed claim custody source address (.error error, host)
  | made {object : α} {host : Host} {share : Nat} {handle : Handle}
      (held : custody.claim? source = some { share })
      (claimed : claim object = some { share, handle := some handle })
      (moves : Moves custody (custody.put address (claim object) host)) :
      Constructed claim custody source address (.ok object, host)

theorem Constructed.unchanged {α : Type} (claim : α → Option Claim) (custody : Custody)
    (source address : Address) (error : Error) :
    Constructed claim custody source address (.error error, custody.host) :=
  .refused Relation.ReflTransGen.refl

/-- A handle that was asked for with a share in hold is adopted, or the share is given back. -/
theorem adopt_spec {α : Type} (sound : Sound custody) {source : Address}
    (found : custody.claim? source = some { share }) (vacant : custody.claim? address = none)
    {handle : Nat → Handle} (stream : ∀ id, (handle id).IsStream) {make : α → Option Claim}
    {object : Nat → α}
    (claimed : ∀ id, make (object id) = some { share, handle := some (handle id) }) (name : String)
    {attempt : Except Fault Nat × Boundary}
    (attempted : Attempted handle custody.host.boundary attempt) :
    ∃ result, (custody.host.hold share).adopt name handle share object
        (Boundary.concludeHandle .empty attempt) = .done result ∧
      Constructed make custody source address result := by
  have first := Move.hold (Custody.holds_of_claim found) vacant
  have mine : (custody.put address (some { share }) (custody.host.hold share)).claim? address =
      some { share } := by
    rw [Custody.claim?_put, if_pos rfl]
  unfold adopt
  simp only [concludeHandle_after, examine_concludeHandle, Outcome.done_bind]
  obtain ⟨answer, after⟩ := attempt
  cases answer with
  | ok id =>
      have added : Added (handle id) (custody.host.hold share).boundary after := by
        rw [boundary_hold]
        exact attempted
      have second := Move.take mine (stream id) added
      rw [Custody.put_put, ← claimed] at second
      exact ⟨_, rfl, .made found (claimed id) ((Relation.ReflTransGen.single first).tail second)⟩
  | error fault =>
      have steady : Steady (custody.host.hold share).boundary after := by
        rw [boundary_hold]
        exact attempted
      have second := (Move.stir steady :
        Move (custody.put address (some { share }) (custody.host.hold share)) _)
      obtain ⟨host, gone, third⟩ := letGo_spec (second.sound (first.sound sound)) mine
      simp only [mapError_error]
      refine ⟨(.error (.reporting fault), host), ?_, .refused ?_⟩
      · rw [show ({ custody.host.hold share with boundary := after } : Host).letGo share =
          .done host from gone]
        rfl
      · have moves := ((Relation.ReflTransGen.single first).tail second).tail third.1
        change Moves custody ((custody.put address _ _).put address none host) at moves
        rw [Custody.put_put, Custody.put_of_claim vacant] at moves
        exact moves

variable {context : Context} {source : Address}

theorem holding_of_released (released : context.released = true) (host : Host) :
    context.holding host = .error (.released "Context") := by
  rw [Context.holding, if_pos released]

theorem holding_of_held (held : context.released = false) (host : Host) :
    context.holding host = .ok (host.hold context.share) := by
  rw [Context.holding, held]
  rfl

theorem claim?_of_held (held : context.released = false) :
    context.claim? = some { share := context.share } := by
  rw [Context.claim?, held]
  rfl

theorem dropHanded_spec (custody : Custody) (handed : Handed) :
    Moves custody { custody with host := custody.host.mapWorld (·.dropHanded handed) } := by
  cases handed with
  | owned fd =>
      exact Relation.ReflTransGen.single (mapWorld_spec custody _ (World.keeps_close _ fd)).1
  | raw number => exact Relation.ReflTransGen.refl

theorem Reader.adopt_spec (sound : Sound custody) (held : context.released = false)
    (found : custody.claim? source = context.claim?) (vacant : custody.claim? address = none)
    {attempt : Except Fault Nat × Boundary}
    (attempted : Attempted .reader custody.host.boundary attempt) :
    ∃ result, Reader.adopt (custody.host.hold context.share) context.share
        (Boundary.concludeHandle .empty attempt) = .done result ∧
      Constructed Reader.claim? custody source address result := by
  rw [claim?_of_held held] at found
  have claimed (handle : Nat) : Reader.claim? { handle, share := context.share } =
      some { share := context.share, handle := some (.reader handle) } := rfl
  exact Host.adopt_spec sound found vacant Handle.isStream_reader claimed "Reader" attempted

theorem Writer.adopt_spec (sound : Sound custody) (held : context.released = false)
    (found : custody.claim? source = context.claim?) (vacant : custody.claim? address = none)
    {attempt : Except Fault Nat × Boundary}
    (attempted : Attempted .writer custody.host.boundary attempt) :
    ∃ result, Writer.adopt (custody.host.hold context.share) context.share
        (Boundary.concludeHandle .empty attempt) = .done result ∧
      Constructed Writer.claim? custody source address result := by
  rw [claim?_of_held held] at found
  have claimed (handle : Nat) : Writer.claim? { handle, share := context.share } =
      some { share := context.share, handle := some (.writer handle) } := rfl
  exact Host.adopt_spec sound found vacant Handle.isStream_writer claimed "Writer" attempted

theorem Reader.ofPath_spec (sound : Sound custody) (found : custody.claim? source = context.claim?)
    (vacant : custody.claim? address = none) (path : Path) :
    ∃ result, Reader.ofPath context path custody.host = .done result ∧
      Constructed Reader.claim? custody source address result := by
  unfold ofPath
  split
  · next error _ => exact ⟨_, rfl, .unchanged _ custody source address error⟩
  · next text _ =>
      cases released : context.released with
      | true =>
          rw [holding_of_released released]
          exact ⟨_, rfl, .unchanged _ custody source address _⟩
      | false =>
          rw [holding_of_held released]
          simp only [Boundary.openReader, Outcome.require, Outcome.done_bind, boundary_hold]
          exact adopt_spec sound released found vacant
            (Boundary.attempted_tryOpenReader custody.host.boundary text.path)

theorem Reader.ofDescriptor_spec (sound : Sound custody)
    (found : custody.claim? source = context.claim?) (vacant : custody.claim? address = none)
    (handed : Handed) :
    ∃ result, Reader.ofDescriptor context handed custody.host = .done result ∧
      Constructed Reader.claim? custody source address result := by
  unfold ofDescriptor
  cases released : context.released with
  | true =>
      rw [holding_of_released released]
      exact ⟨_, rfl, .refused (dropHanded_spec custody handed)⟩
  | false =>
      rw [holding_of_held released]
      simp only [Boundary.readerOverDescriptor, Outcome.done_bind, boundary_hold]
      exact adopt_spec sound released found vacant
        (Boundary.attempted_tryAdd (fun fd => Boundary.added_addReader _ (.descriptor fd)) _)

theorem Reader.ofBytes_spec (sound : Sound custody)
    (found : custody.claim? source = context.claim?) (vacant : custody.claim? address = none)
    (data : Bytes) :
    ∃ result, Reader.ofBytes context data custody.host = .done result ∧
      Constructed Reader.claim? custody source address result := by
  unfold ofBytes
  cases released : context.released with
  | true =>
      rw [holding_of_released released]
      exact ⟨_, rfl, .unchanged _ custody source address _⟩
  | false =>
      rw [holding_of_held released]
      simp only [Boundary.readerOverBytes, Outcome.done_bind, boundary_hold]
      exact adopt_spec sound released found vacant
        (Boundary.attempted_tryAdd (fun data => Boundary.added_addReader _ (.bytes data)) _)

theorem Writer.ofPath_spec (sound : Sound custody) (found : custody.claim? source = context.claim?)
    (vacant : custody.claim? address = none) (path : Path) :
    ∃ result, Writer.ofPath context path custody.host = .done result ∧
      Constructed Writer.claim? custody source address result := by
  unfold ofPath
  split
  · next error _ => exact ⟨_, rfl, .unchanged _ custody source address error⟩
  · next text _ =>
      cases released : context.released with
      | true =>
          rw [holding_of_released released]
          exact ⟨_, rfl, .unchanged _ custody source address _⟩
      | false =>
          rw [holding_of_held released]
          simp only [Boundary.openWriter, Outcome.require, Outcome.done_bind, boundary_hold]
          exact adopt_spec sound released found vacant
            (Boundary.attempted_tryOpenWriter custody.host.boundary text.path)

theorem Writer.ofDescriptor_spec (sound : Sound custody)
    (found : custody.claim? source = context.claim?) (vacant : custody.claim? address = none)
    (handed : Handed) :
    ∃ result, Writer.ofDescriptor context handed custody.host = .done result ∧
      Constructed Writer.claim? custody source address result := by
  unfold ofDescriptor
  cases released : context.released with
  | true =>
      rw [holding_of_released released]
      exact ⟨_, rfl, .refused (dropHanded_spec custody handed)⟩
  | false =>
      rw [holding_of_held released]
      simp only [Boundary.writerOverDescriptor, Outcome.done_bind, boundary_hold]
      exact adopt_spec sound released found vacant
        (Boundary.attempted_tryAdd (fun fd => Boundary.added_addWriter _ (.buffered fd [])) _)

theorem Writer.ofMemory_spec (sound : Sound custody)
    (found : custody.claim? source = context.claim?) (vacant : custody.claim? address = none)
    (region : Boundary.Region) :
    ∃ result, Writer.ofMemory context region custody.host = .done result ∧
      Constructed Writer.claim? custody source address result := by
  unfold ofMemory
  cases released : context.released with
  | true =>
      rw [holding_of_released released]
      exact ⟨_, rfl, .unchanged _ custody source address _⟩
  | false =>
      rw [holding_of_held released]
      simp only [Boundary.writerOverMemory, Outcome.done_bind, boundary_hold]
      exact adopt_spec sound released found vacant
        (Boundary.attempted_tryAdd (Boundary.added_addWriter custody.host.boundary) _)

theorem Writer.allocating_spec (found : custody.claim? source = context.claim?)
    (vacant : custody.claim? address = none) :
    ∃ result, Writer.allocating context custody.host = .done result ∧
      Constructed Writer.claim? custody source address result := by
  unfold allocating
  cases released : context.released with
  | true =>
      rw [holding_of_released released]
      exact ⟨_, rfl, .unchanged _ custody source address _⟩
  | false =>
      rw [holding_of_held released]
      rw [claim?_of_held released] at found
      have first := Move.hold (Custody.holds_of_claim found) vacant
      have second := mapWorld_spec
        (custody.put address (some { share := context.share }) (custody.host.hold context.share))
        (fun world => { world with sinks := world.sinks.alloc .missing })
        ⟨rfl, rfl, rfl, rfl, rfl, rfl⟩
      simp only [Boundary.growingWriter, Outcome.require, Outcome.done_bind]
      rw [Custody.host_put] at second
      generalize (custody.host.hold context.share).mapWorld _ = grown at second ⊢
      have mine : (custody.put address (some { share := context.share }) grown).claim? address =
          some { share := context.share } := by
        rw [Custody.claim?_put, if_pos rfl]
      have third := Move.take mine (Handle.isStream_writer _) (Boundary.added_addWriter
        grown.boundary (.growing (custody.host.hold context.share).boundary.world.sinks.fresh))
      rw [Custody.put_put] at third
      have moves := ((Relation.ReflTransGen.single first).tail second.1).tail third
      exact ⟨_, rfl, .made found rfl moves⟩

/-- A question is answered while the context is held, and changes nothing but the ledger. -/
theorem Context.ask_spec {α : Type} (sound : Sound custody)
    (found : custody.claim? source = context.claim?)
    {question : Boundary → Option Nat → Outcome α}
    (answers : ∀ id record, custody.host.boundary.contexts.get? id = some record →
      0 ∉ record.home → ∃ answer, question custody.host.boundary (some id) = .done answer) :
    ∃ result, context.ask custody.host question = .done result ∧
      Moves custody { custody with host := result.2 } := by
  unfold ask
  cases released : context.released with
  | true => exact ⟨_, rfl, Relation.ReflTransGen.refl⟩
  | false =>
      rw [claim?_of_held released] at found
      have held := Custody.holds_of_claim found
      obtain ⟨state, shared⟩ := sound.exists_share held
      obtain ⟨record, live, clean⟩ := sound.session _ state shared
      obtain ⟨answer, answered⟩ := answers state.session record live clean
      simp only [Bool.false_eq_true, if_false, shared, Outcome.live, Outcome.done_bind, answered]
      exact ⟨_, rfl, Relation.ReflTransGen.single (Move.ask held shared)⟩

theorem Context.home_spec (sound : Sound custody) (found : custody.claim? source = context.claim?) :
    ∃ result, context.home custody.host = .done result ∧
      Moves custody { custody with host := result.2 } := by
  have answers (id : Nat) (record : Engine.Session)
      (live : custody.host.boundary.contexts.get? id = some record) (clean : 0 ∉ record.home) :
      ∃ text, custody.host.boundary.contextHome (some id) = .done text := by
    obtain ⟨text, answered, -⟩ := Boundary.contextHome_of_live live clean
    exact ⟨text, answered⟩
  obtain ⟨⟨answer, host⟩, asked, moves⟩ := ask_spec sound found answers
  simp only [home, asked, Outcome.done_bind]
  exact ⟨_, rfl, moves⟩

theorem Context.policy_spec (sound : Sound custody)
    (found : custody.claim? source = context.claim?) :
    ∃ result, context.policy custody.host = .done result ∧
      Moves custody { custody with host := result.2 } := by
  obtain ⟨⟨answer, host⟩, asked, moves⟩ :=
    ask_spec sound found fun _ _ live _ => ⟨_, Boundary.contextPolicy_of_live live⟩
  simp only [policy, asked, Outcome.done_bind]
  exact ⟨_, rfl, moves⟩

theorem Context.ephemeral_spec (sound : Sound custody)
    (found : custody.claim? source = context.claim?) :
    ∃ result, context.ephemeral custody.host = .done result ∧
      Moves custody { custody with host := result.2 } :=
  ask_spec sound found fun _ _ live _ => ⟨_, Boundary.contextEphemeral_of_live live⟩

theorem Context.release_spec (sound : Sound custody)
    (found : custody.claim? source = context.claim?) :
    ∃ host, context.release custody.host = .done ({ context with released := true }, host) ∧
      Ebbs custody (custody.put source none host) := by
  unfold release
  cases released : context.released with
  | true =>
      rw [claim?, if_pos released] at found
      refine ⟨custody.host, ?_, ?_⟩
      · rw [if_pos rfl, ← released]
      · rw [Custody.put_of_claim found]
  | false =>
      rw [claim?_of_held released] at found
      obtain ⟨host, gone, move⟩ := letGo_spec sound found
      refine ⟨host, ?_, Relation.ReflTransGen.single move⟩
      simp only [Bool.false_eq_true, if_false, gone, Outcome.done_bind]

theorem Context.drop_spec (sound : Sound custody) (found : custody.claim? source = context.claim?) :
    ∃ host, context.drop custody.host = .done host ∧
      Ebbs custody (custody.put source none host) := by
  obtain ⟨host, released, moves⟩ := release_spec sound found
  exact ⟨host, by simp only [drop, released, Outcome.done_bind], moves⟩

/-- The settings that a configuration amounts to. -/
def Config.settings (config : Config) (world : World) : Engine.Settings :=
  { home := config.home.getD (Engine.Settings.defaultHome world)
    policy := config.policy
    ephemeral := config.ephemeral }

theorem Config.homeArgument_spec {config : Config} {home : Option Boundary.Terminated}
    (given : config.homeArgument = .ok home) : home.map (·.path) = config.home := by
  unfold homeArgument at given
  split at given
  · next unset =>
      cases given
      rw [unset]
      rfl
  · next path set =>
      unfold pathArgument at given
      split at given
      · next text encoded =>
          cases given
          rw [set]
          exact congrArg some (Boundary.Terminated.bytes_ofBytes? encoded)
      · cases given

section

variable (boundary : Boundary) {id : Nat} {configs : Arena Boundary.Config}
  {old : Boundary.Config}

theorem changeConfig_spec (live : configs.get? id = some old)
    (change : Boundary.Config → Boundary.Config) :
    ∃ changed, ({ boundary with configs } : Boundary).changeConfig (some id) change =
        .done { boundary with configs := changed } ∧ changed.get? id = some (change old) := by
  refine ⟨configs.set id (change old), ?_, Arena.get?_set_self (change old) live⟩
  simp only [Boundary.changeConfig, Outcome.require, Outcome.done_bind, live, Outcome.live]

theorem setHome_spec (live : configs.get? id = some old) (home : Option Boundary.Terminated) :
    ∃ changed : Arena Boundary.Config, (match home with
        | none => Outcome.done ({ boundary with configs } : Boundary)
        | some text => ({ boundary with configs } : Boundary).setHome (some id) (some text)) =
          .done { boundary with configs := changed } ∧
      changed.get? id = some { old with
        settings := { old.settings with home := (home.map (·.path)).getD old.settings.home } } := by
  cases home with
  | none => exact ⟨configs, rfl, live⟩
  | some text => exact changeConfig_spec boundary live (·.adjust (.home text.path))

/-- The host's numbers are those of the policies behind the boundary. -/
theorem choosePolicy_policyNumber (config : Boundary.Config) (policy : Engine.Policy) :
    config.choosePolicy (policyNumber policy) = config.adjust (.policy policy) := by
  cases policy <;> rfl

theorem setPolicy_spec (live : configs.get? id = some old) (policy : Engine.Policy) :
    ∃ changed, ({ boundary with configs } : Boundary).setPolicy (some id) (policyNumber policy) =
        .done { boundary with configs := changed } ∧
      changed.get? id = some { old with settings := { old.settings with policy } } := by
  obtain ⟨changed, set, found⟩ :=
    changeConfig_spec boundary live (·.choosePolicy (policyNumber policy))
  rw [choosePolicy_policyNumber] at found
  exact ⟨changed, set, found⟩

theorem setEphemeral_spec (live : configs.get? id = some old)
    (plain : old.settings.ephemeral = false) (ephemeral : Bool) :
    ∃ changed : Arena Boundary.Config,
      (if ephemeral then ({ boundary with configs } : Boundary).setEphemeral (some id)
        else Outcome.done { boundary with configs }) = .done { boundary with configs := changed } ∧
      changed.get? id = some { old with settings := { old.settings with ephemeral } } := by
  cases ephemeral with
  | false =>
      refine ⟨configs, rfl, ?_⟩
      rw [live, ← plain]
  | true => exact changeConfig_spec boundary live (·.adjust .ephemeral)

end

theorem Config.handOver_eq (config : Config) (home : Option Boundary.Terminated)
    (boundary : Boundary) :
    config.handOver home boundary =
      ((match home with
        | none => Outcome.done boundary.configure.2
        | some text => boundary.configure.2.setHome (some boundary.configs.fresh) (some text)) >>=
      fun boundary' => boundary'.setPolicy (some boundary.configs.fresh)
        (policyNumber config.policy) >>=
      fun boundary' =>
        (if config.ephemeral then boundary'.setEphemeral (some boundary.configs.fresh)
          else Outcome.done boundary') >>=
      fun boundary' => Outcome.done (boundary.configs.fresh, boundary')) := by
  obtain ⟨path, policy, ephemeral⟩ := config
  cases home <;> cases ephemeral <;> rfl

/-- The settings arrive as they were chosen, without a fault. -/
theorem Config.handOver_spec {config : Config} {home : Option Boundary.Terminated}
    (given : home.map (·.path) = config.home) (boundary : Boundary) :
    ∃ id configs, config.handOver home boundary = .done (id, { boundary with configs }) ∧
      configs.get? id = some { settings := config.settings boundary.world } := by
  have new := Arena.get?_alloc_self boundary.configs
    { settings := Engine.Settings.initial boundary.world }
  obtain ⟨first, homed, one⟩ := setHome_spec boundary new home
  obtain ⟨second, chosen, two⟩ := setPolicy_spec boundary one config.policy
  obtain ⟨third, marked, three⟩ := setEphemeral_spec boundary two rfl config.ephemeral
  rw [given] at three
  refine ⟨boundary.configs.fresh, third, ?_, three⟩
  rw [handOver_eq]
  simp only [Boundary.configure, homed, Outcome.done_bind, chosen, marked]

/-- What the start of a session leaves behind. -/
inductive Started (settings : Engine.Settings) (boundary : Boundary) :
    Except Fault Nat × Boundary → Prop where
  | failed {fault : Fault} {after : Boundary} (steady : Steady boundary after) :
      Started settings boundary (.error fault, after)
  | begun {id : Nat} {after : Boundary} {record : Engine.Session}
      (added : Added (.context id) boundary after) (live : after.contexts.get? id = some record)
      (built : settings.build boundary.world = (.ok record, after.world)) :
      Started settings boundary (.ok id, after)

theorem start_spec (settings : Engine.Settings) (boundary : Boundary) :
    Started settings boundary (Boundary.Config.start { settings } boundary) := by
  have grown := settings.grows_build boundary.world
  simp only [Boundary.Config.start]
  cases built : settings.build boundary.world with
  | mk answer world =>
      rw [built] at grown
      cases answer with
      | error failure => exact .failed (Steady.of_world boundary grown)
      | ok record =>
          refine .begun ?_ (Arena.get?_alloc_self _ _) built
          exact (Boundary.added_allocContext { boundary with world } record).after
            (Steady.of_world boundary grown)

/-- What building a context leaves behind. -/
inductive Built (settings : Engine.Settings) (custody : Custody) (address : Address) :
    Except Error Context × Host → Prop where
  | refused {error : Error} {host : Host} (moves : Moves custody { custody with host }) :
      Built settings custody address (.error error, host)
  | made {context : Context} {host : Host}
      (began : Began settings address custody (custody.put address context.claim? host)) :
      Built settings custody address (.ok context, host)

theorem Config.build_spec (vacant : custody.claim? address = none) (config : Config) :
    ∃ result, config.build custody.host = .done result ∧
      Built (config.settings custody.host.boundary.world) custody address result := by
  unfold build
  split
  · exact ⟨_, rfl, .refused Relation.ReflTransGen.refl⟩
  · next home given =>
      obtain ⟨id, configs, handed, found⟩ :=
        handOver_spec (homeArgument_spec given) custody.host.boundary
      have before := Steady.of_configs custody.host.boundary (configs.release id)
      have started := start_spec (config.settings custody.host.boundary.world)
        { custody.host.boundary with configs := configs.release id }
      simp only [handed, Outcome.done_bind, Boundary.buildContext, Outcome.require, found,
        Outcome.live, concludeHandle_after, examine_concludeHandle]
      generalize Boundary.Config.start _ _ = attempt at started ⊢
      cases started with
      | failed steady =>
          exact ⟨_, rfl, .refused (Relation.ReflTransGen.single (Move.stir (before.trans steady)))⟩
      | begun added live built =>
          exact ⟨_, rfl, .made (.intro vacant (added.after before) live built)⟩

end

end SessionStreams.Host
