import SessionStreams.Proofs.Growth
import SessionStreams.Host.Basic

set_option autoImplicit false

/- Handles behind the boundary: which are alive and which were ever given out, before and after each
entry point. Reading, writing and flushing leave both alone (`steady_tryRead`, `steady_tryWrite`,
`steady_tryFlush`), a constructor adds at most one handle (`attempted_tryOpenWriter`), and freeing
takes away just the one that is freed (`removed_freeReader`, `removed_freeWriter`). -/

namespace SessionStreams

theorem Arena.isSome_get?_set {α : Type} {arena : Arena α} {id : Nat} {old : α}
    (found : arena.get? id = some old) (object : α) (other : Nat) :
    ((arena.set id object).get? other).isSome = (arena.get? other).isSome := by
  by_cases same : other = id
  · rw [same, get?_set_self object found, found]
    rfl
  · rw [get?_set_ne arena object same]

namespace Boundary

open Host (Handle)

def Alive (boundary : Boundary) : Handle → Prop
  | .context id => (boundary.contexts.get? id).isSome
  | .reader id => (boundary.readers.get? id).isSome
  | .writer id => (boundary.writers.get? id).isSome

/-- Handles that were given out at some time. -/
def Issued (boundary : Boundary) : Handle → Prop
  | .context id => id < boundary.contexts.fresh
  | .reader id => id < boundary.readers.fresh
  | .writer id => id < boundary.writers.fresh

theorem Alive.issued {boundary : Boundary} {handle : Handle} (alive : boundary.Alive handle) :
    boundary.Issued handle := by
  cases handle with
  | context id =>
      obtain ⟨_, found⟩ := Option.isSome_iff_exists.mp alive
      exact Arena.lt_fresh_of_get? found
  | reader id =>
      obtain ⟨_, found⟩ := Option.isSome_iff_exists.mp alive
      exact Arena.lt_fresh_of_get? found
  | writer id =>
      obtain ⟨_, found⟩ := Option.isSome_iff_exists.mp alive
      exact Arena.lt_fresh_of_get? found

/-- The same handles are alive, and no handle was given out. -/
structure Steady (before after : Boundary) : Prop where
  alive : ∀ handle, after.Alive handle ↔ before.Alive handle
  issued : ∀ handle, after.Issued handle ↔ before.Issued handle
  contexts : after.contexts = before.contexts
  world : before.world.Grows after.world

/-- One handle was given out. -/
structure Added (handle : Handle) (before after : Boundary) : Prop where
  fresh : ¬ before.Issued handle
  alive : ∀ other, after.Alive other ↔ other = handle ∨ before.Alive other
  issued : ∀ other, after.Issued other ↔ other = handle ∨ before.Issued other
  contexts : ∀ id session, before.contexts.get? id = some session →
    after.contexts.get? id = some session
  world : before.world.Grows after.world

/-- One handle was freed. -/
structure Removed (handle : Handle) (before after : Boundary) : Prop where
  alive : ∀ other, after.Alive other ↔ other ≠ handle ∧ before.Alive other
  issued : ∀ other, after.Issued other ↔ before.Issued other
  contexts : ∀ id session, after.contexts.get? id = some session →
    before.contexts.get? id = some session

/-- The sessions beside a new handle are as they were. -/
theorem Added.contexts_of_ne {handle : Handle} {before after : Boundary}
    (added : Added handle before after) {id : Nat} (apart : Handle.context id ≠ handle) :
    after.contexts.get? id = before.contexts.get? id := by
  cases there : before.contexts.get? id with
  | some record => exact added.contexts id record there
  | none =>
      have alive := added.alive (.context id)
      simpa [Alive, there, apart] using alive

/-- The sessions beside a handle that is freed are as they were. -/
theorem Removed.contexts_of_ne {handle : Handle} {before after : Boundary}
    (removed : Removed handle before after) {id : Nat} (apart : Handle.context id ≠ handle) :
    after.contexts.get? id = before.contexts.get? id := by
  cases there : after.contexts.get? id with
  | some record => exact (removed.contexts id record there).symm
  | none =>
      have alive := removed.alive (.context id)
      have gone : before.contexts.get? id = none := by
        simpa [Alive, there, apart] using alive
      exact gone.symm

namespace Steady

theorem refl (boundary : Boundary) : Steady boundary boundary :=
  ⟨fun _ => Iff.rfl, fun _ => Iff.rfl, rfl, World.Grows.refl boundary.world⟩

theorem trans {first second third : Boundary} (one : Steady first second)
    (two : Steady second third) : Steady first third :=
  ⟨fun handle => (two.alive handle).trans (one.alive handle),
    fun handle => (two.issued handle).trans (one.issued handle),
    two.contexts.trans one.contexts, one.world.trans two.world⟩

theorem of_world (boundary : Boundary) {world : World} (grows : boundary.world.Grows world) :
    Steady boundary { boundary with world } :=
  ⟨fun handle => by cases handle <;> exact Iff.rfl, fun handle => by cases handle <;> exact Iff.rfl,
    rfl, grows⟩

theorem of_configs (boundary : Boundary) (configs : Arena Config) :
    Steady boundary { boundary with configs } :=
  ⟨fun handle => by cases handle <;> exact Iff.rfl, fun handle => by cases handle <;> exact Iff.rfl,
    rfl, World.Grows.refl boundary.world⟩

theorem of_setReader {boundary : Boundary} {id : Nat} {old : Reader}
    (live : boundary.readers.get? id = some old) (reader : Reader) {world : World}
    (grows : boundary.world.Grows world) :
    Steady boundary { boundary with world, readers := boundary.readers.set id reader } := by
  refine ⟨?_, ?_, rfl, grows⟩
  · intro handle
    cases handle with
    | context other => exact Iff.rfl
    | reader other => simp only [Alive, Arena.isSome_get?_set live]
    | writer other => exact Iff.rfl
  · intro handle
    cases handle with
    | context other => exact Iff.rfl
    | reader other => simp only [Issued, Arena.fresh_set]
    | writer other => exact Iff.rfl

theorem of_setWriter {boundary : Boundary} {id : Nat} {old : Writer}
    (live : boundary.writers.get? id = some old) (writer : Writer) {world : World}
    (grows : boundary.world.Grows world) :
    Steady boundary { boundary with world, writers := boundary.writers.set id writer } := by
  refine ⟨?_, ?_, rfl, grows⟩
  · intro handle
    cases handle with
    | context other => exact Iff.rfl
    | reader other => exact Iff.rfl
    | writer other => simp only [Alive, Arena.isSome_get?_set live]
  · intro handle
    cases handle with
    | context other => exact Iff.rfl
    | reader other => exact Iff.rfl
    | writer other => simp only [Issued, Arena.fresh_set]

end Steady

section

variable {σ : Type} {push : Bytes → σ → Except IoFailure Nat × σ} {Related : σ → σ → Prop}
  (refl : ∀ state, Related state state)
  (trans : ∀ {first second third}, Related first second → Related second third →
    Related first third)
  (step : ∀ data state, Related state (push data state).2)

include refl trans step

/-- What holds between the states before and after each offer holds of a whole drain. -/
theorem Buffered.drain_relates (pending : Bytes) (state : σ) :
    Related state (drain (.steady push) pending state).2.2 := by
  fun_induction drain (.steady push) pending state with
  | case1 state => exact refl state
  | case2 state byte rest failure after offered =>
      have stepped := step (byte :: rest) state
      rw [Offer.patient_steady] at offered
      rw [offered] at stepped
      exact stepped
  | case3 state byte rest after offered =>
      have stepped := step (byte :: rest) state
      rw [Offer.patient_steady] at offered
      rw [offered] at stepped
      exact stepped
  | case4 state byte rest taken after offered ih =>
      have stepped := step (byte :: rest) state
      rw [Offer.patient_steady] at offered
      rw [offered] at stepped
      exact trans stepped ih

theorem Buffered.write_relates (data pending : Bytes) (state : σ) :
    Related state (write (.steady push) data pending state).2.2 := by
  have drained := drain_relates refl trans step pending state
  unfold write
  simp only
  split
  · exact refl state
  · split
    · next kept after flushed =>
        split at flushed
        · rw [flushed] at drained
          exact drained
        · cases flushed
    · next done kept after flushed =>
        have reached : Related state after := by
          split at flushed
          · rw [flushed] at drained
            exact drained
          · cases flushed
            exact refl state
        split
        · exact trans reached (step data after)
        · exact reached

end

theorem keeps_push (fd : Nat) (data : Bytes) (world : World) :
    world.Keeps (push fd data world).2 := by
  unfold push
  split
  · next written => exact World.keeps_write written
  · exact World.Keeps.refl world

theorem keeps_fill (world : World) (region : Option Nat) (position : Nat) (data : Bytes) :
    world.Keeps (fill world region position data) := by
  unfold fill
  split
  · exact World.Keeps.refl world
  · split
    · exact World.Keeps.refl world
    · exact ⟨rfl, rfl, rfl, rfl, rfl, rfl⟩

theorem keeps_extend (world : World) (id : Nat) (data : Bytes) :
    world.Keeps (extend world id data) := by
  unfold extend
  split
  · exact World.Keeps.refl world
  · exact ⟨rfl, rfl, rfl, rfl, rfl, rfl⟩

theorem Reader.keeps_read {reader after : Reader} {count : Nat} {world other : World} {data : Bytes}
    (finished : reader.read count world = .ok (data, after, other)) : world.Keeps other := by
  unfold read at finished
  cases reader with
  | bytes rest =>
      cases finished
      exact World.Keeps.refl world
  | descriptor fd =>
      simp only at finished
      split at finished
      · cases finished
      · next reached =>
          cases finished
          exact World.keeps_read reached

theorem Writer.keeps_write (writer : Writer) (data : Bytes) (world : World) :
    world.Keeps (writer.write data world).2.2 := by
  cases writer with
  | buffered fd pending =>
      exact Buffered.write_relates World.Keeps.refl World.Keeps.trans (keeps_push fd)
        data pending world
  | fixed region length position => exact keeps_fill world region position _
  | growing sink => exact keeps_extend world sink data

theorem Writer.keeps_flush (writer : Writer) (world : World) :
    world.Keeps (writer.flush world).2.2 := by
  cases writer with
  | buffered fd pending =>
      exact Buffered.drain_relates World.Keeps.refl World.Keeps.trans (keeps_push fd)
        pending world
  | fixed region length position => exact World.Keeps.refl world
  | growing sink => exact World.Keeps.refl world

theorem Writer.keeps_finish (writer : Writer) (world : World) :
    world.Keeps (writer.finish world) := by
  have first := writer.keeps_flush world
  have second := (writer.flush world).2.1.keeps_flush (writer.flush world).2.2
  have flushed := first.trans second
  unfold finish closeTarget
  simp only
  split
  · exact flushed.trans (World.keeps_close _ _)
  · exact flushed
  · exact flushed

theorem Reader.keeps_finish (reader : Reader) (world : World) :
    world.Keeps (reader.finish world) := by
  cases reader with
  | descriptor fd => exact World.keeps_close world fd
  | bytes rest => exact World.Keeps.refl world

theorem steady_tryRead {boundary : Boundary} {id : Nat} {reader : Reader}
    (live : boundary.readers.get? id = some reader) (room : Room) :
    Steady boundary (boundary.tryRead id reader room).2 := by
  unfold tryRead
  split
  · exact Steady.refl boundary
  · next count _ =>
      split
      · exact Steady.refl boundary
      · next finished => exact Steady.of_setReader live _ (Reader.keeps_read finished).grows

theorem steady_tryWrite {boundary : Boundary} {id : Nat} {writer : Writer}
    (live : boundary.writers.get? id = some writer) (data : Loan) :
    Steady boundary (boundary.tryWrite id writer data).2 := by
  unfold tryWrite
  split
  · exact Steady.refl boundary
  · next bytes _ =>
      exact Steady.of_setWriter live _ (writer.keeps_write bytes boundary.world).grows

theorem steady_tryFlush {boundary : Boundary} {id : Nat} {writer : Writer}
    (live : boundary.writers.get? id = some writer) :
    Steady boundary (boundary.tryFlush id writer).2 :=
  Steady.of_setWriter live _ (writer.keeps_flush boundary.world).grows

theorem added_allocContext (boundary : Boundary) (session : Engine.Session) :
    Added (.context boundary.contexts.fresh) boundary
      { boundary with contexts := boundary.contexts.alloc session } := by
  refine ⟨Nat.lt_irrefl _, ?_, ?_, ?_, World.Grows.refl boundary.world⟩
  · intro other
    cases other with
    | reader id => simp [Alive]
    | writer id => simp [Alive]
    | context id =>
        simp only [Alive, Arena.get?_alloc, Handle.context.injEq]
        split <;> simp [*]
  · intro other
    cases other with
    | reader id => simp [Issued]
    | writer id => simp [Issued]
    | context id =>
        simp only [Issued, Arena.fresh_alloc, Handle.context.injEq]
        omega
  · intro id found live
    exact Arena.get?_alloc_of_get? session live

theorem added_addReader (boundary : Boundary) (reader : Reader) :
    Added (.reader boundary.readers.fresh) boundary (boundary.addReader reader).2 := by
  refine ⟨Nat.lt_irrefl _, ?_, ?_, fun _ _ found => found, World.Grows.refl boundary.world⟩
  · intro other
    cases other with
    | context id => simp [Alive, addReader]
    | writer id => simp [Alive, addReader]
    | reader id =>
        simp only [Alive, addReader, Arena.get?_alloc, Handle.reader.injEq]
        split <;> simp [*]
  · intro other
    cases other with
    | context id => simp [Issued, addReader]
    | writer id => simp [Issued, addReader]
    | reader id =>
        simp only [Issued, addReader, Arena.fresh_alloc, Handle.reader.injEq]
        omega

theorem added_addWriter (boundary : Boundary) (writer : Writer) :
    Added (.writer boundary.writers.fresh) boundary (boundary.addWriter writer).2 := by
  refine ⟨Nat.lt_irrefl _, ?_, ?_, fun _ _ found => found, World.Grows.refl boundary.world⟩
  · intro other
    cases other with
    | context id => simp [Alive, addWriter]
    | reader id => simp [Alive, addWriter]
    | writer id =>
        simp only [Alive, addWriter, Arena.get?_alloc, Handle.writer.injEq]
        split <;> simp [*]
  · intro other
    cases other with
    | context id => simp [Issued, addWriter]
    | reader id => simp [Issued, addWriter]
    | writer id =>
        simp only [Issued, addWriter, Arena.fresh_alloc, Handle.writer.injEq]
        omega

theorem Added.after {handle : Handle} {before middle after : Boundary}
    (steady : Steady before middle) (added : Added handle middle after) :
    Added handle before after :=
  ⟨fun issued => added.fresh ((steady.issued handle).mpr issued),
    fun other => (added.alive other).trans (or_congr_right (steady.alive other)),
    fun other => (added.issued other).trans (or_congr_right (steady.issued other)),
    fun id session found => added.contexts id session (by rw [steady.contexts]; exact found),
    steady.world.trans added.world⟩

/-- What an attempt to make a stream leaves behind: a new handle, or the old ones. -/
def Attempted (handle : Nat → Handle) (before : Boundary) (attempt : Except Fault Nat × Boundary) :
    Prop :=
  match attempt with
  | (.ok id, after) => Added (handle id) before after
  | (.error _, after) => Steady before after

theorem attempted_tryOpenReader (boundary : Boundary) (path : Path) :
    Attempted .reader boundary (boundary.tryOpenReader path) := by
  unfold tryOpenReader
  split
  · exact Steady.refl boundary
  · next fd world opened =>
      have grown := Steady.of_world boundary (World.keeps_openForReading opened).grows
      exact (added_addReader { boundary with world } (.descriptor fd)).after grown

theorem attempted_tryOpenWriter (boundary : Boundary) (path : Path) :
    Attempted .writer boundary (boundary.tryOpenWriter path) := by
  unfold tryOpenWriter
  split
  · exact Steady.refl boundary
  · next fd world opened =>
      have grown := Steady.of_world boundary (World.grows_openForWriting opened)
      exact (added_addWriter { boundary with world } (.buffered fd [])).after grown

theorem attempted_tryAdd {α : Type} {handle : Nat → Handle} {boundary : Boundary}
    {add : α → Nat × Boundary}
    (added : ∀ value, Added (handle (add value).1) boundary (add value).2)
    (checked : Except Fault α) : Attempted handle boundary (boundary.tryAdd checked add) := by
  unfold tryAdd
  split
  · exact Steady.refl boundary
  · next value => exact added value

theorem removed_freeReader {boundary : Boundary} {id : Nat} {reader : Reader}
    (live : boundary.readers.get? id = some reader) :
    ∃ after, boundary.freeReader (some id) = .done after ∧ Removed (.reader id) boundary after ∧
      boundary.world.Keeps after.world := by
  have freed : boundary.freeReader (some id) =
      .done { boundary with
        world := reader.finish boundary.world
        readers := boundary.readers.release id } := by
    simp only [freeReader, live, Outcome.live, Outcome.done_bind]
  refine ⟨_, freed, ⟨?_, ?_, fun _ _ found => found⟩, reader.keeps_finish boundary.world⟩
  · intro other
    cases other with
    | context number => simp [Alive]
    | writer number => simp [Alive]
    | reader number =>
        simp only [Alive, Arena.get?_release, ne_eq, Handle.reader.injEq]
        split <;> simp [*]
  · intro other
    cases other <;> simp [Issued]

theorem removed_freeWriter {boundary : Boundary} {id : Nat} {writer : Writer}
    (live : boundary.writers.get? id = some writer) :
    ∃ after, boundary.freeWriter (some id) = .done after ∧ Removed (.writer id) boundary after ∧
      boundary.world.Keeps after.world := by
  have freed : boundary.freeWriter (some id) =
      .done { boundary with
        world := writer.finish boundary.world
        writers := boundary.writers.release id } := by
    simp only [freeWriter, live, Outcome.live, Outcome.done_bind]
  refine ⟨_, freed, ⟨?_, ?_, fun _ _ found => found⟩, writer.keeps_finish boundary.world⟩
  · intro other
    cases other with
    | context number => simp [Alive]
    | reader number => simp [Alive]
    | writer number =>
        simp only [Alive, Arena.get?_release, ne_eq, Handle.writer.injEq]
        split <;> simp [*]
  · intro other
    cases other <;> simp [Issued]

theorem removed_releaseContext (boundary : Boundary) (id : Nat) (world : World) :
    Removed (.context id) boundary
      { boundary with world, contexts := boundary.contexts.release id } := by
  refine ⟨?_, ?_, ?_⟩
  · intro other
    cases other with
    | reader number => simp [Alive]
    | writer number => simp [Alive]
    | context number =>
        simp only [Alive, Arena.get?_release, ne_eq, Handle.context.injEq]
        split <;> simp [*]
  · intro other
    cases other <;> simp [Issued]
  · intro number session found
    simp only [Arena.get?_release] at found
    split at found
    · cases found
    · exact found

end Boundary

end SessionStreams
