import SessionStreams.Proofs.Openings

set_option autoImplicit false

/- Who owns what, while a program runs. A course is one action after the other, with whatever the
world may do in between except to what belongs to streams (`Course`). All along it, every descriptor
and every sink that belongs to a stream is there and belongs to no other stream (`Course.orderly`).

For sinks that is so in whatever way a program runs (`Reached.ordered`), since nobody else knows
them. With descriptors it is left to the program, which may hand over what it does not own: here it
hands a descriptor over just once, and only one that is open (`Holdings.Disciplined`). -/

namespace SessionStreams

namespace Host

open World (Gained Retains)

/-- What is owned is there, and has one owner. -/
structure Belonging (owned : Address → Option Nat) (there : Nat → Prop) : Prop where
  there : ∀ address number, owned address = some number → there number
  sole : ∀ address other number, owned address = some number → owned other = some number →
    address = other

namespace Belonging

variable {owned after : Address → Option Nat} {there further : Nat → Prop} {address : Address}

theorem of_none (unowned : ∀ address, owned address = none) : Belonging owned there := by
  refine ⟨fun address number own => ?_, fun address other number own => ?_⟩ <;>
    exact absurd own (by rw [unowned]; exact nofun)

/-- Nothing new is owned. -/
theorem mono (belonging : Belonging owned there)
    (fewer : ∀ address number, after address = some number →
      owned address = some number ∧ further number) : Belonging after further :=
  ⟨fun address number own => (fewer address number own).2, fun address other number one two =>
    belonging.sole address other number (fewer address number one).1 (fewer other number two).1⟩

/-- One gives up what it owns, which is gone then. -/
theorem lose (belonging : Belonging owned there) {lost : Option Nat}
    (others : ∀ other, other ≠ address → after other = owned other)
    (kept : after address = if lost = none then owned address else none)
    (own : ∀ number, lost = some number → owned address = some number)
    (stays : ∀ number, further number ↔ there number ∧ lost ≠ some number) :
    Belonging after further := by
  refine belonging.mono fun other number now => ?_
  by_cases here : other = address
  · subst here
    rw [kept] at now
    split at now
    · rename_i kept
      refine ⟨now, (stays number).mpr ⟨belonging.there _ _ now, ?_⟩⟩
      rw [kept]
      exact nofun
    · cases now
  · rw [others other here] at now
    refine ⟨now, (stays number).mpr ⟨belonging.there _ _ now, fun gone => here ?_⟩⟩
    exact belonging.sole _ _ number now (own number gone)

/-- A new one comes to own what is there and has no owner yet. -/
theorem gain (belonging : Belonging owned there) {gained : Option Nat}
    (others : ∀ other, other ≠ address → after other = owned other)
    (here : after address = gained)
    (unowned : ∀ number, gained = some number →
      further number ∧ ∀ other, owned other ≠ some number)
    (stays : ∀ number, there number → further number) : Belonging after further := by
  have cases (other : Address) (number : Nat) (now : after other = some number) :
      (other = address ∧ gained = some number) ∨ (other ≠ address ∧ owned other = some number) := by
    by_cases same : other = address
    · subst same
      exact Or.inl ⟨rfl, here.symm.trans now⟩
    · exact Or.inr ⟨same, (others other same).symm.trans now⟩
  refine ⟨fun other number now => ?_, fun one two number first second => ?_⟩
  · rcases cases other number now with ⟨-, new⟩ | ⟨-, old⟩
    · exact (unowned number new).1
    · exact stays number (belonging.there other number old)
  · rcases cases one number first with ⟨rfl, new⟩ | ⟨-, old⟩
    · rcases cases two number second with ⟨rfl, -⟩ | ⟨-, also⟩
      · rfl
      · exact absurd also ((unowned number new).2 two)
    · rcases cases two number second with ⟨rfl, new⟩ | ⟨-, also⟩
      · exact absurd old ((unowned number new).2 one)
      · exact belonging.sole one two number old also

end Belonging

/-- An action makes a context, makes a stream, or is on an object that is there. -/
theorem Action.kinds (action : Action) :
    (∃ config, action = .build config) ∨
      (∃ id asked, action = .context id asked ∧ asked.opening? 0 ≠ none) ∨
        ∃ address, action.On address := by
  cases action with
  | build config => exact Or.inl ⟨config, rfl⟩
  | context id asked =>
      right
      cases asked <;>
        first
        | exact Or.inl ⟨id, _, rfl, Option.some_ne_none _⟩
        | exact Or.inr ⟨.context id, rfl, fun _ => rfl⟩
  | reader id asked => exact Or.inr (Or.inr ⟨.reader id, rfl, fun _ => rfl⟩)
  | writer id asked => exact Or.inr (Or.inr ⟨.writer id, rfl, fun _ => rfl⟩)

/-- An action on an object hands nothing over. -/
theorem Action.On.handsOver? {action : Action} {address : Address} (on : action.On address) :
    action.handsOver? = none := by
  cases action with
  | context id asked => cases asked <;> first | rfl | exact nomatch on.closed 0
  | _ => rfl

theorem Performed.known {held after : Holdings} {action : Action} {answer : Answer}
    (performed : Performed held action answer after) {address : Address}
    (known : held.Known address) : after.Known address := by
  cases performed with
  | kept stays unopened moves => cases address <;> exact known
  | opened stays opens given fresh renewed moves => exact (renewed.known address).mpr (Or.inr known)
  | ended ends unopened renewed ebbs => exact (renewed.known address).mpr (Or.inr known)
  | began build made renewed began => exact (renewed.known address).mpr (Or.inr known)

/-- Not a context. -/
def Address.IsStream : Address → Prop
  | .context _ => False
  | _ => True

namespace Holdings

/-- An object and what it owns behind the boundary are the same on both sides. -/
structure SameOwn (held after : Holdings) (address : Address) : Prop where
  object : held.Same after (.object address)
  handle : ∀ handle, held.custody.Owns address handle → held.Same after (.handle handle)

/-- Every sink of a writer is there, and is its own. -/
structure Collecting (held : Holdings) : Prop where
  sinks : Belonging held.sink? held.world.HasSink
  collects : ∀ address sink, held.collecting? address = some sink → held.sink? address = some sink

/-- Every descriptor and every sink of a stream is there, and is its own. -/
structure Owning (held : Holdings) : Prop where
  descriptors : Belonging held.descriptor? held.world.IsOpen
  collecting : held.Collecting

/-- What holds of what is held, all along a course. -/
structure Orderly (held : Holdings) : Prop where
  sound : Sound held.custody
  owning : held.Owning

/-- A descriptor is handed over while it is open, and only once. -/
def Disciplined (held : Holdings) (action : Action) : Prop :=
  ∀ fd, action.handsOver? = some fd →
    held.world.IsOpen fd ∧ ∀ address, held.descriptor? address ≠ some fd

/-- The world becomes another, in which writers still have their sinks. -/
def SparesSinks (held : Holdings) (world : World) : Prop :=
  ∀ address sink, held.sink? address = some sink → world.HasSink sink

/-- The world becomes another, in which streams still have what belongs to them. -/
structure Spares (held : Holdings) (world : World) : Prop where
  isOpen : ∀ address fd, held.descriptor? address = some fd → world.IsOpen fd
  hasSink : held.SparesSinks world

section

variable {held after : Holdings} {address other : Address} {action : Action} {answer : Answer}

/-- What belongs to an object is told by the object and by the stream behind it. -/
theorem SameOwn.belongings (same : held.SameOwn after address) :
    held.descriptor? address = after.descriptor? address ∧
      held.collecting? address = after.collecting? address ∧
        held.sink? address = after.sink? address := by
  obtain ⟨object, handle⟩ := same
  cases address with
  | context id => exact ⟨rfl, rfl, rfl⟩
  | reader id =>
      have found : held.readers.get? id = after.readers.get? id := object
      refine ⟨?_, rfl, rfl⟩
      simp only [descriptor?, ← found]
      cases standing : held.readers.get? id with
      | none => rfl
      | some reader =>
          cases closed : reader.closed with
          | true => simp only [Option.bind_some, closed, if_true]
          | false =>
              have same : held.host.boundary.readers.get? reader.handle =
                  after.host.boundary.readers.get? reader.handle :=
                handle (.reader reader.handle) (owns_reader standing closed)
              simp only [Option.bind_some, closed, same]
  | writer id =>
      have found : held.writers.get? id = after.writers.get? id := object
      simp only [descriptor?, collecting?, sink?, ← found]
      cases standing : held.writers.get? id with
      | none => exact ⟨rfl, rfl, trivial⟩
      | some writer =>
          cases closed : writer.closed with
          | true => simp only [Option.bind_some, closed, if_true, and_self]
          | false =>
              have same : held.host.boundary.writers.get? writer.handle =
                  after.host.boundary.writers.get? writer.handle :=
                handle (.writer writer.handle) (owns_writer standing closed)
              simp only [Option.bind_some, closed, same, and_self]

theorem SameStreams.belongings (same : held.SameStreams after) (address : Address) :
    held.descriptor? address = after.descriptor? address ∧
      held.collecting? address = after.collecting? address ∧
        held.sink? address = after.sink? address := by
  obtain ⟨readers, writers, sources, targets⟩ := same
  cases address <;>
    simp only [descriptor?, collecting?, sink?, readers, writers, sources, targets, and_self]

theorem SameStreams.own (same : held.SameStreams after) (isStream : address.IsStream) :
    held.SameOwn after address := by
  obtain ⟨readers, writers, sources, targets⟩ := same
  refine ⟨?_, fun handle owned => ?_⟩
  · cases address with
    | context id => exact isStream.elim
    | reader id => exact congrArg (·.get? id) readers.symm
    | writer id => exact congrArg (·.get? id) writers.symm
  · cases handle with
    | context id => trivial
    | reader id => exact congrArg (·.get? id) sources.symm
    | writer id => exact congrArg (·.get? id) targets.symm

theorem object_notMem_uses (apart : other ≠ address) : .object other ∉ held.uses address := by
  rintro (same | ⟨handle, -, same⟩ | ⟨spot, -, same⟩)
  · exact apart (Part.object.inj same)
  · cases same
  · cases same

theorem handle_notMem_uses (sound : Sound held.custody) {handle : Handle}
    (owned : held.custody.Owns other handle) (apart : other ≠ address) :
    .handle handle ∉ held.uses address := by
  rintro (same | ⟨handle, also, same⟩ | ⟨spot, -, same⟩)
  · cases same
  · cases same
    exact apart (sound.exclusive other address handle owned also)
  · cases same

/-- An action has no part in the objects of others. -/
theorem own_of_other (sound : Sound held.custody) (on : action.On address)
    (done : held.perform action = .done (answer, after)) (apart : other ≠ address) :
    held.SameOwn after other := by
  have confined := (acted_perform sound on done).confined
  refine ⟨?_, fun handle owned => ?_⟩
  · exact (confined.stays _ fun inside => object_notMem_uses apart inside.1).symm
  · exact (confined.stays _ fun inside => handle_notMem_uses sound owned apart inside.1).symm

/-- What belongs to others is left to them. -/
theorem belongings_aside (sound : Sound held.custody) (on : action.On address)
    (done : held.perform action = .done (answer, after)) (apart : other ≠ address) :
    held.descriptor? other = after.descriptor? other ∧
      held.collecting? other = after.collecting? other ∧
        held.sink? other = after.sink? other :=
  (own_of_other sound on done apart).belongings

theorem sink?_of_discards? (on : action.On address) {sink : Nat}
    (gone : held.discards? action = some sink) : held.sink? address = some sink := by
  obtain ⟨same, -⟩ := on
  cases action with
  | writer id asked =>
      cases same
      simp only [discards?, sink?] at gone ⊢
      obtain ⟨writer, found, discards⟩ := Option.bind_eq_some_iff.mp gone
      rw [found]
      cases asked <;> first | exact discards | cases discards
  | _ => cases gone

theorem Collecting.on (collecting : held.Collecting) (sound : Sound held.custody)
    (on : action.On address) (done : held.perform action = .done (answer, after)) :
    after.Collecting := by
  obtain ⟨-, collected, sink, -, hasSink⟩ := possession_perform sound on done
  have aside (other : Address) (apart : other ≠ address) :=
    belongings_aside sound on done apart
  refine ⟨?_, fun other number collects => ?_⟩
  · exact collecting.sinks.lose (fun other apart => (aside other apart).2.2.symm) sink
      (fun _ gone => sink?_of_discards? on gone) hasSink
  · by_cases here : other = address
    · subst here
      rw [collected] at collects
      split at collects
      · rename_i quiet
        rw [sink, if_pos (discards?_of_quiet quiet)]
        exact collecting.collects other number collects
      · cases collects
    · obtain ⟨-, same, sinks⟩ := aside other here
      rw [← sinks]
      exact collecting.collects other number (same.trans collects)

theorem Owning.on (owning : held.Owning) (sound : Sound held.custody) (on : action.On address)
    (done : held.perform action = .done (answer, after)) : after.Owning := by
  obtain ⟨descriptor, -, -, isOpen, -⟩ := possession_perform sound on done
  refine ⟨?_, owning.collecting.on sound on done⟩
  refine owning.descriptors.lose
    (fun other apart => (belongings_aside sound on done apart).1.symm) ?_ ?_ isOpen
  · rcases on.ending with quiet | ends
    · rw [descriptor, if_pos quiet, closes?_of_quiet quiet, if_pos rfl]
    · rw [descriptor, ends, if_neg (Option.some_ne_none _), closes?_of_ends ends]
      cases held.descriptor? address <;> rfl
  · intro fd closes
    rcases on.ending with quiet | ends
    · rw [closes?_of_quiet quiet] at closes
      cases closes
    · exact (closes?_of_ends ends).symm.trans closes

/-- What a new stream owns was handed over, or is new. -/
theorem gained_spec {world further : World} {handed own sink : Option Nat}
    (gained : Gained world handed own sink further) :
    (∀ fd, own = some fd → handed = some fd ∨ (further.IsOpen fd ∧ ¬ world.IsOpen fd)) ∧
      (∀ number, sink = some number → further.HasSink number ∧ ¬ world.HasSink number) ∧
        (∀ fd, world.IsOpen fd → further.IsOpen fd) ∧
          ∀ number, world.HasSink number → further.HasSink number := by
  have missing {α : Type} (arena : Arena α) : ¬ (arena.get? arena.fresh).isSome := by
    rw [Arena.get?_fresh]
    exact Bool.false_ne_true
  have there {α : Type} (arena : Arena α) (object : α) :
      ((arena.alloc object).get? arena.fresh).isSome := by
    rw [Arena.get?_alloc_self]
    rfl
  have stays {α : Type} (arena : Arena α) (object : α) (number : Nat)
      (old : (arena.get? number).isSome) : ((arena.alloc object).get? number).isSome := by
    obtain ⟨kept, found⟩ := Option.isSome_iff_exists.mp old
    rw [Arena.get?_alloc_of_get? object found]
    rfl
  cases gained with
  | nothing => exact ⟨nofun, nofun, fun _ => id, fun _ => id⟩
  | given same =>
      refine ⟨fun fd own => ?_, nofun, fun _ => id, fun _ => id⟩
      obtain rfl := Option.some.inj own
      exact Or.inl same
  | opened descriptors sinks =>
      simp only [World.IsOpen, World.HasSink, descriptors, sinks]
      refine ⟨fun fd own => ?_, nofun, stays _ _, fun _ => id⟩
      obtain rfl := Option.some.inj own
      exact Or.inr ⟨there _ _, missing _⟩
  | collects descriptors sinks =>
      simp only [World.IsOpen, World.HasSink, descriptors, sinks]
      refine ⟨nofun, fun number own => ?_, fun _ => id, stays _ _⟩
      obtain rfl := Option.some.inj own
      exact ⟨there _ _, missing _⟩

/-- A new reader has no part in the other streams. -/
theorem own_of_new_reader (sound : Sound held.custody) (isStream : other.IsStream) {reader : Reader}
    {stream : Boundary.Reader} (readers : after.readers = held.readers.alloc reader)
    (sources : after.host.boundary.readers = held.host.boundary.readers.alloc stream)
    (writers : after.writers = held.writers)
    (targets : after.host.boundary.writers = held.host.boundary.writers)
    (apart : other ≠ .reader held.readers.fresh) : held.SameOwn after other := by
  refine ⟨?_, fun handle owned => ?_⟩
  · cases other with
    | context id => exact isStream.elim
    | writer id => exact congrArg (·.get? id) writers.symm
    | reader id =>
        have old : id ≠ held.readers.fresh := fun same => apart (congrArg _ same)
        show held.readers.get? id = after.readers.get? id
        rw [readers, Arena.get?_alloc, if_neg old]
  · have alive := sound.alive _ handle owned
    cases handle with
    | context number => trivial
    | writer number => exact congrArg (·.get? number) targets.symm
    | reader number =>
        obtain ⟨source, live⟩ := Option.isSome_iff_exists.mp alive
        show held.host.boundary.readers.get? number = after.host.boundary.readers.get? number
        rw [sources]
        exact live.trans (Arena.get?_alloc_of_get? stream live).symm

/-- A new writer has no part in the other streams. -/
theorem own_of_new_writer (sound : Sound held.custody) (isStream : other.IsStream) {writer : Writer}
    {stream : Boundary.Writer} (writers : after.writers = held.writers.alloc writer)
    (targets : after.host.boundary.writers = held.host.boundary.writers.alloc stream)
    (readers : after.readers = held.readers)
    (sources : after.host.boundary.readers = held.host.boundary.readers)
    (apart : other ≠ .writer held.writers.fresh) : held.SameOwn after other := by
  refine ⟨?_, fun handle owned => ?_⟩
  · cases other with
    | context id => exact isStream.elim
    | reader id => exact congrArg (·.get? id) readers.symm
    | writer id =>
        have old : id ≠ held.writers.fresh := fun same => apart (congrArg _ same)
        show held.writers.get? id = after.writers.get? id
        rw [writers, Arena.get?_alloc, if_neg old]
  · have alive := sound.alive _ handle owned
    cases handle with
    | context number => trivial
    | reader number => exact congrArg (·.get? number) sources.symm
    | writer number =>
        obtain ⟨target, live⟩ := Option.isSome_iff_exists.mp alive
        show held.host.boundary.writers.get? number = after.host.boundary.writers.get? number
        rw [targets]
        exact live.trans (Arena.get?_alloc_of_get? stream live).symm

theorem belongings_reader (sound : Sound held.custody) {reader : Reader} {stream : Boundary.Reader}
    (readers : after.readers = held.readers.alloc reader)
    (sources : after.host.boundary.readers = held.host.boundary.readers.alloc stream)
    (writers : after.writers = held.writers)
    (targets : after.host.boundary.writers = held.host.boundary.writers)
    (apart : other ≠ .reader held.readers.fresh) :
    held.descriptor? other = after.descriptor? other ∧
      held.collecting? other = after.collecting? other ∧
        held.sink? other = after.sink? other := by
  cases other with
  | context id => exact ⟨rfl, rfl, rfl⟩
  | _ =>
      refine SameOwn.belongings ?_
      exact own_of_new_reader sound trivial readers sources writers targets apart

theorem belongings_writer (sound : Sound held.custody) {writer : Writer} {stream : Boundary.Writer}
    (writers : after.writers = held.writers.alloc writer)
    (targets : after.host.boundary.writers = held.host.boundary.writers.alloc stream)
    (readers : after.readers = held.readers)
    (sources : after.host.boundary.readers = held.host.boundary.readers)
    (apart : other ≠ .writer held.writers.fresh) :
    held.descriptor? other = after.descriptor? other ∧
      held.collecting? other = after.collecting? other ∧
        held.sink? other = after.sink? other := by
  cases other with
  | context id => exact ⟨rfl, rfl, rfl⟩
  | _ =>
      refine SameOwn.belongings ?_
      exact own_of_new_writer sound trivial writers targets readers sources apart

theorem Collecting.spared (collecting : held.Collecting) (same : held.SameStreams after)
    (spares : held.SparesSinks after.world) : after.Collecting := by
  refine ⟨collecting.sinks.mono fun address sink own => ?_, fun address sink collects => ?_⟩
  · rw [← (same.belongings address).2.2] at own
    exact ⟨own, spares address sink own⟩
  · obtain ⟨-, collected, sinks⟩ := same.belongings address
    rw [← sinks]
    exact collecting.collects address sink (collected.trans collects)

/-- What belongs to streams stays there. -/
theorem Owning.spared (owning : held.Owning) (same : held.SameStreams after)
    (spares : held.Spares after.world) : after.Owning := by
  refine ⟨owning.descriptors.mono fun address fd own => ?_,
    owning.collecting.spared same spares.hasSink⟩
  rw [← (same.belongings address).1] at own
  exact ⟨own, spares.isOpen address fd own⟩

/-- A constructor that is refused takes no sink away. -/
theorem Collecting.sparesSinks (collecting : held.Collecting)
    (kept : (∀ fd, ¬ held.Forfeits action fd) → after.world = held.world)
    (closed : ∀ fd, held.Forfeits action fd → after.world = held.world.close fd) :
    held.SparesSinks after.world := by
  intro address sink own
  have there := collecting.sinks.there address sink own
  by_cases forfeits : ∃ fd, held.Forfeits action fd
  · obtain ⟨fd, forfeited⟩ := forfeits
    rw [closed fd forfeited, (World.within_close held.world fd).hasSink fun inside =>
      World.sink_notMem_behind inside.1]
    exact there
  · rw [kept fun fd forfeited => forfeits ⟨fd, forfeited⟩]
    exact there

theorem Collecting.opening (collecting : held.Collecting) (sound : Sound held.custody)
    (opening : held.Opening action answer after) : after.Collecting := by
  cases opening with
  | refused unmade same kept closed => exact collecting.spared same (collecting.sparesSinks kept closed)
  | @reader _ reader stream unforfeited opens readers opened handle sources writers targets gained =>
      obtain ⟨-, -, -, hasSink⟩ := gained_spec gained
      have others (other : Address) (apart : other ≠ .reader held.readers.fresh) :=
        belongings_reader sound readers sources writers targets apart
      refine ⟨collecting.sinks.gain (fun other apart => (others other apart).2.2.symm) rfl nofun
        hasSink, fun other sink collects => ?_⟩
      by_cases new : other = .reader held.readers.fresh
      · subst new
        cases collects
      · obtain ⟨-, collected, sameSink⟩ := others other new
        rw [← sameSink]
        exact collecting.collects other sink (collected.trans collects)
  | @writer _ writer stream unforfeited opens writers opened handle targets readers sources collects
      gained =>
      obtain ⟨-, sinks, -, hasSink⟩ := gained_spec gained
      have others (other : Address) (apart : other ≠ .writer held.writers.fresh) :=
        belongings_writer sound writers targets readers sources apart
      have there : after.writers.get? held.writers.fresh = some writer := by
        rw [writers, Arena.get?_alloc_self]
      have live : after.host.boundary.writers.get? writer.handle = some stream := by
        rw [handle, targets, Arena.get?_alloc_self]
      have sameSink : after.sink? (.writer held.writers.fresh) = writer.sink := by
        rw [sink?, there, Option.bind_some]
      have nobody (sink : Nat) (new : writer.sink = some sink) :
          after.world.HasSink sink ∧ ∀ other, held.sink? other ≠ some sink :=
        ⟨(sinks sink new).1, fun other old =>
          (sinks sink new).2 (collecting.sinks.there other sink old)⟩
      refine ⟨collecting.sinks.gain (fun other apart => (others other apart).2.2.symm) sameSink nobody
        hasSink, fun other sink collected => ?_⟩
      by_cases new : other = .writer held.writers.fresh
      · subst new
        rw [collecting?_writer there opened live] at collected
        rw [sameSink]
        cases stream with
        | growing number => exact collects sink (congrArg _ (Option.some.inj collected))
        | _ => cases collected
      · obtain ⟨-, same, sameSink⟩ := others other new
        rw [← sameSink]
        exact collecting.collects other sink (same.trans collected)

theorem Owning.opening (owning : held.Owning) (sound : Sound held.custody)
    (disciplined : held.Disciplined action) (opening : held.Opening action answer after) :
    after.Owning := by
  have unowned {own sink : Option Nat}
      (gained : Gained held.world action.handsOver? own sink after.world) (fd : Nat)
      (new : own = some fd) :
      after.world.IsOpen fd ∧ ∀ other, held.descriptor? other ≠ some fd := by
    obtain ⟨descriptors, -, isOpen, -⟩ := gained_spec gained
    rcases descriptors fd new with given | ⟨there, closed⟩
    · exact ⟨isOpen fd (disciplined fd given).1, (disciplined fd given).2⟩
    · exact ⟨there, fun other old => closed (owning.descriptors.there other fd old)⟩
  have collecting := owning.collecting.opening sound opening
  cases opening with
  | refused unmade same kept closed =>
      refine owning.spared same ⟨fun address number own => ?_,
        owning.collecting.sparesSinks kept closed⟩
      have there := owning.descriptors.there address number own
      by_cases forfeits : ∃ fd, held.Forfeits action fd
      · obtain ⟨fd, forfeited⟩ := forfeits
        rw [closed fd forfeited, World.isOpen_close]
        refine ⟨there, ?_⟩
        rintro rfl
        exact (disciplined number forfeited.given).2 address own
      · rw [kept fun fd forfeited => forfeits ⟨fd, forfeited⟩]
        exact there
  | @reader _ reader stream unforfeited opens readers opened handle sources writers targets gained =>
      have there : after.readers.get? held.readers.fresh = some reader := by
        rw [readers, Arena.get?_alloc_self]
      have live : after.host.boundary.readers.get? reader.handle = some stream := by
        rw [handle, sources, Arena.get?_alloc_self]
      refine ⟨owning.descriptors.gain (fun other apart =>
          (belongings_reader sound readers sources writers targets apart).1.symm)
        (descriptor?_reader there opened live) (unowned gained) (gained_spec gained).2.2.1,
        collecting⟩
  | @writer _ writer stream unforfeited opens writers opened handle targets readers sources collects
      gained =>
      have there : after.writers.get? held.writers.fresh = some writer := by
        rw [writers, Arena.get?_alloc_self]
      have live : after.host.boundary.writers.get? writer.handle = some stream := by
        rw [handle, targets, Arena.get?_alloc_self]
      refine ⟨owning.descriptors.gain (fun other apart =>
          (belongings_writer sound writers targets readers sources apart).1.symm)
        (descriptor?_writer there opened live) (unowned gained) (gained_spec gained).2.2.1,
        collecting⟩

theorem disciplined_of_none (held : Holdings) (nothing : action.handsOver? = none) :
    held.Disciplined action := by
  intro fd given
  rw [nothing] at given
  cases given

/-- Without streams, no descriptor has been handed over. -/
theorem disciplined_of_streamless (readers : held.readers = {}) (writers : held.writers = {})
    {fd : Nat} (isOpen : held.world.IsOpen fd) (given : action.handsOver? = some fd) :
    held.Disciplined action := by
  intro number same
  cases given.symm.trans same
  refine ⟨isOpen, fun address own => ?_⟩
  rw [descriptor?_of_streamless readers writers] at own
  cases own

theorem collecting_start (world : World) : (start world).Collecting := by
  refine ⟨.of_none fun address => ?_, fun address sink collects => ?_⟩
  · cases address <;> rfl
  · rw [collecting?_of_vacant (claim?_start world address)] at collects
    cases collects

theorem Collecting.perform (collecting : held.Collecting) (sound : Sound held.custody)
    (done : held.perform action = .done (answer, after)) : after.Collecting := by
  rcases action.kinds with ⟨config, rfl⟩ | ⟨id, asked, rfl, opens⟩ | ⟨address, on⟩
  · obtain ⟨_, _, built, same, retains⟩ := streams_build held config
    cases done.symm.trans built
    exact collecting.spared same fun address sink own =>
      (retains.hasSink sink).mpr (collecting.sinks.there address sink own)
  · obtain ⟨_, _, made, opening⟩ := opening_perform sound id opens
    cases done.symm.trans made
    exact collecting.opening sound opening
  · exact collecting.on sound on done

theorem Orderly.start (world : World) : (start world).Orderly :=
  ⟨sound_start world, .of_none fun address => descriptor?_of_vacant (claim?_start world address),
    collecting_start world⟩

theorem Orderly.perform (orderly : held.Orderly) (disciplined : held.Disciplined action)
    (done : held.perform action = .done (answer, after)) : after.Orderly := by
  obtain ⟨sound, owning⟩ := orderly
  refine ⟨sound_perform sound done, ?_⟩
  rcases action.kinds with ⟨config, rfl⟩ | ⟨id, asked, rfl, opens⟩ | ⟨address, on⟩
  · obtain ⟨_, _, built, same, retains⟩ := streams_build held config
    cases done.symm.trans built
    exact owning.spared same
      ⟨fun address fd own => (retains.isOpen fd).mpr (owning.descriptors.there address fd own),
        fun address sink own =>
          (retains.hasSink sink).mpr (owning.collecting.sinks.there address sink own)⟩
  · obtain ⟨_, _, made, opening⟩ := opening_perform sound id opens
    cases done.symm.trans made
    exact owning.opening sound disciplined opening
  · exact owning.on sound on done

theorem Orderly.inWorld (orderly : held.Orderly) {world : World} (spares : held.Spares world) :
    (held.inWorld world).Orderly :=
  ⟨sound_inWorld orderly.sound world, orderly.owning.spared ⟨rfl, rfl, rfl, rfl⟩ spares⟩

end

end Holdings

/-- An action, with the descriptors that it took over and those that it closed. -/
structure Step where
  action : Action
  taken : Set Nat
  closed : Set Nat

/-- An action that leads from what is held to something else. -/
def Holdings.step (held : Holdings) (action : Action) (after : Holdings) : Step where
  action
  taken := { fd | action.handsOver? = some fd ∨
    ∃ address, held.descriptor? address ≠ some fd ∧ after.descriptor? address = some fd }
  closed := { fd | held.world.IsOpen fd ∧ ¬ after.world.IsOpen fd }

/-- One action after the other, and the world as it likes in between, except for what belongs to
streams. -/
inductive Course (first : Holdings) : List Step → Holdings → Prop where
  | start : Course first [] first
  | act {log : List Step} {held after : Holdings} {action : Action} {answer : Answer}
      (earlier : Course first log held) (disciplined : held.Disciplined action)
      (done : held.perform action = .done (answer, after)) :
      Course first (log ++ [held.step action after]) after
  | change {log : List Step} {held : Holdings} {world : World} (earlier : Course first log held)
      (spares : held.Spares world) : Course first log (held.inWorld world)

theorem Course.orderly {first held : Holdings} {log : List Step} (course : Course first log held)
    (start : first.Orderly) : held.Orderly := by
  induction course with
  | start => exact start
  | act earlier disciplined done ih => exact ih.perform disciplined done
  | change earlier spares ih => exact ih.inWorld spares

end Host

end SessionStreams
