import SessionStreams.Proofs.Footprints
import SessionStreams.Proofs.Partings

set_option autoImplicit false

/- What is held, part by part: objects, the streams behind them and the parts of the world. What an
object has to do with (`Holdings.uses`) and what an action on it may change (`Holdings.changes`) are
sets of such parts. Two states that have all parts and the sessions in common are the same but for
the ledger (`Holdings.eq_of_same`). -/

namespace SessionStreams

namespace Host

/-- The parts of what is held, but for the sessions and the tree in which they have their homes. -/
inductive Part where
  | object (address : Address)
  | handle (handle : Handle)
  | spot (spot : Spot)
deriving DecidableEq

/-- What can be in a part. -/
abbrev Part.State : Part → Type
  | .object (.context _) => Context
  | .object (.reader _) => Reader
  | .object (.writer _) => Writer
  | .handle (.context _) => Unit
  | .handle (.reader _) => Boundary.Reader
  | .handle (.writer _) => Boundary.Writer
  | .spot here => here.State

namespace Holdings

/-- A part is the same on both sides. -/
def Same (one two : Holdings) : Part → Prop
  | .object (.context id) => one.contexts.get? id = two.contexts.get? id
  | .object (.reader id) => one.readers.get? id = two.readers.get? id
  | .object (.writer id) => one.writers.get? id = two.writers.get? id
  | .handle (.context _) => True
  | .handle (.reader id) =>
      one.host.boundary.readers.get? id = two.host.boundary.readers.get? id
  | .handle (.writer id) =>
      one.host.boundary.writers.get? id = two.host.boundary.writers.get? id
  | .spot spot => one.world.at? spot = two.world.at? spot

/-- The same but for one part. -/
def put (held : Holdings) : (part : Part) → Option part.State → Holdings
  | .object (.context id), state => { held with contexts := held.contexts.put id state }
  | .object (.reader id), state => { held with readers := held.readers.put id state }
  | .object (.writer id), state => { held with writers := held.writers.put id state }
  | .handle (.context _), _ => held
  | .handle (.reader id), state =>
      { held with host := { held.host with
        boundary := { held.host.boundary with readers := held.host.boundary.readers.put id state } } }
  | .handle (.writer id), state =>
      { held with host := { held.host with
        boundary := { held.host.boundary with writers := held.host.boundary.writers.put id state } } }
  | .spot spot, state => held.inWorld (held.world.put spot state)

/-- What is left without the contents of all parts, without sessions and without the ledger. -/
def bare (held : Holdings) : Holdings where
  host :=
    { boundary :=
        { world := { held.world.bare with tree := .empty }
          configs := held.host.boundary.configs
          readers := held.host.boundary.readers.blank
          writers := held.host.boundary.writers.blank } }
  contexts := held.contexts.blank
  readers := held.readers.blank
  writers := held.writers.blank

/-- Everything but the ledger. -/
def unrecorded (held : Holdings) : Holdings := { held with host := { held.host with ledger := [] } }

section

variable {one two three : Holdings} {part : Part}

theorem Same.refl (held : Holdings) (part : Part) : held.Same held part := by
  rcases part with (_ | _ | _) | (_ | _ | _) | _ <;> first | rfl | trivial

theorem Same.symm (same : one.Same two part) : two.Same one part := by
  rcases part with (_ | _ | _) | (_ | _ | _) | _ <;> first | exact Eq.symm same | trivial

theorem Same.trans (first : one.Same two part) (second : two.Same three part) :
    one.Same three part := by
  rcases part with (_ | _ | _) | (_ | _ | _) | _ <;> first | exact Eq.trans first second | trivial

theorem eq_of_same (bare : one.bare = two.bare) (same : ∀ part, one.Same two part)
    (sessions : one.host.sessions = two.host.sessions) : one.unrecorded = two.unrecorded := by
  obtain ⟨⟨⟨world, configs, records, sources, targets⟩, shares, ledger⟩, contexts, readers, writers⟩ :=
    one
  obtain ⟨⟨⟨world', configs', records', sources', targets'⟩, shares', ledger'⟩, contexts', readers',
    writers'⟩ := two
  simp only [Holdings.bare, Holdings.mk.injEq, Host.mk.injEq, Boundary.mk.injEq] at bare
  obtain ⟨⟨⟨worlds, rfl, -, blankSources, blankTargets⟩, -, -⟩, blankContexts, blankReaders,
    blankWriters⟩ := bare
  simp only [Host.sessions, Prod.mk.injEq] at sessions
  obtain ⟨tree, rfl, rfl⟩ := sessions
  obtain rfl : contexts = contexts' :=
    Arena.eq_of_get? (Arena.fresh_of_blank blankContexts) fun id => same (.object (.context id))
  obtain rfl : readers = readers' :=
    Arena.eq_of_get? (Arena.fresh_of_blank blankReaders) fun id => same (.object (.reader id))
  obtain rfl : writers = writers' :=
    Arena.eq_of_get? (Arena.fresh_of_blank blankWriters) fun id => same (.object (.writer id))
  obtain rfl : sources = sources' :=
    Arena.eq_of_get? (Arena.fresh_of_blank blankSources) fun id => same (.handle (.reader id))
  obtain rfl : targets = targets' :=
    Arena.eq_of_get? (Arena.fresh_of_blank blankTargets) fun id => same (.handle (.writer id))
  obtain rfl : world = world' := by
    refine World.eq_of_at? ?_ fun spot => same (.spot spot)
    obtain ⟨⟩ := world
    obtain ⟨⟩ := world'
    simp only [World.bare, World.mk.injEq] at worlds ⊢
    exact ⟨worlds.1, worlds.2.1, worlds.2.2.1, worlds.2.2.2.1, tree, worlds.2.2.2.2.2⟩
  rfl

end

/-- Only these parts may be different, besides the sessions and the ledger. -/
structure Confined (changed : Set Part) (before after : Holdings) : Prop where
  bare : after.bare = before.bare
  stays : ∀ part, part ∉ changed → after.Same before part

/-- These parts are the same. -/
structure Agree (parts : Set Part) (one two : Holdings) : Prop where
  bare : one.bare = two.bare
  same : ∀ part, part ∈ parts → one.Same two part

/-- The parts of the world that a stream reaches, and the sink that a writer collects in. -/
def spots (held : Holdings) : Address → Set Spot
  | .context _ => ∅
  | .reader id => { spot | ∃ reader source, held.readers.get? id = some reader ∧
      reader.closed = false ∧ held.host.boundary.readers.get? reader.handle = some source ∧
      spot ∈ source.spots held.world }
  | .writer id => { spot | ∃ writer, held.writers.get? id = some writer ∧
      ((∃ sink, writer.sink = some sink ∧ spot = .sink sink) ∨
        writer.closed = false ∧ ∃ target,
          held.host.boundary.writers.get? writer.handle = some target ∧
          spot ∈ target.spots held.world) }

/-- All that an action on an object has to do with. -/
def uses (held : Holdings) (address : Address) : Set Part :=
  { part | part = .object address ∨
    (∃ handle, held.custody.Owns address handle ∧ part = .handle handle) ∨
      ∃ spot, spot ∈ held.spots address ∧ part = .spot spot }

/-- What an action on an object may change. A reader changes no file. -/
def changes (held : Holdings) (address : Address) : Set Part :=
  { part | part ∈ held.uses address ∧
    ∀ id contents, address = .reader id → part ≠ .spot (.file contents) }

section

variable {changed parts : Set Part} {held after one two : Holdings} {part : Part}

theorem Confined.refl (changed : Set Part) (held : Holdings) : Confined changed held held :=
  ⟨rfl, fun part _ => Same.refl held part⟩

theorem Confined.trans {first second third : Holdings} (one : Confined changed first second)
    (two : Confined changed second third) : Confined changed first third :=
  ⟨two.bare.trans one.bare, fun part outside =>
    (two.stays part outside).trans (one.stays part outside)⟩

/-- What an action leaves alone is the same before and after it. -/
theorem Confined.agree (confined : Confined changed held after)
    (apart : ∀ part, part ∈ parts → part ∉ changed) : Agree parts after held :=
  ⟨confined.bare, fun part inside => confined.stays part (apart part inside)⟩

theorem Agree.symm (agree : Agree parts one two) : Agree parts two one :=
  ⟨agree.bare.symm, fun part inside => (agree.same part inside).symm⟩

theorem Agree.trans {three : Holdings} (first : Agree parts one two)
    (second : Agree parts two three) : Agree parts one three :=
  ⟨first.bare.trans second.bare, fun part inside =>
    (first.same part inside).trans (second.same part inside)⟩

theorem bare_world (bare : one.bare = two.bare) : one.world.bare = { two.world.bare with
    tree := one.world.tree } := by
  have worlds := congrArg (fun held : Holdings => held.host.boundary.world) bare
  simp only [Holdings.bare, World.bare, World.mk.injEq] at worlds
  simp only [World.bare, World.mk.injEq]
  exact ⟨worlds.1, worlds.2.1, worlds.2.2.1, worlds.2.2.2.1, trivial, worlds.2.2.2.2.2⟩

theorem bare_inWorld {world : World} (same : world.bare = held.world.bare) :
    (held.inWorld world).bare = held.bare := by
  simp only [Holdings.bare, inWorld, mapWorld, same]

theorem issued_of_bare (bare : one.bare = two.bare) (spot : Spot) :
    one.world.Issued spot ↔ two.world.Issued spot := by
  have worlds := bare_world bare
  have issued (world : World) (tree : Tree) :
      ({ world.bare with tree } : World).Issued spot ↔ world.Issued spot := by
    cases spot <;> simp only [World.Issued, World.bare, Arena.fresh_blank]
  have same (world : World) : world.bare.Issued spot ↔ world.Issued spot := issued world _
  rw [← same one.world, worlds, issued]

theorem same_put_ne (held : Holdings) {part other : Part} (apart : other ≠ part)
    (state : Option part.State) : (held.put part state).Same held other := by
  rcases part with (id | id | id) | (id | id | id) | here <;>
    rcases other with (more | more | more) | (more | more | more) | there <;>
      first
      | rfl
      | trivial
      | exact (Arena.get?_put ..).trans (if_neg fun same => apart (by rw [same]))
      | exact World.at?_put_ne (fun same => apart (by rw [same])) state

theorem bare_put (held : Holdings) (part : Part) (state : Option part.State) :
    (held.put part state).bare = held.bare := by
  rcases part with (id | id | id) | (id | id | id) | here
  case spot => exact bare_inWorld (World.bare_put here state)
  all_goals simp only [bare, put, world, Arena.blank_put]

theorem same_put_self (bare : one.bare = two.bare) (part : Part) (state : Option part.State) :
    (one.put part state).Same (two.put part state) part := by
  have blanks := bare
  simp only [Holdings.bare, Holdings.mk.injEq, Host.mk.injEq, Boundary.mk.injEq] at blanks
  obtain ⟨⟨⟨-, -, -, sources, targets⟩, -, -⟩, contexts, readers, writers⟩ := blanks
  rcases part with (id | id | id) | (id | id | id) | here
  case spot =>
    by_cases issued : one.world.Issued here
    · exact (World.at?_put_self issued state).trans
        (World.at?_put_self ((issued_of_bare bare here).mp issued) state).symm
    · exact (World.at?_put_self_of_not_issued issued state).trans
        (World.at?_put_self_of_not_issued (mt (issued_of_bare bare here).mpr issued) state).symm
  case handle.context => trivial
  case object.context =>
    simp only [Same, put, Arena.get?_put, Arena.fresh_of_blank contexts, if_true]
  case object.reader =>
    simp only [Same, put, Arena.get?_put, Arena.fresh_of_blank readers, if_true]
  case object.writer =>
    simp only [Same, put, Arena.get?_put, Arena.fresh_of_blank writers, if_true]
  case handle.reader =>
    simp only [Same, put, Arena.get?_put, Arena.fresh_of_blank sources, if_true]
  case handle.writer =>
    simp only [Same, put, Arena.get?_put, Arena.fresh_of_blank targets, if_true]

theorem confined_put (held : Holdings) {part : Part} (inside : part ∈ changed)
    (state : Option part.State) : Confined changed held (held.put part state) :=
  ⟨bare_put held part state, fun other outside =>
    same_put_ne held (fun (same : other = part) => outside (same ▸ inside)) state⟩

theorem Agree.put (agree : Agree parts one two) (part : Part) (state : Option part.State) :
    Agree parts (one.put part state) (two.put part state) := by
  have bare : (one.put part state).bare = (two.put part state).bare := by
    rw [bare_put, bare_put, agree.bare]
  refine ⟨bare, fun other inside => ?_⟩
  by_cases same : other = part
  · subst same
    exact same_put_self agree.bare other state
  · exact (same_put_ne one same state).trans
      ((agree.same other inside).trans (same_put_ne two same state).symm)

/-- Where parts of what is held agree, so do those of the world. -/
theorem Agree.world (agree : Agree parts one two) {spots : Set Spot}
    (covered : ∀ spot, spot ∈ spots → .spot spot ∈ parts) :
    World.Alike spots one.world two.world :=
  ⟨issued_of_bare agree.bare, fun spot inside => agree.same _ (covered spot inside)⟩

/-- Partings have to do with sessions only. -/
theorem confined_parted (changed : Set Part) (held : Holdings) (share : Nat) :
    Confined changed held { held with host := held.host.parted share } := by
  obtain ⟨tree, contexts, shares, ledger, parted⟩ := exists_parted held.host share
  rw [parted]
  refine ⟨rfl, fun part _ => ?_⟩
  rcases part with (_ | _ | _) | (_ | _ | _) | spot
  case spot => cases spot <;> rfl
  all_goals first | rfl | trivial

theorem confined_inWorld {world : World} {spots : Set Spot}
    (within : World.Within spots held.world world)
    (inside : ∀ spot, spot ∈ spots → .spot spot ∈ changed) :
    Confined changed held (held.inWorld world) := by
  refine ⟨bare_inWorld within.bare, fun part outside => ?_⟩
  rcases part with (_ | _ | _) | (_ | _ | _) | spot
  case spot => exact within.stays spot fun here => outside (inside spot here)
  all_goals first | rfl | trivial

theorem Agree.inWorld (agree : Agree parts one two) {first second : World}
    (alike : World.Alike { spot | .spot spot ∈ parts } first second)
    (bareOne : first.bare = one.world.bare) (bareTwo : second.bare = two.world.bare) :
    Agree parts (one.inWorld first) (two.inWorld second) := by
  refine ⟨?_, fun part inside => ?_⟩
  · rw [bare_inWorld bareOne, bare_inWorld bareTwo, agree.bare]
  · rcases part with (_ | _ | _) | (_ | _ | _) | spot
    case spot => exact alike.same spot inside
    all_goals exact agree.same _ inside

/-- The ledger plays no part. -/
theorem confined_note (changed : Set Part) (held : Holdings) (event : Event) :
    Confined changed held { held with host := held.host.note event } := by
  refine ⟨rfl, fun part _ => ?_⟩
  rcases part with (_ | _ | _) | (_ | _ | _) | spot
  case spot => cases spot <;> rfl
  all_goals first | rfl | trivial

theorem Agree.onward {first second : Holdings} (agree : Agree parts one two)
    (onwardOne : Confined ∅ one first) (onwardTwo : Confined ∅ two second) :
    Agree parts first second :=
  (onwardOne.agree fun _ _ => Set.notMem_empty _).trans
    (agree.trans (onwardTwo.agree fun _ _ => Set.notMem_empty _).symm)

theorem Agree.note (agree : Agree parts one two) (left right : Event) :
    Agree parts { one with host := one.host.note left } { two with host := two.host.note right } :=
  agree.onward (confined_note ∅ one left) (confined_note ∅ two right)

theorem Agree.parted (agree : Agree parts one two) (left right : Nat) :
    Agree parts { one with host := one.host.parted left }
      { two with host := two.host.parted right } :=
  agree.onward (confined_parted ∅ one left) (confined_parted ∅ two right)

end

end Holdings

end Host

end SessionStreams
