import SessionStreams.Proofs.Possession

set_option autoImplicit false

/- What comes with a new stream. A constructor leaves all streams as they are; one that succeeds
adds a stream over a new descriptor, over the one that was handed over, or over a new sink
(`Gained`), and one that is refused gives up the descriptor that was handed over to a released
context (`opening_perform`). Building a context has nothing to do with streams (`streams_build`). -/

namespace SessionStreams

/-- What a new stream owns, with the world that it was opened in: nothing, the descriptor that was
handed over, a new descriptor, or a new sink. -/
inductive World.Gained (world : World) (handed : Option Nat) :
    Option Nat → Option Nat → World → Prop where
  | nothing : Gained world handed none none world
  | given {fd : Nat} (given : handed = some fd) : Gained world handed (some fd) none world
  | opened {after : World} {descriptor : Descriptor}
      (descriptors : after.descriptors = world.descriptors.alloc descriptor)
      (sinks : after.sinks = world.sinks) :
      Gained world handed (some world.descriptors.fresh) none after
  | collects {after : World} (descriptors : after.descriptors = world.descriptors)
      (sinks : after.sinks = world.sinks.alloc .missing) :
      Gained world handed none (some world.sinks.fresh) after

namespace Handed

variable {handed : Handed} {fd : Nat}

/-- The descriptor that is handed over. -/
def descriptor? (handed : Handed) : Option Nat :=
  if handed.number < 0 then none else some handed.number.toNat

theorem descriptor?_eq_none_iff : handed.descriptor? = none ↔ handed.number < 0 := by
  unfold descriptor?
  split
  · next negative => exact iff_of_true rfl negative
  · next natural => exact iff_of_false nofun natural

theorem descriptor?_eq_some_iff : handed.descriptor? = some fd ↔ handed.number = fd := by
  unfold descriptor?
  split
  · exact iff_of_false nofun (by omega)
  · rw [Option.some.injEq]
    omega

@[simp] theorem descriptor?_owned (fd : Nat) : (owned fd).descriptor? = some fd :=
  descriptor?_eq_some_iff.mpr rfl

end Handed

namespace World

theorem openForReading_cases {world after : World} {path : Path} {fd : Nat}
    (opened : world.openForReading path = .ok (fd, after)) :
    fd = world.descriptors.fresh ∧
      ∃ descriptor, after.descriptors = world.descriptors.alloc descriptor ∧
        after.sinks = world.sinks := by
  unfold openForReading at opened
  split at opened
  · cases opened
  · cases opened
    exact ⟨rfl, _, rfl, rfl⟩

theorem openForWriting_cases {world after : World} {path : Path} {opening : Opening} {fd : Nat}
    (opened : world.openForWriting path opening = .ok (fd, after)) :
    fd = world.descriptors.fresh ∧
      ∃ descriptor, after.descriptors = world.descriptors.alloc descriptor ∧
        after.sinks = world.sinks := by
  unfold openForWriting at opened
  dsimp only at opened
  repeat' split at opened
  all_goals cases opened
  all_goals exact ⟨rfl, _, rfl, rfl⟩

theorem Retains.trans {first second third : World} (one : Retains first second)
    (two : Retains second third) : Retains first third :=
  ⟨fun fd => (two.isOpen fd).trans (one.isOpen fd),
    fun sink => (two.hasSink sink).trans (one.hasSink sink)⟩

theorem retains_makeDirectory {world after : World} {path : Path}
    (made : world.makeDirectory path = .ok after) : Retains world after := by
  obtain ⟨parent, siblings, name, -, -, -, rfl⟩ := makeDirectory_spec made
  exact ⟨fun _ => Iff.rfl, fun _ => Iff.rfl⟩

theorem retains_ensureDirectory {world after : World} {path : Path}
    (ensured : world.ensureDirectory path = .ok after) : Retains world after := by
  unfold ensureDirectory at ensured
  split at ensured
  · next made =>
      cases ensured
      exact retains_makeDirectory made
  · split at ensured
    · cases ensured
      exact Retains.refl world
    · cases ensured

theorem retains_makeDirectories (world : World) (path : Path) :
    Retains world (world.makeDirectories path).2 := by
  fun_induction World.makeDirectories world path with
  | case1 path => exact Retains.refl world
  | case2 path parent _ after ensured => exact retains_ensureDirectory ensured
  | case3 path parent _ failure after above _ ih =>
      rw [above] at ih
      exact ih
  | case4 path parent _ _ middle above final ensured _ ih =>
      rw [above] at ih
      exact ih.trans (retains_ensureDirectory ensured)
  | case5 path parent _ _ middle above failure refused _ ih =>
      rw [above] at ih
      exact ih
  | case6 => exact Retains.refl world

theorem retains_makeTemporary {world after : World} {path : Path}
    (made : world.makeTemporary = .ok (path, after)) : Retains world after := by
  obtain ⟨drawn, middle, -, -, created, rfl⟩ := makeTemporary_spec made
  exact (retains_makeDirectory created).trans ⟨fun _ => Iff.rfl, fun _ => Iff.rfl⟩

end World

theorem Engine.Settings.retains_build (settings : Settings) (world : World) :
    World.Retains world (settings.build world).2 := by
  unfold build
  split
  · split
    · exact World.Retains.refl world
    · next made => exact World.retains_makeTemporary made
  · have retained := World.retains_makeDirectories world settings.home
    split
    · next made =>
        rw [made] at retained
        exact retained
    · next made =>
        rw [made] at retained
        exact retained

namespace Boundary

open World (Gained)

def Source.handed? : Source → Option Nat
  | .descriptor handed => handed.descriptor?
  | _ => none

def Destination.handed? : Destination → Option Nat
  | .descriptor handed => handed.descriptor?
  | _ => none

theorem checkDescriptor_cases (handed : Handed) :
    (∃ fault, checkDescriptor handed.number = .error fault) ∨
      ∃ fd, checkDescriptor handed.number = .ok fd ∧ handed.descriptor? = some fd := by
  cases there : handed.descriptor? with
  | none =>
      have negative := Handed.descriptor?_eq_none_iff.mp there
      exact Or.inl ⟨_, if_pos negative⟩
  | some fd =>
      refine Or.inr ⟨fd, ?_, rfl⟩
      rw [Handed.descriptor?_eq_some_iff.mp there, checkDescriptor_natCast]

theorem Source.attempt_cases (source : Source) (boundary : Boundary) :
    (∃ fault, source.attempt boundary = (.error fault, boundary)) ∨
      ∃ stream world, source.attempt boundary = (.ok boundary.readers.fresh,
          { boundary with world, readers := boundary.readers.alloc stream }) ∧
        Gained boundary.world source.handed? stream.descriptor? none world := by
  cases source with
  | file path =>
      simp only [attempt, tryOpenReader]
      cases opened : boundary.world.openForReading path.path with
      | error failure => exact Or.inl ⟨_, rfl⟩
      | ok made =>
          obtain ⟨fd, world⟩ := made
          obtain ⟨rfl, descriptor, descriptors, sinks⟩ := World.openForReading_cases opened
          exact Or.inr ⟨.descriptor _, world, rfl, .opened descriptors sinks⟩
  | descriptor handed =>
      simp only [attempt, tryAdd]
      rcases checkDescriptor_cases handed with ⟨fault, refused⟩ | ⟨number, passed, given⟩
      · rw [refused]
        exact Or.inl ⟨fault, rfl⟩
      · rw [passed]
        exact Or.inr ⟨.descriptor number, boundary.world, rfl, .given given⟩
  | bytes data => exact Or.inr ⟨.bytes data, boundary.world, rfl, .nothing⟩

theorem Destination.attempt_cases (destination : Destination) (fallible : destination ≠ .growing)
    (boundary : Boundary) :
    (∃ fault, destination.attempt boundary = (.error fault, boundary)) ∨
      ∃ stream world, destination.attempt boundary = (.ok boundary.writers.fresh,
          { boundary with world, writers := boundary.writers.alloc stream }) ∧
        (∀ sink, stream ≠ .growing sink) ∧
        Gained boundary.world destination.handed? stream.descriptor? none world := by
  cases destination with
  | growing => exact absurd rfl fallible
  | file path =>
      simp only [attempt, tryOpenWriter]
      cases opened : boundary.world.openForWriting path.path .truncate with
      | error failure => exact Or.inl ⟨_, rfl⟩
      | ok made =>
          obtain ⟨fd, world⟩ := made
          obtain ⟨rfl, descriptor, descriptors, sinks⟩ := World.openForWriting_cases opened
          exact Or.inr ⟨.buffered _ [], world, rfl, fun _ => Writer.noConfusion,
            .opened descriptors sinks⟩
  | descriptor handed =>
      simp only [attempt, tryAdd]
      rcases checkDescriptor_cases handed with ⟨fault, refused⟩ | ⟨number, passed, given⟩
      · rw [refused]
        exact Or.inl ⟨fault, rfl⟩
      · rw [passed]
        exact Or.inr ⟨.buffered number [], boundary.world, rfl, fun _ => Writer.noConfusion,
          .given given⟩
  | memory region =>
      simp only [attempt, tryAdd]
      rcases region with (_ | count) | ⟨id, length⟩
      · exact Or.inr ⟨.fixed none 0 0, boundary.world, rfl, fun _ => Writer.noConfusion, .nothing⟩
      · exact Or.inl ⟨_, rfl⟩
      · exact Or.inr ⟨.fixed (some id) length 0, boundary.world, rfl, fun _ => Writer.noConfusion,
          .nothing⟩

end Boundary

namespace Host

open Boundary (Destination Outcome Source)
open World (Gained Retains)

def Action.handed? : Action → Option Handed
  | .context _ (.readerOverDescriptor handed) => some handed
  | .context _ (.writerOverDescriptor handed) => some handed
  | _ => none

/-- The descriptor that an action hands over. -/
def Action.handsOver? (action : Action) : Option Nat := action.handed?.bind Handed.descriptor?

theorem ContextAction.ending?_of_opens {id : Nat} {action : ContextAction}
    (opens : action.opening? 0 ≠ none) : (Action.context id action).ending? = none := by
  cases action <;> first | rfl | exact absurd rfl opens

namespace Holdings

/-- All streams are as they were. -/
structure SameStreams (held after : Holdings) : Prop where
  readers : after.readers = held.readers
  writers : after.writers = held.writers
  sources : after.host.boundary.readers = held.host.boundary.readers
  targets : after.host.boundary.writers = held.host.boundary.writers

/-- An owned descriptor is handed over to a context that has been released. -/
def Forfeits (held : Holdings) (action : Action) (fd : Nat) : Prop :=
  ∃ id context, action.address? = some (.context id) ∧ held.contexts.get? id = some context ∧
    context.released = true ∧ action.handed? = some (.owned fd)

theorem Forfeits.given {held : Holdings} {action : Action} {fd : Nat}
    (forfeits : held.Forfeits action fd) : action.handsOver? = some fd := by
  obtain ⟨-, -, -, -, -, given⟩ := forfeits
  rw [Action.handsOver?, given]
  exact Handed.descriptor?_owned fd

/-- What comes of a constructor. -/
inductive Opening (held : Holdings) (action : Action) : Answer → Holdings → Prop where
  | refused {answer : Answer} {after : Holdings} (unmade : ∀ new, answer ≠ .made new)
      (same : held.SameStreams after)
      (kept : (∀ fd, ¬ held.Forfeits action fd) → after.world = held.world)
      (closed : ∀ fd, held.Forfeits action fd → after.world = held.world.close fd) :
      Opening held action answer after
  | reader {after : Holdings} {reader : Reader} {stream : Boundary.Reader}
      (unforfeited : ∀ fd, ¬ held.Forfeits action fd)
      (opens : action.opening? held.readers.fresh ≠ none)
      (readers : after.readers = held.readers.alloc reader) (opened : reader.closed = false)
      (handle : reader.handle = held.host.boundary.readers.fresh)
      (sources : after.host.boundary.readers = held.host.boundary.readers.alloc stream)
      (writers : after.writers = held.writers)
      (targets : after.host.boundary.writers = held.host.boundary.writers)
      (gained : Gained held.world action.handsOver? stream.descriptor? none after.world) :
      Opening held action (.made held.readers.fresh) after
  | writer {after : Holdings} {writer : Writer} {stream : Boundary.Writer}
      (unforfeited : ∀ fd, ¬ held.Forfeits action fd)
      (opens : action.opening? held.writers.fresh ≠ none)
      (writers : after.writers = held.writers.alloc writer) (opened : writer.closed = false)
      (handle : writer.handle = held.host.boundary.writers.fresh)
      (targets : after.host.boundary.writers = held.host.boundary.writers.alloc stream)
      (readers : after.readers = held.readers)
      (sources : after.host.boundary.readers = held.host.boundary.readers)
      (collects : ∀ sink, stream = .growing sink → writer.sink = some sink)
      (gained : Gained held.world action.handsOver? stream.descriptor? writer.sink after.world) :
      Opening held action (.made held.writers.fresh) after

section

variable {held after : Holdings} {id : Nat} {context : Context} {answer : Answer}

theorem SameStreams.refl (held : Holdings) : held.SameStreams held := ⟨rfl, rfl, rfl, rfl⟩

/-- A refusal that gives nothing up. -/
theorem Opening.of_refused {action : Action} {error : Error} (same : held.SameStreams after)
    (unforfeited : ∀ fd, ¬ held.Forfeits action fd) (kept : after.world = held.world) :
    held.Opening action (.failed error) after :=
  .refused (fun _ => Answer.noConfusion) same (fun _ => kept) fun fd forfeits =>
    absurd forfeits (unforfeited fd)

theorem not_forfeits_of_unreleased (found : held.contexts.get? id = some context)
    (unreleased : context.released = false) (action : ContextAction) (fd : Nat) :
    ¬ held.Forfeits (.context id action) fd := by
  rintro ⟨other, there, same, standing, released, -⟩
  cases same
  obtain rfl := Option.some.inj (standing.symm.trans found)
  rw [unreleased] at released
  cases released

theorem not_forfeits_of_none {action : Action} (nothing : action.handsOver? = none) (fd : Nat) :
    ¬ held.Forfeits action fd := by
  intro forfeits
  cases nothing.symm.trans forfeits.given

theorem handsOver?_source (id : Nat) (source : Source) :
    (Action.context id source.action).handsOver? = source.handed? := by
  cases source <;> rfl

theorem handsOver?_destination (id : Nat) (destination : Destination) :
    (Action.context id destination.action).handsOver? = destination.handed? := by
  cases destination <;> rfl

/-- A context that was not released is just its share. -/
theorem bare_of_unreleased (found : held.contexts.get? id = some context)
    (unreleased : context.released = false) :
    held.contexts.get? id = some { share := context.share } := by
  obtain ⟨share, _⟩ := context
  cases unreleased
  exact found

theorem opening_source (sound : Sound held.custody) (found : held.contexts.get? id = some context)
    (unreleased : context.released = false) (source : Source) :
    ∃ answer after, held.perform (.context id source.action) = .done (answer, after) ∧
      held.Opening (.context id source.action) answer after := by
  have unforfeited := not_forfeits_of_unreleased found unreleased source.action
  have bare := bare_of_unreleased found unreleased
  have claim : held.custody.Holds (.context id) context.share :=
    Custody.holds_of_claim (claim?_context bare)
  rcases source.attempt_cases held.host.boundary with ⟨fault, refused⟩ | ⟨stream, world, made, gained⟩
  · obtain ⟨host, adopted, same⟩ := adopt_error sound claim "Reader" Handle.reader
      (fun handle => ({ handle, share := context.share } : Reader)) fault held.host.boundary
    have performed := perform_source bare source
    rw [refused, Reader.adopt, adopted] at performed
    refine ⟨_, _, performed, .of_refused ⟨rfl, rfl, ?_, ?_⟩ unforfeited ?_⟩
    · exact congrArg (·.readers) same
    · exact congrArg (·.writers) same
    · exact congrArg (·.world) same
  · refine ⟨_, _, perform_source_made bare made, .reader unforfeited ?_ rfl rfl rfl rfl rfl rfl ?_⟩
    · cases source <;> exact Option.some_ne_none _
    · rw [handsOver?_source]
      exact gained

theorem opening_destination (sound : Sound held.custody)
    (found : held.contexts.get? id = some context) (unreleased : context.released = false)
    (destination : Destination) :
    ∃ answer after, held.perform (.context id destination.action) = .done (answer, after) ∧
      held.Opening (.context id destination.action) answer after := by
  have unforfeited := not_forfeits_of_unreleased found unreleased destination.action
  have bare := bare_of_unreleased found unreleased
  have claim : held.custody.Holds (.context id) context.share :=
    Custody.holds_of_claim (claim?_context bare)
  have opens : (Action.context id destination.action).opening? held.writers.fresh ≠ none := by
    cases destination <;> exact Option.some_ne_none _
  by_cases fallible : destination = .growing
  · subst fallible
    refine ⟨_, _, perform_growing bare,
      .writer unforfeited opens rfl rfl rfl rfl rfl rfl ?_ (.collects rfl rfl)⟩
    intro sink same
    exact congrArg some (Boundary.Writer.growing.inj same)
  · rcases destination.attempt_cases fallible held.host.boundary with
      ⟨fault, refused⟩ | ⟨stream, world, made, bounded, gained⟩
    · obtain ⟨host, adopted, same⟩ := adopt_error sound claim "Writer" Handle.writer
        (fun handle => ({ handle, share := context.share } : Writer)) fault held.host.boundary
      have performed := perform_destination bare destination fallible
      rw [refused, Writer.adopt, adopted] at performed
      refine ⟨_, _, performed, .of_refused ⟨rfl, rfl, ?_, ?_⟩ unforfeited ?_⟩
      · exact congrArg (·.readers) same
      · exact congrArg (·.writers) same
      · exact congrArg (·.world) same
    · refine ⟨_, _, perform_destination_made bare fallible made,
        .writer unforfeited opens rfl rfl rfl rfl rfl rfl (fun sink same =>
          absurd same (bounded sink)) ?_⟩
      rw [handsOver?_destination]
      exact gained

/-- A descriptor that is handed over to a released context is dropped at once. -/
theorem perform_handed_of_released (found : held.contexts.get? id = some context)
    (released : context.released = true) {action : ContextAction} {handed : Handed}
    (takes : action = .readerOverDescriptor handed ∨ action = .writerOverDescriptor handed) :
    held.perform (.context id action) = .done (.failed (.released "Context"),
      { held with host := held.host.mapWorld (·.dropHanded handed) }) := by
  have refused := holding_of_released released held.host
  rcases takes with rfl | rfl
  · simp only [perform, found, performOnContext, Reader.ofDescriptor, refused, Outcome.done_bind]
    rfl
  · simp only [perform, found, performOnContext, Writer.ofDescriptor, refused, Outcome.done_bind]
    rfl

theorem sameStreams_mapWorld (held : Holdings) (change : World → World) :
    held.SameStreams { held with host := held.host.mapWorld change } := ⟨rfl, rfl, rfl, rfl⟩

theorem opening_handed_of_released (found : held.contexts.get? id = some context)
    (released : context.released = true) {action : ContextAction} {handed : Handed}
    (takes : action = .readerOverDescriptor handed ∨ action = .writerOverDescriptor handed)
    (error : Error) : held.Opening (.context id action) (.failed error)
      { held with host := held.host.mapWorld (·.dropHanded handed) } := by
  have given : (Action.context id action).handed? = some handed := by
    rcases takes with rfl | rfl <;> rfl
  refine .refused (fun _ => Answer.noConfusion) (sameStreams_mapWorld held _) ?_ ?_
  · intro unforfeited
    cases handed with
    | owned fd => exact absurd ⟨id, context, rfl, found, released, given⟩ (unforfeited fd)
    | raw number => rfl
  · rintro fd ⟨-, -, -, -, -, owned⟩
    obtain rfl := Option.some.inj (given.symm.trans owned)
    rfl

theorem opening_of_released (found : held.contexts.get? id = some context)
    (released : context.released = true) {action : ContextAction}
    (opens : action.opening? 0 ≠ none) :
    ∃ answer after, held.perform (.context id action) = .done (answer, after) ∧
      held.Opening (.context id action) answer after := by
  obtain ⟨error, performed, -⟩ :=
    perform_of_released found released (ContextAction.ending?_of_opens opens)
  refine ⟨_, _, performed, ?_⟩
  cases action with
  | readerOverDescriptor handed => exact opening_handed_of_released found released (Or.inl rfl) error
  | writerOverDescriptor handed => exact opening_handed_of_released found released (Or.inr rfl) error
  | _ => exact .of_refused (SameStreams.refl held) (not_forfeits_of_none rfl) rfl

theorem opening_perform (sound : Sound held.custody) (id : Nat) {action : ContextAction}
    (opens : action.opening? 0 ≠ none) :
    ∃ answer after, held.perform (.context id action) = .done (answer, after) ∧
      held.Opening (.context id action) answer after := by
  cases found : held.contexts.get? id with
  | none =>
      simp only [perform, found]
      refine ⟨_, _, rfl, .refused (fun _ => Answer.noConfusion) (SameStreams.refl held)
        (fun _ => rfl) ?_⟩
      rintro fd ⟨other, context, same, there, -⟩
      cases same
      cases there.symm.trans found
  | some context =>
      cases released : context.released with
      | true => exact opening_of_released found released opens
      | false =>
          have refused {action : ContextAction} {error : Error}
              (nothing : (Action.context id action).handsOver? = none) :
              held.Opening (.context id action) (.failed error) held :=
            .of_refused (SameStreams.refl held) (not_forfeits_of_none nothing) rfl
          cases action with
          | openReader path =>
              by_cases nul : 0 ∈ path
              · exact ⟨_, _, perform_open_of_nul found nul (Or.inl rfl), refused rfl⟩
              · obtain ⟨text, -, rfl⟩ := pathArgument_of_clean nul
                exact opening_source sound found released (.file text)
          | openWriter path =>
              by_cases nul : 0 ∈ path
              · exact ⟨_, _, perform_open_of_nul found nul (Or.inr rfl), refused rfl⟩
              · obtain ⟨text, -, rfl⟩ := pathArgument_of_clean nul
                exact opening_destination sound found released (.file text)
          | readerOverDescriptor handed =>
              exact opening_source sound found released (.descriptor handed)
          | readerOverBytes data => exact opening_source sound found released (.bytes data)
          | writerOverDescriptor handed =>
              exact opening_destination sound found released (.descriptor handed)
          | writerOverMemory region =>
              exact opening_destination sound found released (.memory region)
          | allocatingWriter => exact opening_destination sound found released .growing
          | _ => exact absurd rfl opens

/-- Building a context leaves all streams as they are. -/
theorem streams_build (held : Holdings) (config : Config) :
    ∃ answer after, held.perform (.build config) = .done (answer, after) ∧
      held.SameStreams after ∧ Retains held.world after.world := by
  by_cases clean : ∀ path, config.home = some path → 0 ∉ path
  · have retains := (config.settings held.world).retains_build held.world
    cases started : (config.settings held.world).build held.world with
    | mk attempt world =>
        rw [started] at retains
        cases attempt with
        | error failure =>
            obtain ⟨configs, built⟩ := Config.build_of_error clean started
            exact ⟨_, _, perform_build built, ⟨rfl, rfl, rfl, rfl⟩, retains⟩
        | ok session =>
            obtain ⟨configs, built⟩ := Config.build_of_ok clean started
            exact ⟨_, _, perform_build built, ⟨rfl, rfl, rfl, rfl⟩, retains⟩
  · push Not at clean
    obtain ⟨path, set, nul⟩ := clean
    exact ⟨_, _, perform_build (Config.build_of_nul held.host set nul), SameStreams.refl held,
      Retains.refl _⟩

end

end Holdings

end Host

end SessionStreams
