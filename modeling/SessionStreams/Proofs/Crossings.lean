import SessionStreams.Proofs.Drafts
import SessionStreams.Proofs.Refusals

set_option autoImplicit false

namespace SessionStreams

open Boundary (Outcome Terminated)
open Engine (Session Setting Settings lastHome?)

namespace Boundary

/-- Byte strings are encoded if they have no NUL, with one put after them; the decoder reads up to
the first NUL, whatever stands behind it, and so gives back what was encoded. -/
structure Conveys (Encodes : Bytes → Terminated → Prop) (decode : Terminated → Bytes) : Prop where
  passes : ∀ source, (∃ text, Encodes source text) ↔ 0 ∉ source
  written : ∀ source text, Encodes source text → text.memory = source ++ [0]
  read : ∀ source text,
    decode text = source ↔ 0 ∉ source ∧ ∃ rest, text.memory = source ++ 0 :: rest
  same : ∀ source text, Encodes source text → decode text = source

namespace Terminated

/-- The terminator stands behind the bytes before it. -/
theorem exists_memory_eq (text : Terminated) : ∃ rest, text.memory = text.bytes ++ 0 :: rest := by
  have cut : text.bytes ++ text.memory.dropWhile (· ≠ 0) = text.memory :=
    List.takeWhile_append_dropWhile
  cases behind : text.memory.dropWhile (· ≠ 0) with
  | nil =>
      -- All of the memory would be read, the terminator with it.
      rw [behind, List.append_nil] at cut
      exact absurd (cut ▸ text.terminated) text.bytes_clean
  | cons byte rest =>
      have stops := List.head?_dropWhile_not (· ≠ 0) text.memory
      rw [behind] at stops
      obtain rfl : byte = 0 := by simpa using stops
      exact ⟨rest, by rw [← behind, cut]⟩

theorem bytes_eq_iff {text : Terminated} {source : Bytes} :
    text.bytes = source ↔ 0 ∉ source ∧ ∃ rest, text.memory = source ++ 0 :: rest := by
  constructor
  · rintro rfl
    exact ⟨text.bytes_clean, text.exists_memory_eq⟩
  · rintro ⟨clean, rest, split⟩
    have kept : ∀ byte ∈ source, decide (byte ≠ 0) = true := by
      intro byte inside
      exact decide_eq_true fun zero => clean (zero ▸ inside)
    rw [bytes, split, List.takeWhile_append_of_pos kept, List.takeWhile_cons_of_neg (by simp),
      List.append_nil]

example : (⟨[0x61, 0xFF, 0, 0x62, 0], by decide⟩ : Terminated).bytes = [0x61, 0xFF] := by decide

theorem ofBytes?_eq_some_iff {source : Bytes} {text : Terminated} :
    ofBytes? source = some text ↔ 0 ∉ source ∧ text.memory = source ++ [0] := by
  obtain ⟨memory, terminated⟩ := text
  by_cases nul : 0 ∈ source <;> simp [ofBytes?, nul, eq_comm]

end Terminated

/-- Whatever lets through just what the encoder passes conveys it. -/
theorem conveys_of_iff {Encodes : Bytes → Terminated → Prop}
    (encodes : ∀ source text, Encodes source text ↔ Terminated.ofBytes? source = some text) :
    Conveys Encodes Terminated.bytes := by
  have written (source : Bytes) (text : Terminated) (encoded : Encodes source text) :
      0 ∉ source ∧ text.memory = source ++ [0] :=
    Terminated.ofBytes?_eq_some_iff.mp ((encodes source text).mp encoded)
  refine ⟨fun source => ⟨?_, ?_⟩, fun source text encoded => (written source text encoded).2,
    fun source text => Terminated.bytes_eq_iff, fun source text encoded => ?_⟩
  · rintro ⟨text, encoded⟩
    exact (written source text encoded).1
  · intro clean
    let text : Terminated := .ofMemory source
    have encoded := Terminated.ofBytes?_eq_some_iff.mpr ⟨clean, (rfl : text.memory = _)⟩
    exact ⟨text, (encodes source text).mpr encoded⟩
  · obtain ⟨clean, memory⟩ := written source text encoded
    exact Terminated.bytes_eq_iff.mpr ⟨clean, [], memory⟩

theorem copyOut_eq_done_iff {name : String} {source : Bytes} {text : Terminated} :
    copyOut name source = .done text ↔ Terminated.ofBytes? source = some text := by
  unfold copyOut
  cases Terminated.ofBytes? source <;> simp

end Boundary

theorem Host.pathArgument_eq_ok_iff {path : Path} {text : Terminated} :
    pathArgument path = .ok text ↔ Terminated.ofBytes? path = some text := by
  unfold pathArgument
  cases Terminated.ofBytes? path <;> simp

namespace World

variable {world : World} {path : Path} {failure : IoFailure}

theorem clean_of_reach (failed : world.reach path = .error failure) : failure.Clean := by
  unfold reach at failed
  split at failed
  · next refused =>
      cases failed
      exact clean_of_checkPath refused
  · dsimp only at failed
    generalize (if path.endsInSlash then _ else _ : Except OsCode Trail) = reached at failed
    cases reached with
    | error code =>
        cases failed
        trivial
    | ok trail => cases failed

theorem clean_of_openForReading (failed : world.openForReading path = .error failure) :
    failure.Clean := by
  unfold openForReading stat at failed
  cases reached : world.reach path with
  | error cause =>
      rw [reached] at failed
      cases failed
      exact clean_of_reach reached
  | ok trail =>
      rw [reached] at failed
      cases failed

theorem clean_of_openForWriting {opening : Opening}
    (failed : world.openForWriting path opening = .error failure) : failure.Clean := by
  unfold openForWriting at failed
  dsimp only at failed
  split at failed
  · next lost =>
      cases failed
      exact clean_of_position lost
  · cases failed
    trivial
  · repeat' split at failed
    all_goals cases failed
    all_goals trivial

end World

theorem Engine.Settings.home_of_build {settings : Settings} {world after : World}
    {session : Session} (built : settings.build world = (.ok session, after))
    (lasting : settings.ephemeral = false) : session.home = settings.home := by
  rcases build_spec built with ⟨brief, -⟩ | ⟨-, -, -, home, -⟩
  · rw [lasting] at brief
    cases brief
  · exact home

namespace Host.Holdings

/-- An action that sends a path. One with a NUL is refused, and nothing happens; any other arrives,
and this comes of it. -/
structure Sends (held : Holdings) (action : Action) (path : Path)
    (Comes : Answer → Holdings → Prop) : Prop where
  refused : 0 ∈ path → held.perform action = .done (.failed
    ⟨.invalidArgument, Text.quotedBytes path ++ " contains a 0 byte"⟩, held)
  arrives : 0 ∉ path → ∃ answer after,
    held.perform action = .done (answer, after) ∧ Comes answer after

/-- The stream is over the descriptor that was opened without a boundary, in the world that this
left; or the failure to open it is reported, and that is all. -/
def Opens (held : Holdings) (address : Nat → Address) :
    Except IoFailure (Nat × World) → Answer → Holdings → Prop
  | .error failure, answer, after => answer = .failed ⟨.io, failure.message⟩ ∧ after = held
  | .ok (fd, world), answer, after => ∃ id, answer = .made id ∧ after.world = world ∧
      after.descriptor? (address id) = some fd

/-- The context tells of the session that was started without a boundary, in the world that this
left, until it is given up; or the failure to start it is reported. A session that is not ephemeral
has the home that was named. -/
def Starts (held : Holdings) (settings : Settings) (answer : Answer) (after : Holdings) : Prop :=
  match settings.build held.world with
  | (.error failure, world) => answer = .failed ⟨.io, failure.message⟩ ∧ after.world = world
  | (.ok session, world) => ∃ id, answer = .made id ∧ after.world = world ∧
      (settings.ephemeral = false → session.home = settings.home) ∧
      ∀ turns : List Turn, (∀ turn ∈ turns, ¬ turn.GivesUp id) →
        ∃ later, after.proceed turns = .done later ∧ later.Tells id session

/-- The home of the context's session is copied out with the same bytes, and is what the program is
told; that it was asked is all that is noted. -/
def TellsHome (held : Holdings) (id : Nat) (context : Context) : Prop :=
  ∃ state session text, held.host.shares.get? context.share = some state ∧
    held.host.boundary.contexts.get? state.session = some session ∧
    held.host.boundary.contextHome (some state.session) = .done text ∧
    text.bytes = session.home ∧
    held.perform (.context id .home) = .done (.path session.home,
      { held with host := held.host.note (.used (.context state.session)) })

/-- The engine works with the homes and paths that are named, and its homes are told as they are. -/
structure Faithful (held : Holdings) : Prop where
  build : ∀ config path, config.home = some path → held.Sends (.build config) path
    (held.Starts ⟨path, config.policy, config.ephemeral⟩)
  read : ∀ id context path, held.contexts.get? id = some context → context.released = false →
    held.Sends (.context id (.openReader path)) path
      (held.Opens .reader (held.world.openForReading path))
  write : ∀ id context path, held.contexts.get? id = some context → context.released = false →
    held.Sends (.context id (.openWriter path)) path
      (held.Opens .writer (held.world.openForWriting path .truncate))
  home : ∀ id context, held.contexts.get? id = some context → context.released = false →
    held.TellsHome id context

variable {held : Holdings} (sound : Sound held.custody)

include sound

theorem sends_build {config : Config} {path : Path} (set : config.home = some path) :
    held.Sends (.build config) path (held.Starts ⟨path, config.policy, config.ephemeral⟩) := by
  refine ⟨fun nul => perform_build (Config.build_of_nul held.host set nul), fun free => ?_⟩
  have clean : ∀ other, config.home = some other → 0 ∉ other := by
    intro other same
    obtain rfl := Option.some.inj (set.symm.trans same)
    exact free
  have told : config.settings held.world = ⟨path, config.policy, config.ephemeral⟩ := by
    rw [Config.settings, set]
    rfl
  rw [← told]
  unfold Starts
  cases attempt : (config.settings held.world).build held.world with
  | mk result world =>
      cases result with
      | error failure =>
          obtain ⟨configs, built⟩ := Config.build_of_error clean attempt
          rw [Error.reporting_ofIo (Settings.clean_of_build attempt)] at built
          exact ⟨_, _, perform_build built, rfl, rfl⟩
      | ok session =>
          obtain ⟨after, built, arrived, still, attends⟩ := attends_of_build sound clean attempt
          refine ⟨_, after, built, _, rfl, arrived, Settings.home_of_build attempt, ?_⟩
          intro turns keeps
          obtain ⟨later, done, sound, attending⟩ := attends.proceed still keeps
          exact ⟨later, done, attending.tells sound⟩

section

variable {id : Nat} {context : Context} (found : held.contexts.get? id = some context)
  (unreleased : context.released = false)

include found unreleased

theorem sends_openReader (path : Path) :
    held.Sends (.context id (.openReader path)) path
      (held.Opens .reader (held.world.openForReading path)) := by
  refine ⟨fun nul => ?_, fun clean => ?_⟩
  · exact perform_open_of_nul found nul (Or.inl rfl)
  · obtain ⟨text, -, rfl⟩ := pathArgument_of_clean clean
    cases opened : held.world.openForReading text.path with
    | error failure =>
        have declined : (Boundary.Source.file text).attempt held.host.boundary =
            (.error (.ofIo failure), held.host.boundary) := by
          simp only [Boundary.Source.attempt, Boundary.tryOpenReader, opened]
        have performed := perform_source_declined sound found unreleased (.file text) declined
        rw [Error.reporting_ofIo (World.clean_of_openForReading opened)] at performed
        exact ⟨_, _, performed, rfl, rfl⟩
    | ok made =>
        obtain ⟨fd, world⟩ := made
        have added : (Boundary.Source.file text).attempt held.host.boundary =
            (.ok held.host.boundary.readers.fresh, { held.host.boundary with
              world, readers := held.host.boundary.readers.alloc (.descriptor fd) }) := by
          simp only [Boundary.Source.attempt, Boundary.tryOpenReader, opened, Boundary.addReader]
        have performed := perform_source_made (bare_of_unreleased found unreleased) added
        have live := Arena.get?_alloc_self held.host.boundary.readers (.descriptor fd)
        refine ⟨_, _, performed, _, rfl, rfl, ?_⟩
        exact (descriptor?_reader (Arena.get?_alloc_self held.readers _) rfl live).trans rfl

theorem sends_openWriter (path : Path) :
    held.Sends (.context id (.openWriter path)) path
      (held.Opens .writer (held.world.openForWriting path .truncate)) := by
  refine ⟨fun nul => ?_, fun clean => ?_⟩
  · exact perform_open_of_nul found nul (Or.inr rfl)
  · obtain ⟨text, -, rfl⟩ := pathArgument_of_clean clean
    have fallible : Boundary.Destination.file text ≠ .growing := nofun
    cases opened : held.world.openForWriting text.path .truncate with
    | error failure =>
        have declined : (Boundary.Destination.file text).attempt held.host.boundary =
            (.error (.ofIo failure), held.host.boundary) := by
          simp only [Boundary.Destination.attempt, Boundary.tryOpenWriter, opened]
        have performed :=
          perform_destination_declined sound found unreleased (.file text) fallible declined
        rw [Error.reporting_ofIo (World.clean_of_openForWriting opened)] at performed
        exact ⟨_, _, performed, rfl, rfl⟩
    | ok made =>
        obtain ⟨fd, world⟩ := made
        have added : (Boundary.Destination.file text).attempt held.host.boundary =
            (.ok held.host.boundary.writers.fresh, { held.host.boundary with
              world, writers := held.host.boundary.writers.alloc (.buffered fd []) }) := by
          simp only [Boundary.Destination.attempt, Boundary.tryOpenWriter, opened,
            Boundary.addWriter]
        have performed :=
          perform_destination_made (bare_of_unreleased found unreleased) fallible added
        have live := Arena.get?_alloc_self held.host.boundary.writers (.buffered fd [])
        refine ⟨_, _, performed, _, rfl, rfl, ?_⟩
        exact (descriptor?_writer (Arena.get?_alloc_self held.writers _) rfl live).trans rfl

theorem tellsHome : held.TellsHome id context := by
  obtain ⟨state, session, shared, live, clean⟩ := exists_session found sound unreleased
  obtain ⟨text, told, same⟩ := Boundary.contextHome_of_live live clean
  have asked := Context.home_of_live unreleased shared live clean
  refine ⟨state, session, text, shared, live, told, same, ?_⟩
  simp only [perform, found, performOnContext, asked, Outcome.done_bind, keepHost, Answer.ofExcept]

end

theorem faithful_of_sound : held.Faithful where
  build _ _ set := sends_build sound set
  read _ _ path found unreleased := sends_openReader sound found unreleased path
  write _ _ path found unreleased := sends_openWriter sound found unreleased path
  home _ _ found unreleased := tellsHome sound found unreleased

end Host.Holdings

/-- A context that is built with this configuration answers with this home, byte for byte, until it
is given up. -/
def Boundary.Recalls (boundary : Boundary) (slot : ErrorSlot) (config : Nat) (home : Path) : Prop :=
  ∃ reply, boundary.buildContext slot (some config) = .done reply ∧
    ∀ context, reply.result = some context → ∀ deals later,
      reply.after.dealAll deals = .done later → (∀ deal ∈ deals, deal ≠ .freeContext context) →
      ∃ text, later.contextHome (some context) = .done text ∧ text.bytes = home

/-- The home that a new configuration was told last comes back, unless the session is to have one of
its own. -/
theorem Boundary.home_comes_back {boundary told : Boundary} {deals : List Deal} {home : Path}
    (done : boundary.configure.2.dealAll deals = .done told)
    (keeps : ∀ deal ∈ deals, ¬ deal.UsesUp boundary.configure.1)
    (last : lastHome? ((toldTo boundary.configure.1 deals).filterMap Setter.setting?) = some home)
    (lasting : .ephemeral ∉ (toldTo boundary.configure.1 deals).filterMap Setter.setting?)
    (slot : ErrorSlot) : told.Recalls slot boundary.configure.1 home := by
  have new : boundary.configure.2.configs.get? boundary.configure.1 =
      some { settings := Settings.initial boundary.world } := Arena.get?_alloc_self _ _
  have found := configs_dealAll done new keeps
  rw [Config.foldl_follow, Settings.foldl_adjust_initial] at found
  refine ⟨_, buildContext_eq told found slot, ?_⟩
  rcases Config.start_cases _ { told with configs := told.configs.release boundary.configure.1 } with
    ⟨fault, started⟩ | ⟨failure, world, -, started⟩ | ⟨session, world, built, started⟩
  -- Without a context there is nothing to ask: a fault was kept, or the session was not started.
  · rw [started]
    rintro context ⟨⟩
  · rw [started]
    rintro context ⟨⟩
  · rw [started]
    rintro context ⟨⟩ more later further keeping
    have live := Arena.get?_alloc_self told.contexts session
    have clean := Settings.zero_notMem_home_of_build built
    obtain ⟨text, answered, same⟩ := (tells_dealAll further live clean keeping).home
    have kept := (Engine.fits_of_build built).home lasting
    rw [last] at kept
    exact ⟨text, answered, same.trans kept⟩

/-- Strings cross the boundary unchanged or not at all. That is so of each encoder with its decoder;
of the homes and paths of a host program, both ways, whatever turns it took; and of a home that a
caller behind the boundary tells a configuration, whatever else is dealt with in between. -/
theorem strings_cross_unchanged :
    Boundary.Conveys (fun path text => Host.pathArgument path = .ok text) Terminated.path ∧
    Boundary.Conveys (fun source text => Terminated.ofBytes? source = some text)
      Terminated.bytes ∧
    (∀ name, Boundary.Conveys (fun source text => Boundary.copyOut name source = .done text)
      Terminated.bytes) ∧
    (∀ world turns, ∃ held, (Host.Holdings.start world).proceed turns = .done held ∧
      held.Faithful) ∧
    ∀ (boundary told : Boundary) deals home,
      boundary.configure.2.dealAll deals = .done told →
      (∀ deal ∈ deals, ¬ deal.UsesUp boundary.configure.1) →
      lastHome? ((Boundary.toldTo boundary.configure.1 deals).filterMap
        Boundary.Setter.setting?) = some home →
      .ephemeral ∉ (Boundary.toldTo boundary.configure.1 deals).filterMap
        Boundary.Setter.setting? →
      ∀ slot, told.Recalls slot boundary.configure.1 home := by
  refine ⟨?_, ?_, fun name => ?_, fun world turns => ?_, ?_⟩
  · exact Boundary.conveys_of_iff fun path text => Host.pathArgument_eq_ok_iff
  · exact Boundary.conveys_of_iff fun source text => Iff.rfl
  · exact Boundary.conveys_of_iff fun source text => Boundary.copyOut_eq_done_iff
  · obtain ⟨held, done, sound, -⟩ := Host.Holdings.proceed_sound world turns
    exact ⟨held, done, Host.Holdings.faithful_of_sound sound⟩
  · intro boundary told deals home done keeps last lasting slot
    exact Boundary.home_comes_back done keeps last lasting slot

end SessionStreams
