import SessionStreams.Proofs.Layers
import SessionStreams.Proofs.Partings

set_option autoImplicit false

/- Temporary homes, from the build that makes one to the end of the session that removes it. A build
adds one fresh empty directory below the directory for temporary files and changes nothing else
(`Furnished`, `Provides`), whatever home was set and in whichever layer it was asked for
(`Engine.Settings.provides_build`, `Boundary.provides_buildContext`, `Host.Config.provides_build`).
The end of the session removes that directory with all that has come below it, and nothing else
(`Vacated`, `vacated_close`). -/

namespace SessionStreams

open World (temporaryName)

namespace Engine.Settings

theorem place_defaultHome (world : World) : ∃ parent,
    world.place (defaultHome world) = parent ++ [Text.encode ".sequoia"] := by
  have proper : Text.encode ".sequoia" ≠ [] ∧ Path.slash ∉ Text.encode ".sequoia" ∧
      Text.encode ".sequoia" ≠ Path.dot ∧ Text.encode ".sequoia" ≠ Path.dotDot := by decide
  obtain ⟨nonempty, simple, notDot, notUp⟩ := proper
  have names : (world.userHome.join (Text.encode ".sequoia")).names = _ :=
    Path.names_join nonempty simple
  have whole : ∃ front, world.fromRoot (defaultHome world) (defaultHome world).names =
      front ++ [Text.encode ".sequoia"] := by
    rw [defaultHome, names, World.fromRoot]
    split
    · exact ⟨_, rfl⟩
    · exact ⟨_, (List.append_assoc _ _ _).symm⟩
  obtain ⟨front, whole⟩ := whole
  refine ⟨Location.along [] front, ?_⟩
  rw [World.place, whole, Location.along_append, Location.along_singleton,
    Location.step_of_proper notDot notUp]

/-- The name of the default home is never drawn. -/
theorem encode_ne_temporaryName (number : Nat) :
    Text.encode ".sequoia" ≠ temporaryName number := by
  obtain ⟨rest, drawn⟩ := World.exists_temporaryName_eq_cons number
  rw [drawn]
  have first : (Text.encode ".sequoia").head? = some 0x2E := by decide
  intro same
  rw [same] at first
  cases first

end Engine.Settings

/-- Where the directory for temporary files is that a temporary home was made in. -/
def Engine.Session.base (session : Engine.Session) (world : World) : Location :=
  (world.place session.home).dropLast

namespace World

/-- A path names a directory just if it can be removed as one. -/
theorem isDirectory_iff {world : World} {path : Path} :
    world.isDirectory path = true ↔ world.Removable path := by
  unfold isDirectory stat
  constructor
  · intro directory
    cases reached : world.reach path with
    | error failure =>
        rw [reached] at directory
        cases directory
    | ok trail =>
        rw [reached] at directory
        refine removable_of_reach reached ?_
        cases node : trail.node with
        | directory => rfl
        | leaf stored =>
            simp only [Except.map, node] at directory
            cases directory
  · rintro ⟨checked, passable, directory⟩
    obtain ⟨trail, reached, node, -⟩ := reach_of_passable checked passable directory
    simp only [reached, Except.map, node]

theorem Settled.removable {world : World} {number : Nat} (settled : world.Settled number) :
    world.Removable (world.temporaryPath number) := by
  refine ⟨settled.checked, settled.passable_path, ?_⟩
  rw [place_temporaryPath]
  exact settled.directory

/-- From the world `before` a session was started with a home of its own: a fresh empty directory in
the one for temporary files. Nothing else has become of the tree, and of the rest of the world just
the next random name. -/
structure Furnished (before : World) (session : Engine.Session) (after : World) : Prop where
  temporary : session.ephemeral = true ∧ session.temporary = some session.home
  home : ∃ number, session.home = before.temporaryPath number ∧
    before.place session.home = session.base before ++ [temporaryName number]
  base : session.base before = before.place before.temporaryBase ∧
    before.tree.node? (session.base before) = some .directory
  fresh : before.tree.node? (before.place session.home) = none
  node : ∀ other, after.tree.node? other =
    if other = before.place session.home then some .directory else before.tree.node? other
  empty : ∀ further, further ≠ [] →
    after.tree.node? (before.place session.home ++ further) = none
  frame : after = { before with tree := after.tree, drawn := after.drawn }
  /-- The home can be found for as long as nothing on the way to it is taken away. -/
  found : ∀ later : World, (∀ other ∈ after.way session.home, ∀ node,
    after.tree.node? other = some node → later.tree.node? other = some node) →
      later.isDirectory session.home = true
  /-- The default home is neither made nor touched. -/
  defaultHome : after.standing? (Engine.Settings.defaultHome before) =
    before.standing? (Engine.Settings.defaultHome before)

/-- The directory at `home` was removed with all that was below it, and nothing else. -/
structure Vacated (before : World) (home : Path) (after : World) : Prop where
  outside : ∀ other, ¬ before.place home <+: other →
    after.tree.node? other = before.tree.node? other
  inside : before.isDirectory home = true → ∀ other, before.place home <+: other →
    after.tree.node? other = none

/-- A temporary home can be found for as long as the way to it stays. -/
theorem isDirectory_of_way {before later : World} {base : Path} (rooted : base.rooted = true)
    {number : Nat} (removable : before.Removable (base.join (temporaryName number)))
    (stays : ∀ other ∈ before.way (base.join (temporaryName number)), ∀ node,
      before.tree.node? other = some node → later.tree.node? other = some node) :
    later.isDirectory (base.join (temporaryName number)) = true := by
  have still := (place_join_temporaryName rooted number before).1
  have names (world : World) : world.fromRoot (base.join (temporaryName number))
      (base.join (temporaryName number)).names = (base.join (temporaryName number)).names := by
    rw [fromRoot, if_pos still]
  obtain ⟨checked, passable, directory⟩ := removable
  rw [way, names] at stays
  rw [names] at passable
  rw [place, names] at directory
  refine isDirectory_iff.mpr ⟨checked, ?_, ?_⟩
  · rw [names]
    exact passable.mono stays
  · rw [place, names]
    exact stays _ (Location.along_mem_visited _ _) _ directory

theorem furnished_of_makeTemporary {world after : World} {session : Engine.Session}
    (made : world.makeTemporary = .ok (session.home, after))
    (temporary : session.ephemeral = true ∧ session.temporary = some session.home) :
    world.Furnished session after := by
  have grown := grows_makeTemporary made
  obtain ⟨other, path, settled, -⟩ := settled_of_makeTemporary made
  obtain ⟨number, middle, -, same, created, rfl⟩ := makeTemporary_spec made
  obtain ⟨parent, siblings, name, found, -, unused, rfl⟩ := makeDirectory_spec created
  obtain ⟨-, below, -, here, last, -⟩ := position_spec found
  rw [same, fromRoot_temporaryPath, names_temporaryPath, List.dropLast_concat] at here
  rw [same, names_temporaryPath, List.getLast?_concat] at last
  obtain rfl := Option.some.inj last
  have place : world.place session.home = parent ++ [temporaryName number] := by
    rw [same, place_temporaryPath, temporaryPlace, temporarySteps, here]
  have base : session.base world = parent := by
    rw [Engine.Session.base, place, List.dropLast_concat]
  have node (other : Location) := Tree.node?_add below unused (Or.inl rfl) other
  have fresh : world.tree.node? (parent ++ [temporaryName number]) = none := by
    rw [Tree.node?_append_place below, Tree.node?_cons, unused]
  refine ⟨temporary, ⟨number, same, by rw [place, base]⟩, ⟨base.trans here, ?_⟩,
    by rw [place, fresh], fun other => by rw [place]; exact node other,
    fun further below => ?_, rfl, ?_, ?_⟩
  · rw [base, Tree.node?_eq_directory_iff, below]
    rfl
  · have apart : parent ++ [temporaryName number] ++ further ≠ parent ++ [temporaryName number] :=
      fun both => below (List.append_right_eq_self.mp both)
    rw [place, node, if_neg apart]
    cases under : world.tree.node? (parent ++ [temporaryName number] ++ further) with
    | none => rfl
    | some stored =>
        rw [Tree.node?_of_ancestor under below] at fresh
        cases fresh
  · have removable := settled.removable
    rw [grown.temporaryPath, ← path, same] at removable
    rw [same]
    exact fun later stays => isDirectory_of_way world.rooted_temporaryBase removable stays
  · obtain ⟨front, home⟩ := Engine.Settings.place_defaultHome world
    have apart : world.place (Engine.Settings.defaultHome world) ≠
        parent ++ [temporaryName number] := by
      rw [home]
      intro both
      have names := congrArg List.getLast? both
      rw [List.getLast?_concat, List.getLast?_concat] at names
      exact Engine.Settings.encode_ne_temporaryName number (Option.some.inj names)
    rw [standing?, standing?, grown.place, node, if_neg apart]

/-- The end of a session with a temporary home removes the home. -/
theorem vacated_close {session : Engine.Session} {base : Path} {number : Nat}
    (rooted : base.rooted = true) (home : session.home = base.join (temporaryName number))
    (temporary : session.temporary = some session.home) (world : World) :
    world.Vacated session.home (session.close world) := by
  have proper : world.place session.home ≠ [] := by
    rw [home, (place_join_temporaryName rooted number world).2]
    exact List.append_ne_nil_of_right_ne_nil _ (List.cons_ne_nil _ _)
  rw [close_of_temporary temporary world]
  split
  · refine ⟨fun other outside => ?_, fun _ other inside => ?_⟩
    · exact (Tree.node?_cut _ proper other).trans (if_neg outside)
    · exact (Tree.node?_cut _ proper other).trans (if_pos inside)
  · rename_i stuck
    exact ⟨fun _ _ => rfl, fun directory => absurd (isDirectory_iff.mp directory) stuck⟩

theorem Vacated.congr {before one two : World} {home : Path} (vacated : before.Vacated home one)
    (tree : two.tree = one.tree) : before.Vacated home two := by
  refine ⟨fun other outside => ?_, fun directory other inside => ?_⟩
  · exact (congrArg (·.node? other) tree).trans (vacated.outside other outside)
  · exact (congrArg (·.node? other) tree).trans (vacated.inside directory other inside)

/-- What a request for a temporary home comes to: it left everything as it was, or a session was
started with a home of its own. -/
def Provides (before : World) : Except IoFailure Engine.Session × World → Prop
  | (.error _, after) => after = before
  | (.ok session, after) => before.Furnished session after

end World

/-- A flag that one item sets and every item keeps is set in the end. -/
theorem flag_foldl {state item : Type} (step : state → item → state) (flag : state → Bool)
    {trigger : item} (sets : ∀ current, flag (step current trigger) = true)
    (keeps : ∀ current next, flag current = true → flag (step current next) = true)
    {items : List item} (among : trigger ∈ items) (start : state) :
    flag (items.foldl step start) = true := by
  obtain ⟨before, after, rfl⟩ := List.append_of_mem among
  rw [List.foldl_append, List.foldl_cons]
  exact List.foldlRecOn after step (sets _) fun current set next _ => keeps current next set

namespace Engine.Settings

theorem ephemeral_foldl {settings : List Setting} (asked : Setting.ephemeral ∈ settings)
    (start : Settings) : (settings.foldl adjust start).ephemeral = true := by
  refine flag_foldl adjust Settings.ephemeral (fun _ => rfl) (fun current setting brief => ?_)
    asked start
  cases setting with
  | home path => exact brief
  | policy policy => exact brief
  | ephemeral => rfl

variable {settings : Settings} (ephemeral : settings.ephemeral = true)

include ephemeral

theorem provides_build (world : World) : world.Provides (settings.build world) := by
  cases built : settings.build world with
  | mk answer after =>
      cases answer with
      | error failure =>
          simp only [build, ephemeral, if_true] at built
          split at built
          · exact (congrArg Prod.snd built).symm
          · cases built
      | ok session =>
          rcases build_spec built with ⟨-, brief, made, temporary⟩ | ⟨lasting, -⟩
          · exact World.furnished_of_makeTemporary made ⟨brief, temporary⟩
          · rw [ephemeral] at lasting
            cases lasting

/-- The home that was set plays no part. -/
theorem build_with_home (path : Path) (world : World) :
    { settings with home := path }.build world = settings.build world := by
  simp only [build, ephemeral, if_true]

end Engine.Settings

namespace Boundary

/-- A call that configures a session. A home is any path without a NUL, and the number of a policy
may be any. -/
inductive Setter where
  | home (path : Terminated)
  | policy (code : Int)
  | ephemeral

def Config.follow (config : Config) : Setter → Config
  | .home path => config.adjust (.home path.path)
  | .policy code => config.choosePolicy code
  | .ephemeral => config.adjust .ephemeral

theorem Config.ephemeral_choosePolicy (config : Config) (code : Int) :
    (config.choosePolicy code).settings.ephemeral = config.settings.ephemeral := by
  unfold choosePolicy remember
  split
  · rfl
  · split <;> rfl

theorem Config.ephemeral_foldl {setters : List Setter} (asked : Setter.ephemeral ∈ setters)
    (start : Config) : (setters.foldl follow start).settings.ephemeral = true := by
  refine flag_foldl follow (fun config => config.settings.ephemeral) (fun _ => rfl)
    (fun current setter brief => ?_) asked start
  cases setter with
  | home path => exact brief
  | policy code => exact (current.ephemeral_choosePolicy code).trans brief
  | ephemeral => rfl

def set (boundary : Boundary) (id : Nat) : Setter → Outcome Boundary
  | .home path => boundary.setHome (some id) (some path)
  | .policy code => boundary.setPolicy (some id) code
  | .ephemeral => boundary.setEphemeral (some id)

def setAll (boundary : Boundary) (id : Nat) : List Setter → Outcome Boundary
  | [] => .done boundary
  | setter :: rest => do
      let changed ← boundary.set id setter
      changed.setAll id rest

theorem set_eq (boundary : Boundary) (config : Nat) (setter : Setter) :
    boundary.set config setter = boundary.changeConfig (some config) (·.follow setter) := by
  cases setter <;> rfl

theorem setAll_spec (boundary : Boundary) {id : Nat} {configs : Arena Config} {config : Config}
    (live : configs.get? id = some config) (setters : List Setter) :
    ∃ changed, ({ boundary with configs } : Boundary).setAll id setters =
        .done { boundary with configs := changed } ∧
      changed.get? id = some (setters.foldl Config.follow config) := by
  induction setters generalizing configs config with
  | nil => exact ⟨configs, rfl, live⟩
  | cons setter rest ih =>
      obtain ⟨first, changed, found⟩ := Host.changeConfig_spec boundary live (·.follow setter)
      rw [← set_eq] at changed
      obtain ⟨last, further, all⟩ := ih found
      refine ⟨last, ?_, all⟩
      rw [setAll, changed, Outcome.done_bind, further]

/-- A configuration that is built was at fault, or comes to what its settings come to. -/
theorem Config.start_cases (config : Config) (boundary : Boundary) :
    (∃ fault, config.start boundary = (.error fault, boundary)) ∨
    (∃ failure world, config.settings.build boundary.world = (.error failure, world) ∧
      config.start boundary = (.error (.ofIo failure), { boundary with world })) ∨
    ∃ session world, config.settings.build boundary.world = (.ok session, world) ∧
      config.start boundary = (.ok boundary.contexts.fresh,
        { boundary with world, contexts := boundary.contexts.alloc session }) := by
  cases first : config.firstFault with
  | some fault => exact Or.inl ⟨fault, by simp only [start, first]⟩
  | none =>
      right
      cases built : config.settings.build boundary.world with
      | mk answer world =>
          cases answer with
          | error failure => exact Or.inl ⟨failure, world, rfl, by simp only [start, first, built]⟩
          | ok session => exact Or.inr ⟨session, world, rfl, by simp only [start, first, built]⟩

/-- What a request for a temporary home comes to behind the boundary. -/
def Provides (before : Boundary) (reply : Reply (Option Nat)) : Prop :=
  ∃ configs, match reply.result with
    | none => reply.after = { before with configs }
    | some id => ∃ session world text,
        reply.after =
          { before with world, configs, contexts := before.contexts.alloc session } ∧
        reply.after.contexts.get? id = some session ∧ before.world.Furnished session world ∧
        reply.after.contextHome (some id) = .done text ∧ text.path = session.home

section

variable (boundary : Boundary) {id : Nat} {config : Config}
  (live : boundary.configs.get? id = some config)

include live

/-- The configuration is used up in any case. -/
theorem buildContext_eq (slot : ErrorSlot) :
    boundary.buildContext slot (some id) = .done (concludeHandle slot
      (config.start { boundary with configs := boundary.configs.release id })) := by
  simp only [buildContext, Outcome.require, Outcome.done_bind, live, Outcome.live]

theorem provides_buildContext (ephemeral : config.settings.ephemeral = true) (slot : ErrorSlot) :
    ∃ reply, boundary.buildContext slot (some id) = .done reply ∧ boundary.Provides reply := by
  refine ⟨_, buildContext_eq boundary live slot, boundary.configs.release id, ?_⟩
  have provided := Engine.Settings.provides_build ephemeral boundary.world
  rcases config.start_cases { boundary with configs := boundary.configs.release id } with
    ⟨fault, started⟩ | ⟨failure, world, built, started⟩ | ⟨session, world, built, started⟩
  · rw [started]
    rfl
  · rw [built] at provided
    obtain rfl : world = boundary.world := provided
    rw [started]
    rfl
  · rw [built] at provided
    have clean := Engine.Settings.zero_notMem_home_of_build built
    let after : Boundary :=
      { boundary with
        world
        configs := boundary.configs.release id
        contexts := boundary.contexts.alloc session }
    have there : after.contexts.get? boundary.contexts.fresh = some session :=
      Arena.get?_alloc_self boundary.contexts session
    obtain ⟨text, told, same⟩ := contextHome_of_live there clean
    rw [started]
    exact ⟨session, world, text, rfl, there, provided, told, same⟩

end

end Boundary

namespace Host

open Boundary (Outcome)

/-- What a request for a temporary home comes to on the host's side. -/
def Provides (before : Host) : Except Error Context × Host → Prop
  | (.error _, after) =>
      ∃ configs, after = { before with boundary := { before.boundary with configs } }
  | (.ok context, after) => ∃ session world configs asked,
      after = { before with
        boundary := { before.boundary with
          world, configs, contexts := before.boundary.contexts.alloc session }
        shares := before.shares.alloc { session := before.boundary.contexts.fresh, holders := 1 }
        }.note (.acquired (.context before.boundary.contexts.fresh) context.share) ∧
      before.boundary.world.Furnished session world ∧
      context.home after = .done (.ok session.home, asked)

namespace Config

theorem ephemeral_foldl {settings : List Engine.Setting}
    (asked : Engine.Setting.ephemeral ∈ settings) (start : Config) :
    (settings.foldl adjust start).ephemeral = true := by
  refine flag_foldl adjust Config.ephemeral (fun _ => rfl) (fun current setting brief => ?_)
    asked start
  cases setting with
  | home path => exact brief
  | policy policy => exact brief
  | ephemeral => rfl

theorem provides_build {config : Config} (ephemeral : config.ephemeral = true) (host : Host) :
    ∃ result, config.build host = .done result ∧ host.Provides result := by
  by_cases clean : ∀ path, config.home = some path → 0 ∉ path
  · have brief : (config.settings host.boundary.world).ephemeral = true := ephemeral
    have provided := Engine.Settings.provides_build brief host.boundary.world
    cases attempt : (config.settings host.boundary.world).build host.boundary.world with
    | mk answer world =>
        rw [attempt] at provided
        cases answer with
        | error failure =>
            obtain rfl : world = host.boundary.world := provided
            obtain ⟨configs, built⟩ := build_of_error clean attempt
            exact ⟨_, built, configs, rfl⟩
        | ok session =>
            have homeClean := Engine.Settings.zero_notMem_home_of_build attempt
            obtain ⟨configs, built⟩ := build_of_ok clean attempt
            have shared := Arena.get?_alloc_self host.shares
              { session := host.boundary.contexts.fresh, holders := 1 }
            have live := Arena.get?_alloc_self host.boundary.contexts session
            exact ⟨_, built, session, world, configs, _, rfl, provided,
              Context.home_of_live rfl shared live homeClean⟩
  · push Not at clean
    obtain ⟨path, set, nul⟩ := clean
    exact ⟨_, build_of_nul host set nul, host.boundary.configs, rfl⟩

end Config

end Host

end SessionStreams
