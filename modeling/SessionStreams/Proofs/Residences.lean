import SessionStreams.Proofs.Constancy

set_option autoImplicit false

namespace SessionStreams

namespace World

variable {world after : World} {path : Path}

theorem checkPath_eq_ok_iff :
    checkPath path = .ok () ↔ 0 ∉ path ∧ path ≠ [] ∧ path.length < pathLimit := by
  unfold checkPath
  split
  · next nul => simp [nul]
  split
  · next empty => simp [empty]
  split
  · next long => simp [Nat.not_lt.mpr long]
  · next clean filled short => simp [clean, filled, Nat.not_le.mp short]

theorem isDirectory_of_makeDirectory (made : world.makeDirectory path = .ok after) :
    after.isDirectory path = true := by
  have grown := grows_makeDirectory made
  obtain ⟨parent, siblings, name, found, short, fresh, rfl⟩ := makeDirectory_spec made
  obtain ⟨checked, below, -⟩ := position_spec found
  have new := Tree.node?_add below fresh (Or.inl rfl) (parent ++ [name])
  rw [if_pos rfl] at new
  obtain ⟨passable, place⟩ := way_of_position found short grown new
  exact isDirectory_iff.mpr ⟨checked, passable, place ▸ new⟩

theorem isDirectory_of_ensureDirectory (ensured : world.ensureDirectory path = .ok after) :
    after.isDirectory path = true := by
  unfold ensureDirectory at ensured
  split at ensured
  · next made =>
      cases ensured
      exact isDirectory_of_makeDirectory made
  · split at ensured
    · next there =>
        cases ensured
        exact there.2
    · cases ensured

theorem isDirectory_of_makeDirectories {parent : Path} (found : path.parent? = some parent)
    (made : world.makeDirectories path = (.ok (), after)) : after.isDirectory path = true := by
  rw [makeDirectories_of_parent found] at made
  split at made
  · next ensured =>
      cases made
      exact isDirectory_of_ensureDirectory ensured
  · split at made
    · split at made
      · cases made
      · split at made
        · next ensured =>
            cases made
            exact isDirectory_of_ensureDirectory ensured
        · cases made
    · cases made

end World

namespace Path

theorem isSome_parent?_of_here {path : Path} {body : List Name}
    (cut : path.anatomy = (.here, body)) : path.parent?.isSome := by
  unfold parent?
  rw [cut]
  dsimp only
  split <;> rfl

theorem rooted_of_parent?_eq_none {path : Path} (orphan : path.parent? = none) (nonempty : path ≠ []) :
    path.rooted = true := by
  cases path with
  | nil => exact absurd rfl nonempty
  | cons byte rest =>
      by_contra loose
      have apart : byte ≠ slash := by
        rintro rfl
        exact loose rfl
      obtain ⟨first, others, cut⟩ := List.exists_cons_of_ne_nil (parts_ne_nil rest)
      have parts : Path.parts (byte :: rest) = (byte :: first) :: others := by
        simp only [parts_cons, before, if_neg apart, cut]
      have idle := idle_of_parent?_eq_none orphan (byte :: first) (by simp [parts])
      have dotted : byte :: first = dot := by simpa [Path.idle] using idle
      have here : ∃ body, anatomy (byte :: rest) = (.here, body) := by
        unfold anatomy
        rw [parts, dotted]
        cases others with
        | nil => exact ⟨[], rfl⟩
        | cons second more => exact ⟨second :: more, rfl⟩
      obtain ⟨body, here⟩ := here
      have owned := isSome_parent?_of_here here
      rw [orphan] at owned
      cases owned

theorem names_of_parent?_eq_none {path : Path} (orphan : path.parent? = none) :
    ∀ name ∈ path.names, name = dot := by
  intro name member
  obtain ⟨part, nonempty⟩ := List.mem_filter.mp member
  have idle := idle_of_parent?_eq_none orphan name part
  simp only [Path.idle, decide_eq_true_eq] at idle nonempty
  exact idle.resolve_left nonempty

end Path

namespace World

variable {world after : World} {path : Path}

/-- Dots lead nowhere else. -/
theorem passable_dots {tree : Tree} {place : Location} (here : tree.node? place = some .directory)
    {names : List Name} (dots : ∀ name ∈ names, name = Path.dot) :
    tree.Passable place names ∧ place.along names = place := by
  induction names with
  | nil => exact ⟨trivial, rfl⟩
  | cons name rest ih =>
      obtain ⟨further, back⟩ := ih fun other member => dots other (List.mem_cons_of_mem _ member)
      obtain rfl := dots name List.mem_cons_self
      have stays : place.step Path.dot = place := if_pos rfl
      refine ⟨⟨here, fun apart => absurd rfl apart, ?_, ?_⟩, ?_⟩
      · rw [stays, here]
        rfl
      · rw [stays]
        exact further
      · rw [Location.along, List.foldl_cons, stays]
        exact back

/-- A path without a parent leads to the root, if it can be used at all. -/
theorem isDirectory_of_orphan (orphan : path.parent? = none) (nonempty : path ≠ [])
    (short : path.length < pathLimit) (world : World) : world.isDirectory path = true := by
  have clean := Path.zero_notMem_of_parent?_eq_none orphan
  have names : world.fromRoot path path.names = path.names :=
    if_pos (Path.rooted_of_parent?_eq_none orphan nonempty)
  obtain ⟨passable, back⟩ :=
    passable_dots (Tree.node?_root world.tree) (Path.names_of_parent?_eq_none orphan)
  refine isDirectory_iff.mpr ⟨checkPath_eq_ok_iff.mpr ⟨clean, nonempty, short⟩, ?_, ?_⟩
  · rw [names]
    exact passable
  · rw [World.place, names, back]
    exact Tree.node?_root world.tree

theorem usable_of_isDirectory (there : world.isDirectory path = true) :
    path ≠ [] ∧ path.length < pathLimit :=
  (checkPath_eq_ok_iff.mp (isDirectory_iff.mp there).1).2

end World

namespace Engine.Settings

/-- An ephemeral session has its home by all means, and another one if the path can be used. -/
theorem isDirectory_home_iff {settings : Settings} {world after : World} {session : Session}
    (built : settings.build world = (.ok session, after)) :
    after.isDirectory session.home = true ↔
      session.home ≠ [] ∧ session.home.length < World.pathLimit := by
  refine ⟨World.usable_of_isDirectory, fun ⟨filled, short⟩ => ?_⟩
  rcases build_spec built with ⟨-, brief, made, temporary⟩ | ⟨-, -, made, home, -⟩
  · have furnished := World.furnished_of_makeTemporary made ⟨brief, temporary⟩
    exact furnished.found after fun _ _ _ stands => stands
  · rw [← home] at made
    cases found : session.home.parent? with
    | none => exact World.isDirectory_of_orphan found filled short after
    | some parent => exact World.isDirectory_of_makeDirectories found made

end Engine.Settings

/-- A context that was returned is that of a session that was started. -/
theorem Boundary.exists_session_of_build {boundary : Boundary} {slot : ErrorSlot} {id context : Nat}
    {reply : Reply (Option Nat)} (done : boundary.buildContext slot (some id) = .done reply)
    (returned : reply.result = some context) :
    ∃ settings session, Engine.Settings.build settings boundary.world =
      (.ok session, reply.after.world) ∧ reply.after.Tells context session := by
  cases live : boundary.configs.get? id with
  | none =>
      simp only [buildContext, Outcome.require, Outcome.done_bind, live, Outcome.live,
        Outcome.undefined_bind, reduceCtorEq] at done
  | some config =>
      rw [buildContext_eq boundary live] at done
      cases done
      rcases config.start_cases { boundary with configs := boundary.configs.release id } with
        ⟨fault, started⟩ | ⟨failure, world, -, started⟩ | ⟨session, world, built, started⟩
      · rw [started] at returned
        cases returned
      · rw [started] at returned
        cases returned
      · rw [started] at returned ⊢
        cases returned
        have clean := Engine.Settings.zero_notMem_home_of_build built
        exact ⟨config.settings, session, built,
          tells_of_live (Arena.get?_alloc_self boundary.contexts session) clean⟩

/-- A context that was built tells the home of a session that was started. -/
theorem Host.Config.exists_session_of_build {config : Config} {host after : Host} {context : Context}
    (done : config.build host = .done (.ok context, after)) :
    ∃ session asked, Engine.Settings.build (config.settings host.boundary.world)
      host.boundary.world = (.ok session, after.boundary.world) ∧
      context.home after = .done (.ok session.home, asked) := by
  by_cases clean : ∀ path, config.home = some path → 0 ∉ path
  · cases attempt : (config.settings host.boundary.world).build host.boundary.world with
    | mk answer world =>
        cases answer with
        | error failure =>
            obtain ⟨configs, built⟩ := build_of_error clean attempt
            rw [built] at done
            cases done
        | ok session =>
            obtain ⟨configs, built⟩ := build_of_ok clean attempt
            rw [built] at done
            cases done
            have homeClean := Engine.Settings.zero_notMem_home_of_build attempt
            have shared := Arena.get?_alloc_self host.shares
              { session := host.boundary.contexts.fresh, holders := 1 }
            have live := Arena.get?_alloc_self host.boundary.contexts session
            exact ⟨session, _, rfl, Context.home_of_live rfl shared live homeClean⟩
  · push Not at clean
    obtain ⟨path, set, nul⟩ := clean
    rw [build_of_nul host set nul] at done
    cases done

/-- When a build has succeeded, whether without a boundary, behind it or on the host's side, the
home that is told of is a directory if its path is not empty and not too long, and only then. -/
theorem home_is_there_iff (settings : Engine.Settings) (world : World) (boundary : Boundary)
    (slot : Boundary.ErrorSlot) (id : Nat) (config : Host.Config) (host : Host) :
    (∀ session after, settings.build world = (.ok session, after) →
      (after.isDirectory session.home = true ↔
        session.home ≠ [] ∧ session.home.length < World.pathLimit)) ∧
    (∀ reply context, boundary.buildContext slot (some id) = .done reply →
      reply.result = some context →
        ∃ text, reply.after.contextHome (some context) = .done text ∧
          (reply.after.world.isDirectory text.path = true ↔
            text.path ≠ [] ∧ text.path.length < World.pathLimit)) ∧
    ∀ context after, config.build host = .done (.ok context, after) →
      ∃ home asked, context.home after = .done (.ok home, asked) ∧
        (after.boundary.world.isDirectory home = true ↔
          home ≠ [] ∧ home.length < World.pathLimit) := by
  refine ⟨fun session after built => ?_, ?_, ?_⟩
  · exact Engine.Settings.isDirectory_home_iff built
  · intro reply context done returned
    obtain ⟨settings, session, built, tells⟩ := Boundary.exists_session_of_build done returned
    obtain ⟨text, told, same⟩ := tells.home
    have there := Engine.Settings.isDirectory_home_iff built
    rw [← same] at there
    exact ⟨text, told, there⟩
  · intro context after done
    obtain ⟨session, asked, built, told⟩ := Host.Config.exists_session_of_build done
    exact ⟨session.home, asked, told, Engine.Settings.isDirectory_home_iff built⟩

/-- A session whose home is nowhere: nothing is made of an empty path, and nothing is missed. -/
theorem empty_home_is_nowhere :
    Engine.Settings.build { home := [] } World.empty =
        (.ok { home := [], policy := .robust, ephemeral := false }, World.empty) ∧
      World.empty.isDirectory [] = false ∧
      ∃ context after asked,
        Host.Config.build { home := some [] } { boundary := { world := World.empty } } =
          .done (.ok context, after) ∧
        context.home after = .done (.ok [], asked) ∧
        after.boundary.world.isDirectory [] = false := by
  let session : Engine.Session := { home := [], policy := .robust, ephemeral := false }
  have orphan : Path.parent? [] = none := rfl
  have built : Engine.Settings.build { home := [] } World.empty = (.ok session, World.empty) := by
    simp only [Engine.Settings.build, Bool.false_eq_true, if_false,
      World.makeDirectories_of_orphan orphan]
    rfl
  have nowhere : World.empty.isDirectory [] = false := rfl
  let config : Host.Config := { home := some [] }
  let host : Host := { boundary := { world := World.empty } }
  have clean : ∀ path, config.home = some path → 0 ∉ path := by
    intro path set
    cases set
    exact List.not_mem_nil
  obtain ⟨configs, done⟩ : ∃ configs, config.build host = _ := Host.Config.build_of_ok clean built
  obtain ⟨record, asked, started, told⟩ := Host.Config.exists_session_of_build done
  obtain rfl : session = record :=
    Except.ok.inj (congrArg Prod.fst (built.symm.trans started))
  exact ⟨built, nowhere, _, _, asked, done, told, nowhere⟩

end SessionStreams
