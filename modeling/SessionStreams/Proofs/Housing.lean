import SessionStreams.Proofs.Paving

set_option autoImplicit false

namespace SessionStreams

open Engine (Settings Session)

variable {home : Path}

namespace Engine.Settings

/-- A lasting session in this home is asked for. -/
structure LastsIn (settings : Settings) (home : Path) : Prop where
  home : settings.home = home
  lasting : settings.ephemeral = false

/-- What an attempt to start a lasting session comes to: the home is made, another session can be
started there without any change, and the end of the session leaves the world as it is. -/
structure Houses (home : Path) (before : World) (answer : Except IoFailure Session) (after : World) :
    Prop where
  creates : before.Creates home (∃ session, answer = .ok session) after
  again : ∀ session, answer = .ok session → ∀ other : Settings, other.LastsIn home →
    ∃ further, other.build after = (.ok further, after)
  leaves : ∀ session, answer = .ok session → ∀ later, session.close later = later

variable {settings : Settings} {world after : World} {session : Session}
  {answer : Except IoFailure Session}

theorem build_of_lasting (lasts : settings.LastsIn home) (world : World) :
    settings.build world =
      ((world.makeDirectories home).1.map fun _ =>
        { home, policy := settings.policy, ephemeral := false },
      (world.makeDirectories home).2) := by
  simp only [build, lasts.lasting, Bool.false_eq_true, if_false, lasts.home]
  cases world.makeDirectories home with
  | mk made after => cases made <;> rfl

theorem lasting_of_build (lasts : settings.LastsIn home)
    (built : settings.build world = (.ok session, after)) :
    session.home = home ∧ session.temporary = none := by
  rcases build_spec built with ⟨asked, -⟩ | ⟨-, -, -, same, temporary⟩
  · rw [lasts.lasting] at asked
    cases asked
  · exact ⟨same.trans lasts.home, temporary⟩

theorem close_of_lasting (temporary : session.temporary = none) (world : World) :
    session.close world = world := by
  simp only [Session.close, temporary]

theorem houses_build (plain : home.Plain) (filled : home ≠ []) (lasts : settings.LastsIn home)
    (built : settings.build world = (answer, after)) : Houses home world answer after := by
  have creates : world.Creates home _ _ := World.creates_makeDirectories plain filled
  have made := build_of_lasting lasts world
  rw [built] at made
  obtain ⟨told, rfl⟩ := Prod.mk.inj made
  have succeeded : (∃ session, answer = .ok session) ↔ (world.makeDirectories home).1 = .ok () := by
    rw [told]
    cases (world.makeDirectories home).1 <;> simp [Except.map]
  rw [← succeeded] at creates
  refine ⟨creates, ?_, ?_⟩
  · rintro session rfl other otherLasts
    have brief := (creates.succeeded_iff.mp ⟨session, rfl⟩).brief
    have there := (isDirectory_home_iff built).mpr
    rw [(lasting_of_build lasts built).1] at there
    have still := World.makeDirectories_of_isDirectory (there ⟨filled, brief⟩)
    refine ⟨{ home, policy := other.policy, ephemeral := false }, ?_⟩
    rw [build_of_lasting otherLasts, still]
    rfl
  · rintro session rfl later
    exact close_of_lasting (lasting_of_build lasts built).2 later

end Engine.Settings

namespace Boundary

/-- What a call to start a lasting session comes to. -/
structure Houses (home : Path) (before : Boundary) (reply : Reply (Option Nat)) : Prop where
  creates : before.world.Creates home (∃ context, reply.result = some context) reply.after.world
  again : ∀ context, reply.result = some context → ∀ (later : Boundary) slot id config,
    later.world = reply.after.world → later.configs.get? id = some config →
      config.firstFault = none → config.settings.LastsIn home →
        ∃ other after, later.buildContext slot (some id) = .done ⟨some other, slot, after⟩ ∧
          after.world = later.world
  leaves : ∀ context, reply.result = some context → ∀ deals later,
    reply.after.dealAll deals = .done later → (∀ deal ∈ deals, deal ≠ .freeContext context) →
      ∃ after, later.freeContext (some context) = .done after ∧ after.world = later.world

section

variable {boundary : Boundary} {id : Nat} {config : Config} {world : World}
  (live : boundary.configs.get? id = some config) (sound : config.firstFault = none) (slot : ErrorSlot)

include live sound

theorem buildContext_of_ok {session : Session}
    (built : config.settings.build boundary.world = (.ok session, world)) :
    ∃ context after, boundary.buildContext slot (some id) = .done ⟨some context, slot, after⟩ ∧
      after.world = world ∧ after.contexts.get? context = some session := by
  have launches := launches_start { boundary with configs := boundary.configs.release id } slot
    config sound
  dsimp only at launches
  rw [built] at launches
  obtain ⟨context, same, there, -⟩ := launches
  rw [same] at there
  exact ⟨context, _, (buildContext_eq boundary live slot).trans (congrArg Outcome.done same), rfl,
    there⟩

theorem buildContext_of_error {failure : IoFailure}
    (built : config.settings.build boundary.world = (.error failure, world)) :
    ∃ slot' after, boundary.buildContext slot (some id) = .done ⟨none, slot', after⟩ ∧
      after.world = world := by
  have launches := launches_start { boundary with configs := boundary.configs.release id } slot
    config sound
  dsimp only at launches
  rw [built] at launches
  obtain ⟨text, same, -⟩ := launches
  exact ⟨_, _, (buildContext_eq boundary live slot).trans (congrArg Outcome.done same), rfl⟩

theorem houses_buildContext (plain : home.Plain) (filled : home ≠ [])
    (lasts : config.settings.LastsIn home) :
    ∃ reply, boundary.buildContext slot (some id) = .done reply ∧ boundary.Houses home reply := by
  cases built : config.settings.build boundary.world with
  | mk answer world =>
      have houses := Settings.houses_build plain filled lasts built
      cases answer with
      | error failure =>
          obtain ⟨stored, after, done, rfl⟩ := buildContext_of_error live sound slot built
          refine ⟨_, done, houses.creates.congr (by simp), ?_, ?_⟩
          · rintro context ⟨⟩
          · rintro context ⟨⟩
      | ok session =>
          obtain ⟨context, after, done, rfl, there⟩ := buildContext_of_ok live sound slot built
          refine ⟨_, done, houses.creates.congr (by simp), ?_, ?_⟩
          · rintro _ - later slot other config unchanged found sound otherLasts
            obtain ⟨further, still⟩ := houses.again session rfl config.settings otherLasts
            rw [← unchanged] at still
            obtain ⟨number, final, done, same, -⟩ := buildContext_of_ok found sound slot still
            exact ⟨number, final, done, same⟩
          · rintro _ ⟨⟩ deals later done keeps
            have live := contexts_dealAll done there keeps
            refine ⟨{ later with
              world := session.close later.world
              contexts := later.contexts.release context }, ?_, houses.leaves session rfl later.world⟩
            simp only [freeContext, live, Outcome.live, Outcome.done_bind]

end

end Boundary

namespace Host

open Boundary (Outcome)

/-- Whoever lets go of a lasting session last changes nothing in the world. -/
theorem Tied.world_letGo {number share : Nat} {session : Session} {custody : Custody} {after : Host}
    (tied : Tied number session (some share) custody) (lasting : session.temporary = none)
    (done : custody.host.letGo share = .done after) :
    after.boundary.world = custody.host.boundary.world := by
  obtain ⟨state, shared, rest⟩ := Boundary.exists_of_live done
  have mine : state.session = number := (tied.shared share state shared).mpr rfl
  split at rest
  · obtain ⟨boundary, freed, ends⟩ := Boundary.exists_of_bind rest
    obtain ⟨record, live, ended⟩ := Boundary.exists_of_live freed
    rw [mine] at live
    cases ends
    cases ended
    rw [tied.same record live]
    exact Settings.close_of_lasting lasting custody.host.boundary.world
  · cases rest
    rfl

namespace Holdings

variable {held after : Holdings} {id : Nat} {session : Session}

/-- A program that gives up a context with a lasting session changes nothing in the world. -/
theorem Attends.take_of_givesUp (attends : held.Attends id session) (sound : Sound held.custody)
    (lasting : session.temporary = none) {turn : Turn} (gives : turn.GivesUp id) :
    ∃ after, held.take turn = .done after ∧ after.world = held.world := by
  obtain ⟨share, number, claimed, tied⟩ := attends
  let context : Context := { share }
  have gone := letGo_eq_parted sound (Custody.holds_of_claim claimed) rfl rfl
  have unchanged := tied.world_letGo lasting gone
  obtain ⟨action, rfl, ends⟩ : ∃ action : ContextAction, turn = .act (.context id action) ∧
      (Action.context id action).ending? = some (.context id) := by
    rcases gives with rfl | rfl
    · exact ⟨_, rfl, rfl⟩
    · exact ⟨_, rfl, rfl⟩
  refine ⟨{ held with
    host := held.host.parted share
    contexts := action.rest held.contexts id context }, ?_, unchanged⟩
  rw [Holdings.take, perform_endContext sound ends (context_of_claim claimed) rfl, Outcome.done_bind]

/-- What building a lasting configuration comes to. -/
structure Houses (home : Path) (before : Holdings) (answer : Answer) (after : Holdings) : Prop where
  creates : before.world.Creates home (∃ id, answer = .made id) after.world
  again : ∀ id, answer = .made id → ∀ config : Config,
    (config.settings after.world).LastsIn home →
      ∃ other later, after.perform (.build config) = .done (.made other, later) ∧
        later.world = after.world
  leaves : ∀ id, answer = .made id → ∀ turns, (∀ turn ∈ turns, ¬ Turn.GivesUp turn id) →
    ∃ later, after.proceed turns = .done later ∧ ∀ turn, Turn.GivesUp turn id →
      ∃ final, later.take turn = .done final ∧ final.world = later.world
  parts : ∀ id, answer = .made id → ∃ share, after.contexts.get? id = some { share } ∧
    ∀ turns, ∃ later, after.proceed turns = .done later ∧ ∀ host,
      later.host.letGo share = .done host → host.boundary.world = later.world

theorem houses_build (plain : home.Plain) (filled : home ≠ []) (sound : Sound held.custody)
    {config : Config} (lasts : (config.settings held.world).LastsIn home) :
    ∃ answer after, held.perform (.build config) = .done (answer, after) ∧
      held.Houses home answer after := by
  have clean (config : Config) {world : World} (lasts : (config.settings world).LastsIn home) :
      ∀ path, config.home = some path → 0 ∉ path := by
    intro path set
    have same := lasts.home
    simp only [Config.settings, set, Option.getD_some] at same
    rw [same]
    exact plain.clean
  cases attempt : (config.settings held.world).build held.world with
  | mk answer world =>
      have houses := Settings.houses_build plain filled lasts attempt
      cases answer with
      | error failure =>
          obtain ⟨configs, built⟩ := Config.build_of_error (clean config lasts) attempt
          simp only [perform, built, Outcome.done_bind, keepContext]
          refine ⟨_, _, rfl, houses.creates.congr (by simp), ?_, ?_, ?_⟩
          · rintro _ ⟨⟩
          · rintro _ ⟨⟩
          · rintro _ ⟨⟩
      | ok session =>
          obtain ⟨after, built, rfl, still, attends⟩ :=
            attends_of_build sound (clean config lasts) attempt
          have temporary := (Settings.lasting_of_build lasts attempt).2
          refine ⟨_, after, built, houses.creates.congr (by simp), ?_, ?_, ?_⟩
          · rintro _ ⟨⟩ other otherLasts
            obtain ⟨further, again⟩ := houses.again session rfl _ otherLasts
            obtain ⟨later, done, same, -⟩ := attends_of_build still (clean other otherLasts) again
            exact ⟨_, later, done, same⟩
          · rintro _ ⟨⟩ turns keeps
            obtain ⟨later, done, sound, attending⟩ := attends.proceed still keeps
            exact ⟨later, done, fun turn gives => attending.take_of_givesUp sound temporary gives⟩
          -- Streams may hold the share for longer than the context, and one of them end the session.
          · rintro _ ⟨⟩
            obtain ⟨share, number, claimed, tied⟩ := attends
            refine ⟨share, context_of_claim claimed, fun turns => ?_⟩
            obtain ⟨later, done, -, ties⟩ := proceed_spec (kept_tied number session (some share))
              tied_inWorld still tied turns
            exact ⟨later, done, fun host gone => ties.world_letGo temporary gone⟩

end Holdings

end Host

/-- A lasting session with a plain home can be started just if the way to the home is ready, and
then there are directories all the way and nothing else is new; otherwise at most some of those on
the way are, before the last. Another one can be started there without any change, and whatever else
happens, its end changes nothing. This holds without a boundary, behind it and on the host's side.
-/
theorem plain_homes_are_made (plain : home.Plain) (filled : home ≠ []) :
    (∀ (settings : Settings) world, settings.LastsIn home →
      ∃ answer after, settings.build world = (answer, after) ∧
        Settings.Houses home world answer after) ∧
    (∀ (boundary : Boundary) slot id config, boundary.configs.get? id = some config →
      config.firstFault = none → config.settings.LastsIn home →
        ∃ reply, boundary.buildContext slot (some id) = .done reply ∧ boundary.Houses home reply) ∧
    ∀ world turns, ∃ held, (Host.Holdings.start world).proceed turns = .done held ∧
      ∀ config : Host.Config, (config.settings held.world).LastsIn home →
        ∃ answer after, held.perform (.build config) = .done (answer, after) ∧
          held.Houses home answer after := by
  refine ⟨fun settings world lasts => ?_, ?_, fun world turns => ?_⟩
  · exact ⟨_, _, rfl, Settings.houses_build plain filled lasts rfl⟩
  · intro boundary slot id config live sound lasts
    exact Boundary.houses_buildContext live sound slot plain filled lasts
  · obtain ⟨held, done, sound, -⟩ := Host.Holdings.proceed_sound world turns
    refine ⟨held, done, fun config lasts => ?_⟩
    exact Host.Holdings.houses_build plain filled sound lasts

/-- Two directories are made for the home `a/b/`. -/
theorem plain_homes_are_made_nested :
    ∃ session after,
      Settings.build { home := [0x61, 0x2F, 0x62, 0x2F] } World.empty = (.ok session, after) ∧
        after.tree.node? [[0x61]] = some .directory ∧
        after.tree.node? [[0x61], [0x62]] = some .directory := by
  obtain ⟨answer, after, built, houses⟩ :=
    (plain_homes_are_made (by decide) (by decide)).1
      { home := [0x61, 0x2F, 0x62, 0x2F] } World.empty ⟨rfl, rfl⟩
  have ready : World.empty.Ready [0x61, 0x2F, 0x62, 0x2F] := by
    refine ⟨⟨trivial, rfl⟩, by decide, by decide, fun place _ node stands => ?_⟩
    cases place with
    | nil => exact (Option.some.inj stands).symm
    | cons first further => cases stands
  have succeeded := houses.creates.succeeded_iff.mpr ready
  have paved := houses.creates.paved succeeded
  obtain ⟨session, rfl⟩ := succeeded
  refine ⟨session, after, built, paved.inside _ ⟨[[0x61]], ?_, rfl⟩,
    paved.inside _ ⟨[[0x61], [0x62]], ?_, rfl⟩⟩
  · decide
  · decide

end SessionStreams
