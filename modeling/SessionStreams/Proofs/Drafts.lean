import SessionStreams.Proofs.Constancy

set_option autoImplicit false

namespace SessionStreams

open Engine (Session Setting Settings lastHome? lastPolicy?)

/-- How drafts of one kind are begun in a world, and what a setting does to one. -/
structure Craft (α : Type) where
  start : World → α
  adjust : α → Setting → α

/-- What is done at a desk, which is to begin, to copy or to change a draft; and variables that are
set meanwhile. -/
inductive Drafting where
  | start
  | clone (draft : Nat)
  | set (draft : Nat) (setting : Setting)
  | setVariable (home : Bool) (value : Bytes)

/-- The world with the variables that were set. -/
def Drafting.environment (world : World) : Drafting → World
  | .setVariable home value => world.setVariable home value
  | _ => world

/-- Drafts of one kind in the order in which they were begun, and the world around them. -/
structure Desk (α : Type) where
  world : World
  drafts : List α := []

namespace Desk

variable {α β : Type}

def map (view : α → β) (desk : Desk α) : Desk β := ⟨desk.world, desk.drafts.map view⟩

def step (craft : Craft α) (desk : Desk α) : Drafting → Desk α
  | .start => { desk with drafts := desk.drafts ++ [craft.start desk.world] }
  | .clone draft => { desk with drafts := desk.drafts ++ desk.drafts[draft]?.toList }
  | .set draft setting => { desk with drafts := desk.drafts.modify draft (craft.adjust · setting) }
  | .setVariable home value => { desk with world := desk.world.setVariable home value }

def work (craft : Craft α) (world : World) (drafting : List Drafting) : Desk α :=
  drafting.foldl (step craft) { world }

theorem world_work (craft : Craft α) (world : World) (drafting : List Drafting) :
    (work craft world drafting).world = drafting.foldl Drafting.environment world := by
  have same (desk : Desk α) (next : Drafting) :
      (desk.step craft next).world = next.environment desk.world := by
    cases next <;> rfl
  exact (List.foldl_hom Desk.world fun desk next => (same desk next).symm).symm

variable {one : Craft α} {two : Craft β} {view : α → β}

theorem step_map (starts : ∀ world, view (one.start world) = two.start world)
    (adjusts : ∀ draft setting, view (one.adjust draft setting) = two.adjust (view draft) setting)
    (desk : Desk α) (next : Drafting) :
    (desk.step one next).map view = (desk.map view).step two next := by
  cases next with
  | start => simp only [step, map, List.map_append, List.map_singleton, starts]
  | clone draft =>
      simp only [step, map, List.map_append, List.getElem?_map]
      cases desk.drafts[draft]? <;> rfl
  | set draft setting =>
      simp only [step, map, Desk.mk.injEq, true_and]
      refine List.ext_getElem? fun index => ?_
      simp only [List.getElem?_map, List.getElem?_modify]
      cases desk.drafts[index]? with
      | none => rfl
      | some found => by_cases here : draft = index <;> simp [here, adjusts]
  | setVariable home value => rfl

/-- Two crafts that agree draft by draft agree after any work. -/
theorem work_map (starts : ∀ world, view (one.start world) = two.start world)
    (adjusts : ∀ draft setting, view (one.adjust draft setting) = two.adjust (view draft) setting)
    (world : World) (drafting : List Drafting) :
    work two world drafting = (work one world drafting).map view := by
  have blank : ({ world } : Desk β) = map view { world } := rfl
  rw [work, blank]
  exact List.foldl_hom (map view) fun desk next => (step_map starts adjusts desk next).symm

end Desk

/-- When a draft was begun, and all settings since then, those of the draft it is a copy of
included. -/
structure History where
  begun : World
  settings : List Setting := []

def History.craft : Craft History where
  start world := { begun := world }
  adjust history setting := { history with settings := history.settings ++ [setting] }

def Engine.Settings.craft : Craft Settings := ⟨initial, adjust⟩

def Host.Config.craft : Craft Host.Config := ⟨fun _ => {}, adjust⟩

theorem Engine.Settings.drafts_eq (world : World) (drafting : List Drafting) :
    Desk.work craft world drafting =
      (Desk.work History.craft world drafting).map fun history =>
        final history.settings history.begun := by
  refine Desk.work_map (fun begun => rfl) (fun history setting => ?_) world drafting
  simp only [History.craft, craft, ← foldl_adjust_initial, List.foldl_concat]

theorem Host.Config.drafts_eq (world : World) (drafting : List Drafting) :
    Desk.work craft world drafting =
      (Desk.work History.craft world drafting).map fun history => final history.settings := by
  refine Desk.work_map (fun begun => rfl) (fun history setting => ?_) world drafting
  simp only [History.craft, craft, ← chosen_eq_final, chosen, List.foldl_concat]

namespace Engine

/-- The same home was set last or none, the same policy, and an ephemeral session was asked for in
both or in neither. -/
structure Concur (one two : List Setting) : Prop where
  home : lastHome? one = lastHome? two
  policy : (lastPolicy? one).getD .robust = (lastPolicy? two).getD .robust
  ephemeral : .ephemeral ∈ one ↔ Setting.ephemeral ∈ two

/-- The session is the one that was asked for. The default home was read off the world in which the
draft was begun, and a temporary one was made in the world of the build. -/
structure Fits (settings : List Setting) (begun now : World) (session : Session) (after : World) :
    Prop where
  home : .ephemeral ∉ settings → session.home =
    (lastHome? settings).getD (begun.userHome.join (Text.encode ".sequoia"))
  temporary : .ephemeral ∈ settings → now.Furnished session after
  policy : session.policy = (lastPolicy? settings).getD .robust
  ephemeral : session.ephemeral = decide (.ephemeral ∈ settings)

theorem Settings.policy_of_build {settings : Settings} {world after : World} {session : Session}
    (built : settings.build world = (.ok session, after)) : session.policy = settings.policy := by
  unfold build at built
  split at built
  · split at built <;> cases built
    rfl
  · split at built <;> cases built
    rfl

theorem fits_of_build {settings : List Setting} {begun now after : World} {session : Session}
    (built : (Settings.final settings begun).build now = (.ok session, after)) :
    Fits settings begun now session after := by
  have policy := Settings.policy_of_build built
  rcases Settings.build_spec built with ⟨asked, brief, made, temporary⟩ | ⟨unasked, lasting, -, home, -⟩
  · have among : Setting.ephemeral ∈ settings := of_decide_eq_true asked
    refine ⟨fun missing => absurd among missing, fun _ => ?_, policy, brief.trans asked.symm⟩
    exact World.furnished_of_makeTemporary made ⟨brief, temporary⟩
  · have missing : Setting.ephemeral ∉ settings := of_decide_eq_false unasked
    exact ⟨fun _ => home, fun among => absurd among missing, policy, lasting.trans unasked.symm⟩

end Engine

namespace Host.Holdings

/-- What comes of building settings of which just the final ones count: a home with a NUL is
refused, and else there is a failure, or a context that tells of the session as long as it is not
given up. -/
inductive Builds (held : Holdings) (settings : List Setting) : Answer → Holdings → Prop where
  | refused {path : Path} (last : lastHome? settings = some path) (nul : 0 ∈ path) :
      Builds held settings
        (.failed ⟨.invalidArgument, Text.quotedBytes path ++ " contains a 0 byte"⟩) held
  | failed {failure : IoFailure} {after : Holdings}
      (clean : ∀ path, lastHome? settings = some path → 0 ∉ path)
      (attempt : (Settings.final settings held.world).build held.world =
        (.error failure, after.world)) :
      Builds held settings (.failed ⟨.io, failure.message⟩) after
  | started {session : Session} {id : Nat} {after : Holdings}
      (clean : ∀ path, lastHome? settings = some path → 0 ∉ path)
      (attempt : (Settings.final settings held.world).build held.world =
        (.ok session, after.world))
      (fits : Engine.Fits settings held.world held.world session after.world)
      (tells : ∀ turns : List Turn, (∀ turn ∈ turns, ¬ turn.GivesUp id) →
        ∃ later, after.proceed turns = .done later ∧ later.Tells id session) :
      Builds held settings (.made id) after

theorem builds_final {held : Holdings} (sound : Sound held.custody) (settings : List Setting) :
    ∃ answer after, held.perform (.build (.final settings)) = .done (answer, after) ∧
      held.Builds settings answer after := by
  by_cases clean : ∀ path, lastHome? settings = some path → 0 ∉ path
  · cases attempt : ((Config.final settings).settings held.world).build held.world with
    | mk answer world =>
        cases answer with
        | error failure =>
            obtain ⟨configs, built⟩ := Config.build_of_error clean attempt
            rw [Error.reporting_ofIo (Settings.clean_of_build attempt)] at built
            simp only [perform, built, Boundary.Outcome.done_bind, keepContext]
            exact ⟨_, _, rfl, .failed clean attempt⟩
        | ok session =>
            obtain ⟨after, built, arrived, still, attends⟩ := attends_of_build sound clean attempt
            rw [← arrived] at attempt
            refine ⟨_, after, built, .started clean attempt (Engine.fits_of_build attempt) ?_⟩
            intro turns keeps
            obtain ⟨later, done, sound, attending⟩ := attends.proceed still keeps
            exact ⟨later, done, attending.tells sound⟩
  · push Not at clean
    obtain ⟨path, last, nul⟩ := clean
    have set : (Config.final settings).home = some path := last
    have refused := Config.build_of_nul held.host set nul
    simp only [perform, refused, Boundary.Outcome.done_bind, keepContext]
    exact ⟨_, _, rfl, .refused last nul⟩

end Host.Holdings

namespace Boundary

/-- What comes of a configuration of which just the final settings count: the same as without a
boundary, and a context that was returned tells of the session as long as it is not given up. -/
structure Builds (before : Boundary) (slot : ErrorSlot) (id : Nat) (settings : List Setting)
    (begun : World) (reply : Reply (Option Nat)) : Prop where
  built : before.buildContext slot (some id) = .done reply
  launches : Launches { before with configs := before.configs.release id } slot reply
    ((Settings.final settings begun).build before.world)
  started : ∀ session world,
    (Settings.final settings begun).build before.world = (.ok session, world) →
      Engine.Fits settings begun before.world session world ∧
      ∃ context, reply.result = some context ∧
        ∀ deals later, reply.after.dealAll deals = .done later →
          (∀ deal ∈ deals, deal ≠ .freeContext context) → later.Tells context session

variable {boundary told : Boundary} {deals : List Deal}

theorem builds_final (done : boundary.configure.2.dealAll deals = .done told)
    (keeps : ∀ deal ∈ deals, ¬ deal.UsesUp boundary.configure.1)
    (sound : firstBad? (toldTo boundary.configure.1 deals) = none) (slot : ErrorSlot) :
    ∃ reply, told.Builds slot boundary.configure.1
      ((toldTo boundary.configure.1 deals).filterMap Setter.setting?) boundary.world reply := by
  have new : boundary.configure.2.configs.get? boundary.configure.1 =
      some { settings := Settings.initial boundary.world } := Arena.get?_alloc_self _ _
  let config : Config := {
    settings := .final ((toldTo boundary.configure.1 deals).filterMap Setter.setting?)
      boundary.world }
  have found : told.configs.get? boundary.configure.1 = some config := by
    have live := configs_dealAll done new keeps
    rw [Config.foldl_follow, Settings.foldl_adjust_initial, sound] at live
    exact live
  have launches := launches_start
    { told with configs := told.configs.release boundary.configure.1 } slot config rfl
  refine ⟨_, buildContext_eq told found slot, launches, fun session world built => ?_⟩
  refine ⟨Engine.fits_of_build built, ?_⟩
  have clean := Settings.zero_notMem_home_of_build built
  rw [built] at launches
  obtain ⟨context, same, live, -⟩ := launches
  refine ⟨context, congrArg Reply.result same, fun more later further kept => ?_⟩
  exact tells_dealAll further live clean kept

end Boundary

/-- Drafting changes nothing in the world but the variables that are set, and leaves of each draft
its final settings. Whatever is built of them, and what becomes of the world, depends on these and
on the world at that time alone, and a session that was started is the one that was asked for. A
context tells so until it is given up, whatever turns a host program takes and whatever deals are
made behind the boundary; there, as without a boundary, the default home is that of the moment when
the configuration was made. -/
theorem only_final_settings_matter :
    (∀ world drafting,
      (Desk.work History.craft world drafting).world =
          drafting.foldl Drafting.environment world ∧
      Desk.work Host.Config.craft world drafting = (Desk.work History.craft world drafting).map
        (fun history => .final history.settings) ∧
      Desk.work Settings.craft world drafting = (Desk.work History.craft world drafting).map
        (fun history => .final history.settings history.begun)) ∧
    (∀ one two, Engine.Concur one two → Host.Config.final one = .final two ∧
      ∀ begun, Settings.final one begun = .final two begun) ∧
    (∀ settings begun now session after,
      (Settings.final settings begun).build now = (.ok session, after) →
        Engine.Fits settings begun now session after) ∧
    (∀ world turns, ∃ held, (Host.Holdings.start world).proceed turns = .done held ∧
      ∀ settings, ∃ answer after,
        held.perform (.build (.final settings)) = .done (answer, after) ∧
        held.Builds settings answer after) ∧
    (∀ (boundary told : Boundary) (id : Nat) (setter : Boundary.Setter),
      boundary.deal (.set id setter) = .done told →
        told = { boundary with configs := told.configs }) ∧
    ∀ (boundary told : Boundary) deals, boundary.configure.2.dealAll deals = .done told →
      (∀ deal ∈ deals, ¬ deal.UsesUp boundary.configure.1) →
      Boundary.firstBad? (Boundary.toldTo boundary.configure.1 deals) = none →
      ∀ slot, ∃ reply, told.Builds slot boundary.configure.1
        ((Boundary.toldTo boundary.configure.1 deals).filterMap Boundary.Setter.setting?)
        boundary.world reply := by
  refine ⟨fun world drafting => ?_, fun one two concur => ?_, ?_, fun world turns => ?_, ?_, ?_⟩
  · exact ⟨Desk.world_work _ world drafting, Host.Config.drafts_eq world drafting,
      Settings.drafts_eq world drafting⟩
  · have asked : decide (Setting.ephemeral ∈ one) = decide (Setting.ephemeral ∈ two) :=
      decide_eq_decide.mpr concur.ephemeral
    refine ⟨?_, fun begun => ?_⟩
    · rw [Host.Config.final, Host.Config.final, concur.home, concur.policy, asked]
    · rw [Settings.final, Settings.final, concur.home, concur.policy, asked]
  · exact fun settings begun now session after built => Engine.fits_of_build built
  · obtain ⟨held, done, sound, -⟩ := Host.Holdings.proceed_sound world turns
    exact ⟨held, done, Host.Holdings.builds_final sound⟩
  · intro boundary told id setter done
    obtain ⟨old, -, rfl⟩ := Boundary.set_cases done
    rfl
  · intro boundary told deals done keeps sound
    exact Boundary.builds_final done keeps sound

end SessionStreams
