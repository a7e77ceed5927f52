import SessionStreams.Proofs.Answers
import SessionStreams.Proofs.Draws
import SessionStreams.Proofs.Messages

set_option autoImplicit false

namespace SessionStreams

open Boundary (Outcome Reply Terminated)

/-- A setting in the form in which it can be told across the boundary. A home is any path without a
NUL. -/
inductive Choice where
  | home (path : Terminated)
  | policy (policy : Engine.Policy)
  | ephemeral

def Choice.setting : Choice → Engine.Setting
  | .home text => .home text.path
  | .policy chosen => .policy chosen
  | .ephemeral => .ephemeral

/-- What can be learnt about a session that was asked for. -/
inductive Account where
  | session (home : Path) (policy : Engine.Policy) (ephemeral : Bool)
  | failure (message : String)

namespace Engine

def start (settings : List Setting) (world : World) : Except IoFailure Session × World :=
  (settings.foldl Settings.adjust (.initial world)).build world

/-- The failure is an input/output failure by its type. -/
def account : Except IoFailure Session → Account
  | .ok session => .session session.home session.policy session.ephemeral
  | .error failure => .failure failure.message

end Engine

namespace Boundary

def tell (boundary : Boundary) (id : Nat) : Choice → Outcome Boundary
  | .home path => boundary.setHome (some id) (some path)
  | .policy policy => boundary.setPolicy (some id) policy.code.toNat
  | .ephemeral => boundary.setEphemeral (some id)

def tellAll (boundary : Boundary) (id : Nat) : List Choice → Outcome Boundary
  | [] => .done boundary
  | choice :: rest => do
      let told ← boundary.tell id choice
      told.tellAll id rest

/-- Tells a new configuration all choices and builds it. -/
def start (boundary : Boundary) (choices : List Choice) : Outcome (Reply (Option Nat)) := do
  let (id, configured) := boundary.configure
  let told ← configured.tellAll id choices
  told.buildContext .empty (some id)

/-- The entry points tell as much about what was built. -/
def Reports (reply : Reply (Option Nat)) : Account → Prop
  | .session home policy ephemeral =>
      ∃ id text, reply.result = some id ∧ reply.slot.stored = none ∧
        reply.after.contextHome (some id) = .done text ∧ text.path = home ∧
        reply.after.contextPolicy (some id) = .done (policy.code.toNat : Int) ∧
        reply.after.contextEphemeral (some id) = .done ephemeral
  | .failure message =>
      ∃ text, reply.result = none ∧ errorStatus reply.slot.stored = .done .ioError ∧
        errorText reply.slot.stored = .done text ∧ text.text = message

variable (boundary : Boundary) {id : Nat} {configs : Arena Config} {config : Config}

theorem tell_spec (live : configs.get? id = some config) (choice : Choice) :
    ∃ changed, ({ boundary with configs } : Boundary).tell id choice =
        .done { boundary with configs := changed } ∧
      changed.get? id = some (config.adjust choice.setting) := by
  cases choice with
  | home path => exact Host.changeConfig_spec boundary live (·.adjust (.home path.path))
  | policy policy =>
      have number : (policy.code.toNat : Int) = Host.policyNumber policy := by
        cases policy <;> rfl
      obtain ⟨changed, set, found⟩ :=
        Host.changeConfig_spec boundary live (·.choosePolicy policy.code.toNat)
      rw [number, Host.choosePolicy_policyNumber] at found
      exact ⟨changed, set, found⟩
  | ephemeral => exact Host.changeConfig_spec boundary live (·.adjust .ephemeral)

theorem tellAll_spec (live : configs.get? id = some config) (choices : List Choice) :
    ∃ changed, ({ boundary with configs } : Boundary).tellAll id choices =
        .done { boundary with configs := changed } ∧
      changed.get? id = some { config with
        settings := (choices.map Choice.setting).foldl Engine.Settings.adjust config.settings } := by
  induction choices generalizing configs config with
  | nil => exact ⟨configs, rfl, live⟩
  | cons choice rest ih =>
      obtain ⟨first, told, one⟩ := tell_spec boundary live choice
      obtain ⟨last, further, all⟩ := ih one
      refine ⟨last, ?_, all⟩
      rw [tellAll, told, Outcome.done_bind, further]

/-- What comes of the choices is what comes of their settings. -/
theorem start_eq (choices : List Choice) :
    ∃ configs, boundary.start choices = .done (concludeHandle .empty
      (match Engine.start (choices.map Choice.setting) boundary.world with
      | (.error failure, world) => (.error (.ofIo failure), { boundary with world, configs })
      | (.ok session, world) =>
          (.ok boundary.contexts.fresh,
            { boundary with world, configs, contexts := boundary.contexts.alloc session }))) := by
  have new := Arena.get?_alloc_self boundary.configs
    { settings := Engine.Settings.initial boundary.world }
  obtain ⟨configs, told, found⟩ := tellAll_spec boundary new choices
  let settings :=
    (choices.map Choice.setting).foldl Engine.Settings.adjust (.initial boundary.world)
  have built : boundary.start choices = .done (concludeHandle .empty
      (Config.start { settings }
        { boundary with configs := configs.release boundary.configs.fresh })) := by
    simp only [start, configure, told, Outcome.done_bind, buildContext, Outcome.require, found,
      Outcome.live, settings]
  refine ⟨configs.release boundary.configs.fresh, built.trans ?_⟩
  rfl

theorem reports_start (choices : List Choice) :
    ∃ reply, boundary.start choices = .done reply ∧
      Reports reply (Engine.account (Engine.start (choices.map Choice.setting) boundary.world).1) ∧
      reply.after.world = (Engine.start (choices.map Choice.setting) boundary.world).2 := by
  obtain ⟨configs, started⟩ := boundary.start_eq choices
  refine ⟨_, started, ?_⟩
  cases attempt : Engine.start (choices.map Choice.setting) boundary.world with
  | mk answer world =>
      cases answer with
      | error failure =>
          have same := Fault.message_ofIo (Engine.Settings.clean_of_build attempt)
          obtain ⟨text, copied, shown⟩ := errorText_spec (.ofIo failure)
          rw [same] at shown
          exact ⟨⟨text, rfl, rfl, copied, shown⟩, rfl⟩
      | ok session =>
          have clean := Engine.Settings.zero_notMem_home_of_build attempt
          let after : Boundary :=
            { boundary with world, configs, contexts := boundary.contexts.alloc session }
          have live : after.contexts.get? boundary.contexts.fresh = some session :=
            Arena.get?_alloc_self boundary.contexts session
          obtain ⟨text, told, same⟩ := contextHome_of_live live clean
          exact ⟨⟨boundary.contexts.fresh, text, rfl, rfl, told, same, contextPolicy_of_live live,
            contextEphemeral_of_live live⟩, rfl⟩

end Boundary

namespace Host

/-- The host's copy of an input/output failure. -/
theorem Error.reporting_ofIo {failure : IoFailure} (clean : failure.Clean) :
    Error.reporting (.ofIo failure) = ⟨.io, failure.message⟩ := by
  rw [reporting, Boundary.Fault.message_ofIo clean]
  rfl

/-- A context and its host tell as much about what was built. -/
def Reports (answer : Except Error Context) (after : Host) : Account → Prop
  | .session home policy ephemeral =>
      ∃ context asked, answer = .ok context ∧ context.home after = .done (.ok home, asked) ∧
        context.policy after = .done (.ok policy, asked) ∧
        context.ephemeral after = .done (.ok ephemeral, asked)
  | .failure message => answer = .error ⟨.io, message⟩

theorem reports_build (host : Host) {settings : List Engine.Setting}
    (clean : ∀ path, Engine.lastHome? settings = some path → 0 ∉ path) :
    ∃ answer after, (Config.chosen settings).build host = .done (answer, after) ∧
      Reports answer after (Engine.account (Engine.start settings host.boundary.world).1) ∧
      after.boundary.world = (Engine.start settings host.boundary.world).2 := by
  have crosses : ∀ path, (Config.chosen settings).home = some path → 0 ∉ path := by
    intro path set
    rw [Config.home_chosen] at set
    exact clean path set
  have asked := Config.settings_chosen settings host.boundary.world
  cases attempt : Engine.start settings host.boundary.world with
  | mk answer world =>
      rw [Engine.start, ← asked] at attempt
      cases answer with
      | error failure =>
          obtain ⟨configs, built⟩ := Config.build_of_error crosses attempt
          have told := Error.reporting_ofIo (Engine.Settings.clean_of_build attempt)
          exact ⟨_, _, built, congrArg Except.error told, rfl⟩
      | ok session =>
          obtain ⟨configs, built⟩ := Config.build_of_ok crosses attempt
          have homeClean := Engine.Settings.zero_notMem_home_of_build attempt
          let context : Context := { share := host.shares.fresh }
          let share : Share := { session := host.boundary.contexts.fresh, holders := 1 }
          let after : Host :=
            { host with
              boundary := { host.boundary with
                world, configs, contexts := host.boundary.contexts.alloc session }
              shares := host.shares.alloc share }.note
                (.acquired (.context host.boundary.contexts.fresh) host.shares.fresh)
          have held : context.released = false := rfl
          have shared : after.shares.get? context.share = some share :=
            Arena.get?_alloc_self host.shares share
          have live : after.boundary.contexts.get? share.session = some session :=
            Arena.get?_alloc_self host.boundary.contexts session
          exact ⟨.ok context, after, built,
            ⟨context, _, rfl, Context.home_of_live held shared live homeClean,
              Context.policy_of_live held shared live, Context.ephemeral_of_live held shared live⟩,
            rfl⟩

theorem zero_notMem_lastHome (choices : List Choice) :
    ∀ path, Engine.lastHome? (choices.map Choice.setting) = some path → 0 ∉ path := by
  intro path last
  have member := List.mem_of_getLast? last
  obtain ⟨setting, among, given⟩ := List.mem_filterMap.mp member
  obtain ⟨choice, -, rfl⟩ := List.mem_map.mp among
  cases choice with
  | home text =>
      obtain rfl := Option.some.inj given
      exact text.bytes_clean
  | policy policy => simp only [Choice.setting, Engine.Setting.home?, reduceCtorEq] at given
  | ephemeral => simp only [Choice.setting, Engine.Setting.home?, reduceCtorEq] at given

end Host

/-- Two accounts with the trees that are left of the same tree. They differ at most in the random
end of a temporary path. -/
inductive Alike (tree : Tree) : Account → Tree → Account → Tree → Prop where
  | same (account : Account) (after : Tree) : Alike tree account after account after
  | started (front : Path) (policy : Engine.Policy) (parent : Location) (one two : Nat) :
      Alike tree
        (.session (front ++ World.temporaryName one) policy true)
        (tree.add parent (World.temporaryName one) (.directory .empty))
        (.session (front ++ World.temporaryName two) policy true)
        (tree.add parent (World.temporaryName two) (.directory .empty))
  | failed (front : Path) (cause : IoFailure) (one two : Nat) :
      Alike tree
        (.failure (IoFailure.located cause (front ++ World.temporaryName one)).message) tree
        (.failure (IoFailure.located cause (front ++ World.temporaryName two)).message) tree

namespace Engine

theorem Settings.build_redrawn {settings : Settings} (lasting : settings.ephemeral = false)
    (world : World) (draw : Nat) :
    settings.build (world.redrawn draw) =
      ((settings.build world).1, (settings.build world).2.redrawn draw) := by
  simp only [build, lasting, Bool.false_eq_true, if_false, World.makeDirectories_redrawn]
  cases world.makeDirectories settings.home with
  | mk answer after => cases answer <;> rfl

theorem alike_start (settings : List Setting) (world : World) {one two : Nat}
    (oneSmall : one + world.tree.size < World.drawLimit)
    (twoSmall : two + world.tree.size < World.drawLimit) :
    Alike world.tree
      (account (start settings (world.redrawn one)).1)
      (start settings (world.redrawn one)).2.tree
      (account (start settings (world.redrawn two)).1)
      (start settings (world.redrawn two)).2.tree := by
  -- The default home comes from the environment, so the settings do not depend on the draw.
  have initial (draw : Nat) : Settings.initial (world.redrawn draw) = .initial world := rfl
  simp only [start, initial]
  generalize settings.foldl Settings.adjust (.initial world) = chosen
  by_cases brief : chosen.ephemeral
  · obtain ⟨front, spelled⟩ := world.exists_temporaryPath_eq_append
    simp only [Settings.build, brief, if_true]
    rcases world.makeTemporary_redrawn with ⟨failure, refused⟩ | ⟨parent, made⟩
    · rw [refused one oneSmall, refused two twoSmall, spelled, spelled]
      exact .failed front failure one two
    · obtain ⟨first, oneMade⟩ := made one oneSmall
      obtain ⟨second, twoMade⟩ := made two twoSmall
      rw [oneMade, twoMade, spelled, spelled]
      exact .started front chosen.policy parent first second
  · have lasting : chosen.ephemeral = false := by simpa using brief
    rw [Settings.build_redrawn lasting, Settings.build_redrawn lasting]
    exact .same _ _

end Engine

/-- All settings that can be told across the boundary come to the same in all three layers: from one
world they give one account and leave one world. With it goes what another draw changes, which is
the end of a temporary path. A home with a NUL is refused on the host's side before anything
happens. -/
theorem layers_agree (world : World) (boundary : Boundary) (host : Host) :
    (∀ choices : List Choice, ∃ reply answer after,
      Boundary.start { boundary with world } choices = .done reply ∧
      (Host.Config.chosen (choices.map Choice.setting)).build
        { host with boundary := { host.boundary with world } } = .done (answer, after) ∧
      Boundary.Reports reply (Engine.account (Engine.start (choices.map Choice.setting) world).1) ∧
      Host.Reports answer after
        (Engine.account (Engine.start (choices.map Choice.setting) world).1) ∧
      reply.after.world = (Engine.start (choices.map Choice.setting) world).2 ∧
      after.boundary.world = (Engine.start (choices.map Choice.setting) world).2) ∧
    (∀ settings one two, one + world.tree.size < World.drawLimit →
      two + world.tree.size < World.drawLimit →
      Alike world.tree
        (Engine.account (Engine.start settings (world.redrawn one)).1)
        (Engine.start settings (world.redrawn one)).2.tree
        (Engine.account (Engine.start settings (world.redrawn two)).1)
        (Engine.start settings (world.redrawn two)).2.tree) ∧
    ∀ settings path, Engine.lastHome? settings = some path → 0 ∈ path →
      ∃ message, (Host.Config.chosen settings).build host =
        .done (.error ⟨.invalidArgument, message⟩, host) := by
  refine ⟨?_, ?_, ?_⟩
  · intro choices
    obtain ⟨reply, started, told, landed⟩ := Boundary.reports_start { boundary with world } choices
    obtain ⟨answer, after, built, known, kept⟩ :=
      Host.reports_build { host with boundary := { host.boundary with world } }
        (Host.zero_notMem_lastHome choices)
    exact ⟨reply, answer, after, started, built, told, known, landed, kept⟩
  · intro settings one two oneSmall twoSmall
    exact Engine.alike_start settings world oneSmall twoSmall
  · intro settings path last nul
    rw [← Host.Config.home_chosen] at last
    exact ⟨_, Host.Config.build_of_nul host last nul⟩

end SessionStreams
