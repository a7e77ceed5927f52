import SessionStreams.Proofs.Dealings

set_option autoImplicit false

/- Starting a session on the host's side and asking it. Main statements: a configuration whose home
can cross the boundary starts the session that its settings ask for (`build_of_ok`,
`build_of_error`), one whose home holds a NUL does nothing (`build_of_nul`), and a context tells
what its session says (`home_of_live`, `policy_of_live`, `ephemeral_of_live`). -/

namespace SessionStreams

namespace Engine

def Setting.home? : Setting → Option Path
  | .home path => some path
  | _ => none

/-- The home that was set last. -/
def lastHome? (settings : List Setting) : Option Path := (settings.filterMap Setting.home?).getLast?

end Engine

namespace Host

open Boundary (Outcome)

theorem pathArgument_of_clean {path : Path} (clean : 0 ∉ path) :
    ∃ text, pathArgument path = .ok text ∧ text.path = path := by
  unfold pathArgument
  cases encoded : Boundary.Terminated.ofBytes? path with
  | none => exact absurd ((Boundary.Terminated.ofBytes?_eq_none_iff path).mp encoded) clean
  | some text => exact ⟨text, rfl, Boundary.Terminated.bytes_ofBytes? encoded⟩

theorem pathArgument_of_nul {path : Path} (nul : 0 ∈ path) :
    pathArgument path = .error ⟨.invalidArgument, Text.quotedBytes path ++ " contains a 0 byte"⟩ := by
  rw [pathArgument, (Boundary.Terminated.ofBytes?_eq_none_iff path).mpr nul]

namespace Config

/-- The configuration that some settings lead to. -/
def chosen (settings : List Engine.Setting) : Config := settings.foldl adjust {}

theorem home_foldl_adjust (settings : List Engine.Setting) (config : Config) :
    (settings.foldl adjust config).home = (Engine.lastHome? settings).or config.home := by
  induction settings generalizing config with
  | nil => rfl
  | cons setting rest ih =>
      rw [List.foldl_cons, ih]
      cases setting with
      | home path =>
          simp only [Engine.lastHome?, List.filterMap_cons, Engine.Setting.home?, adjust]
          rw [List.getLast?_cons]
          cases (rest.filterMap Engine.Setting.home?).getLast? <;> rfl
      | policy policy => rfl
      | ephemeral => rfl

theorem home_chosen (settings : List Engine.Setting) :
    (chosen settings).home = Engine.lastHome? settings := by
  rw [chosen, home_foldl_adjust, Option.or_none]

theorem settings_adjust (config : Config) (setting : Engine.Setting) (world : World) :
    (config.adjust setting).settings world = (config.settings world).adjust setting := by
  cases setting <;> rfl

/-- The settings arrive as they are made without a host. -/
theorem settings_chosen (settings : List Engine.Setting) (world : World) :
    (chosen settings).settings world =
      settings.foldl Engine.Settings.adjust (.initial world) := by
  have start : ({} : Config).settings world = .initial world := rfl
  rw [chosen, ← start]
  exact (List.foldl_hom (fun config : Config => config.settings world)
    fun config setting => (settings_adjust config setting world).symm).symm

variable {config : Config}

theorem homeArgument_of_clean (clean : ∀ path, config.home = some path → 0 ∉ path) :
    ∃ home, config.homeArgument = .ok home := by
  unfold homeArgument
  cases set : config.home with
  | none => exact ⟨none, rfl⟩
  | some path =>
      obtain ⟨text, given, -⟩ := pathArgument_of_clean (clean path set)
      simp only [given]
      exact ⟨some text, rfl⟩

/-- A home that cannot cross the boundary is refused, and nothing has happened. -/
theorem build_of_nul (host : Host) {path : Path} (set : config.home = some path) (nul : 0 ∈ path) :
    config.build host =
      .done (.error ⟨.invalidArgument, Text.quotedBytes path ++ " contains a 0 byte"⟩, host) := by
  have refused : config.homeArgument =
      .error ⟨.invalidArgument, Text.quotedBytes path ++ " contains a 0 byte"⟩ := by
    simp only [homeArgument, set, pathArgument_of_nul nul]
    rfl
  simp only [build, refused]

/-- What comes of building is what comes of starting the session behind the boundary. -/
theorem build_eq (host : Host) (clean : ∀ path, config.home = some path → 0 ∉ path) :
    ∃ configs, config.build host =
      match Boundary.Config.start { settings := config.settings host.boundary.world }
        { host.boundary with configs } with
      | (.error fault, after) =>
          .done (.error (.reporting fault), { host with boundary := after })
      | (.ok session, after) =>
          .done (.ok { share := host.shares.fresh },
            { host with
              boundary := after
              shares := host.shares.alloc { session, holders := 1 } }.note
                (.acquired (.context session) host.shares.fresh)) := by
  obtain ⟨home, given⟩ := homeArgument_of_clean clean
  obtain ⟨id, configs, handed, found⟩ := handOver_spec (homeArgument_spec given) host.boundary
  refine ⟨configs.release id, ?_⟩
  simp only [build, given, handed, Outcome.done_bind, Boundary.buildContext, Outcome.require, found,
    Outcome.live, examine_concludeHandle, concludeHandle_after]
  generalize Boundary.Config.start _ _ = attempt
  obtain ⟨answer, after⟩ := attempt
  cases answer <;> rfl

/-- A session that cannot be started leaves what the attempt did to the world. -/
theorem build_of_error {host : Host} (clean : ∀ path, config.home = some path → 0 ∉ path)
    {failure : IoFailure}
    {after : World} (failed : (config.settings host.boundary.world).build host.boundary.world =
      (.error failure, after)) :
    ∃ configs, config.build host = .done (.error (.reporting (.ofIo failure)),
      { host with boundary := { host.boundary with world := after, configs } }) := by
  obtain ⟨configs, built⟩ := build_eq host clean
  simp only [Boundary.Config.start, failed] at built
  exact ⟨configs, built⟩

theorem build_of_ok {host : Host} (clean : ∀ path, config.home = some path → 0 ∉ path)
    {session : Engine.Session}
    {after : World} (started : (config.settings host.boundary.world).build host.boundary.world =
      (.ok session, after)) :
    ∃ configs, config.build host = .done (.ok { share := host.shares.fresh },
      { host with
        boundary := { host.boundary with
          world := after, configs, contexts := host.boundary.contexts.alloc session }
        shares := host.shares.alloc { session := host.boundary.contexts.fresh, holders := 1 } }.note
          (.acquired (.context host.boundary.contexts.fresh) host.shares.fresh)) := by
  obtain ⟨configs, built⟩ := build_eq host clean
  simp only [Boundary.Config.start, started] at built
  exact ⟨configs, built⟩

end Config

namespace Context

variable {context : Context} {host : Host}

theorem ask_of_released {α : Type} (released : context.released = true)
    (question : Boundary → Option Nat → Outcome α) :
    context.ask host question = .done (.error (.released "Context"), host) := by
  rw [ask, if_pos released]

variable {state : Share} {record : Engine.Session} (held : context.released = false)
  (shared : host.shares.get? context.share = some state)

include held shared

theorem ask_of_held {α : Type} {question : Boundary → Option Nat → Outcome α} {answer : α}
    (answered : question host.boundary (some state.session) = .done answer) :
    context.ask host question =
      .done (.ok answer, host.note (.used (.context state.session))) := by
  simp only [ask, held, Bool.false_eq_true, if_false, shared, Outcome.live, Outcome.done_bind,
    answered]

variable (live : host.boundary.contexts.get? state.session = some record)

include live

theorem home_of_live (clean : 0 ∉ record.home) :
    context.home host = .done (.ok record.home, host.note (.used (.context state.session))) := by
  obtain ⟨text, answered, same⟩ := Boundary.contextHome_of_live live clean
  have asked := ask_of_held held shared answered
  simp only [home, asked, Outcome.done_bind, Except.map, same]

theorem policy_of_live :
    context.policy host = .done (.ok record.policy, host.note (.used (.context state.session))) := by
  have asked := ask_of_held held shared (Boundary.contextPolicy_of_live live)
  have same : policyOf (record.policy.code.toNat : Int) = .ok record.policy := by
    cases record.policy <;> rfl
  simp only [policy, asked, Outcome.done_bind, Except.bind, same]

theorem ephemeral_of_live :
    context.ephemeral host =
      .done (.ok record.ephemeral, host.note (.used (.context state.session))) :=
  ask_of_held held shared (Boundary.contextEphemeral_of_live live)

end Context

end Host

end SessionStreams
