import SessionStreams.Proofs.Temporary

set_option autoImplicit false

namespace SessionStreams

namespace Engine

def Setting.policy? : Setting → Option Policy
  | .policy chosen => some chosen
  | _ => none

/-- The policy that was set last. -/
def lastPolicy? (settings : List Setting) : Option Policy :=
  (settings.filterMap Setting.policy?).getLast?

namespace Settings

/-- What is left of many settings in a world. -/
def final (settings : List Setting) (world : World) : Settings where
  home := (lastHome? settings).getD (defaultHome world)
  policy := (lastPolicy? settings).getD .robust
  ephemeral := decide (.ephemeral ∈ settings)

end Settings

theorem lastHome?_concat (settings : List Setting) (setting : Setting) :
    lastHome? (settings ++ [setting]) = setting.home?.or (lastHome? settings) := by
  rw [lastHome?, List.filterMap_append, List.getLast?_append]
  cases setting <;> rfl

theorem lastPolicy?_concat (settings : List Setting) (setting : Setting) :
    lastPolicy? (settings ++ [setting]) = setting.policy?.or (lastPolicy? settings) := by
  rw [lastPolicy?, List.filterMap_append, List.getLast?_append]
  cases setting <;> rfl

end Engine

namespace Host.Config

open Engine (Setting lastHome? lastPolicy?)

/-- What is left of many settings on the host's side. -/
def final (settings : List Setting) : Config where
  home := lastHome? settings
  policy := (lastPolicy? settings).getD .robust
  ephemeral := decide (.ephemeral ∈ settings)

theorem chosen_eq_final (settings : List Setting) : chosen settings = final settings := by
  induction settings using List.reverseRecOn with
  | nil => rfl
  | append_singleton earlier setting ih =>
      have step : chosen (earlier ++ [setting]) = (chosen earlier).adjust setting :=
        List.foldl_concat ..
      rw [step, ih]
      cases setting <;> simp [adjust, final, Engine.lastHome?_concat, Engine.lastPolicy?_concat,
        Setting.home?, Setting.policy?]

end Host.Config

theorem Host.Config.settings_final (settings : List Engine.Setting) (world : World) :
    (final settings).settings world = .final settings world := rfl

theorem Engine.Settings.foldl_adjust_initial (settings : List Setting) (world : World) :
    settings.foldl adjust (initial world) = final settings world := by
  rw [← Host.Config.settings_chosen, Host.Config.chosen_eq_final, Host.Config.settings_final]

namespace Engine.Policy

/-- The policy that has a number, if any does. -/
def numbered? : Int → Option Policy
  | 0 => some .external
  | 1 => some .internal
  | 2 => some .robust
  | _ => none

theorem numbered?_eq_some_iff {number : Int} {policy : Policy} :
    numbered? number = some policy ↔ (policy.code.toNat : Int) = number := by
  unfold numbered?
  split <;> cases policy <;> simp_all [code, eq_comm]

theorem numbered?_eq_none_iff {number : Int} :
    numbered? number = none ↔ ¬ (0 ≤ number ∧ number ≤ 2) := by
  unfold numbered?
  split
  case h_4 notZero notOne notTwo =>
    have apart : number ≠ 0 ∧ number ≠ 1 ∧ number ≠ 2 := ⟨notZero, notOne, notTwo⟩
    refine iff_of_true rfl fun range => ?_
    omega
  all_goals decide

/-- A byte leads to the policy that has it as its number. -/
theorem ofCode_ofNat {number : Nat} (small : number < 256) :
    ofCode (UInt8.ofNat number) = (match numbered? number with
      | some policy => .ok policy
      | none => .error (.invalidArgument (badPolicy number))) := by
  have back : (UInt8.ofNat number).toNat = number := UInt8.toNat_ofNat_of_lt' small
  rcases number with _ | _ | _ | number
  · rfl
  · rfl
  · rfl
  · have beyond (byte : UInt8) (first : byte.toNat ≤ 2) :
        UInt8.ofNat (number + 1 + 1 + 1) ≠ byte := by
      rintro rfl
      omega
    have unknown : numbered? (number + 1 + 1 + 1 : Nat) = none := by
      rw [numbered?_eq_none_iff]
      omega
    rw [ofCode, if_neg (beyond 0 (by decide)), if_neg (beyond 1 (by decide)),
      if_neg (beyond 2 (by decide)), unknown, back]

end Engine.Policy

namespace Boundary

open Engine (Policy)

/-- A number comes through a byte to the policy that has it; one that is too small or too large for
a byte is reported like one that no policy has. -/
theorem policyOf_eq (number : Int) :
    policyOf number = (match Policy.numbered? number with
      | some policy => .ok policy
      | none => .error (.invalidArgument (Policy.badPolicy number))) := by
  unfold policyOf
  split
  · next byte =>
      obtain ⟨size, rfl⟩ := Int.eq_ofNat_of_zero_le byte.1
      have small : size < 256 := by omega
      exact Policy.ofCode_ofNat small
  · next outside =>
      have unknown : Policy.numbered? number = none := by
        rw [Policy.numbered?_eq_none_iff]
        omega
      rw [unknown]

end Boundary

namespace Host

open Engine (Policy)

theorem policyOf_eq (number : Int) :
    policyOf number = (match Policy.numbered? number with
      | some policy => .ok policy
      | none => .error ⟨.invalidArgument, Policy.badPolicy number⟩) := by
  cases known : Policy.numbered? number with
  | some policy =>
      obtain rfl := Policy.numbered?_eq_some_iff.mp known
      cases policy <;> rfl
  | none =>
      have outside := Policy.numbered?_eq_none_iff.mp known
      rw [policyOf, if_neg (by omega), if_neg (by omega), if_neg (by omega)]

end Host

namespace Boundary

open Engine (Policy Session Setting Settings)

/-- The setting that a setter makes; the number of no policy makes none. -/
def Setter.setting? : Setter → Option Setting
  | .home path => some (.home path.path)
  | .policy code => (Policy.numbered? code).map .policy
  | .ephemeral => some .ephemeral

/-- The number of a policy that there is not. -/
def Setter.bad? : Setter → Option Int
  | .policy code => if 0 ≤ code ∧ code ≤ 2 then none else some code
  | _ => none

def firstBad? (setters : List Setter) : Option Int := setters.findSome? Setter.bad?

theorem firstBad?_cons (setter : Setter) (rest : List Setter) :
    firstBad? (setter :: rest) = setter.bad?.or (firstBad? rest) := by
  rw [firstBad?, List.findSome?_cons]
  cases setter.bad? <;> rfl

def badPolicy (code : Int) : Fault := .invalidArgument (Policy.badPolicy code)

theorem Config.choosePolicy_eq (config : Config) (code : Int) :
    config.choosePolicy code = (match Policy.numbered? code with
      | some policy => config.adjust (.policy policy)
      | none => config.remember (badPolicy code)) := by
  rw [choosePolicy, policyOf_eq]
  cases Policy.numbered? code <;> rfl

/-- A setter makes its setting, or else is the fault that is kept if none was kept before. -/
theorem Config.follow_eq (config : Config) (setter : Setter) :
    config.follow setter = {
      settings := setter.setting?.elim config.settings config.settings.adjust
      firstFault := config.firstFault.or (setter.bad?.map badPolicy) } := by
  obtain ⟨settings, firstFault⟩ := config
  cases setter with
  | home path => simp only [follow, adjust, Setter.setting?, Setter.bad?, Option.elim_some,
      Option.map_none, Option.or_none]
  | ephemeral => simp only [follow, adjust, Setter.setting?, Setter.bad?, Option.elim_some,
      Option.map_none, Option.or_none]
  | policy code =>
      rw [follow, choosePolicy_eq]
      by_cases inside : 0 ≤ code ∧ code ≤ 2
      · obtain ⟨policy, known⟩ : ∃ policy, Policy.numbered? code = some policy := by
          apply Option.ne_none_iff_exists'.mp
          exact fun unknown => Policy.numbered?_eq_none_iff.mp unknown inside
        simp only [known, adjust, Setter.setting?, Setter.bad?, if_pos inside, Option.map_some,
          Option.elim_some, Option.map_none, Option.or_none]
      · have unknown := Policy.numbered?_eq_none_iff.mpr inside
        simp only [unknown, remember, Setter.setting?, Setter.bad?, if_neg inside,
          Option.map_none, Option.elim_none, Option.map_some]
        cases firstFault <;> rfl

/-- The settings go on as if no bad number had come; the first of those is kept. -/
theorem Config.foldl_follow (setters : List Setter) (config : Config) :
    setters.foldl follow config = {
      settings := (setters.filterMap Setter.setting?).foldl Settings.adjust config.settings
      firstFault := config.firstFault.or ((firstBad? setters).map badPolicy) } := by
  -- The two halves do not meet: a bad number changes no setting, and a setting mends no fault.
  induction setters generalizing config with
  | nil => rw [List.foldl_nil, firstBad?, List.findSome?_nil, Option.map_none, Option.or_none,
      List.filterMap_nil, List.foldl_nil]
  | cons setter rest ih =>
      rw [List.foldl_cons, ih, follow_eq, List.filterMap_cons, firstBad?_cons, Option.or_assoc,
        Option.map_or]
      cases setter.setting? <;> rfl

theorem setAll_fresh (boundary : Boundary) (setters : List Setter) :
    ∃ configs, boundary.configure.2.setAll boundary.configure.1 setters =
        .done { boundary with configs } ∧
      configs.get? boundary.configure.1 = some {
        settings := Settings.final (setters.filterMap Setter.setting?) boundary.world
        firstFault := (firstBad? setters).map badPolicy } := by
  have new := Arena.get?_alloc_self boundary.configs
    { settings := Settings.initial boundary.world }
  obtain ⟨configs, told, found⟩ := setAll_spec boundary new setters
  rw [Config.foldl_follow, Settings.foldl_adjust_initial, Option.none_or] at found
  exact ⟨configs, told, found⟩

/-- No context, an error that names the number, and nothing is done. -/
structure Refuses (before : Boundary) (slot : ErrorSlot) (code : Int)
    (reply : Reply (Option Nat)) : Prop where
  result : reply.result = none
  after : reply.after = before
  error : ∃ fault text, reply.slot = slot.store fault ∧
    errorStatus (some fault) = .done .invalidArgument ∧ errorText (some fault) = .done text ∧
    text.text = "Invalid argument: Bad IPC policy: " ++ toString code

/-- What the context with this handle tells. -/
structure Tells (boundary : Boundary) (context : Nat) (session : Session) : Prop where
  home : ∃ text, boundary.contextHome (some context) = .done text ∧ text.path = session.home
  policy : boundary.contextPolicy (some context) = .done (session.policy.code.toNat : Int)
  ephemeral : boundary.contextEphemeral (some context) = .done session.ephemeral

/-- The call does what an attempt to start a session did without a boundary: the session is there
and can be asked, or the failure is stored. -/
def Launches (before : Boundary) (slot : ErrorSlot) (reply : Reply (Option Nat)) :
    Except IoFailure Session × World → Prop
  | (.ok session, world) => ∃ context,
      reply = ⟨some context, slot,
        { before with world, contexts := before.contexts.alloc session }⟩ ∧
      reply.after.contexts.get? context = some session ∧ reply.after.Tells context session
  | (.error failure, world) => ∃ text,
      reply = ⟨none, slot.store (.ofIo failure), { before with world }⟩ ∧
      errorStatus (some (.ofIo failure)) = .done .ioError ∧
      errorText (some (.ofIo failure)) = .done text ∧ text.text = failure.message

theorem tells_of_live {boundary : Boundary} {context : Nat} {session : Session}
    (live : boundary.contexts.get? context = some session) (clean : 0 ∉ session.home) :
    boundary.Tells context session :=
  ⟨contextHome_of_live live clean, contextPolicy_of_live live, contextEphemeral_of_live live⟩

variable (boundary : Boundary) (slot : ErrorSlot)

theorem message_badPolicy (code : Int) :
    (badPolicy code).message = "Invalid argument: Bad IPC policy: " ++ toString code := by
  have spelled : (badPolicy code).outermost.message =
      "Invalid argument: " ++ ("Bad IPC policy: " ++ toString code) := rfl
  have free : Text.NulFree (badPolicy code).outermost.message := by
    rw [spelled, Text.nulFree_append_iff, Text.nulFree_append_iff]
    exact ⟨by decide, by decide, Text.nulFree_intString code⟩
  rw [Fault.message_of_nulFree free, spelled, ← String.append_assoc]
  rfl

theorem refuses_start {config : Config} {code : Int}
    (first : config.firstFault = some (badPolicy code)) :
    boundary.Refuses slot code (concludeHandle slot (config.start boundary)) := by
  have started : config.start boundary = (.error (badPolicy code), boundary) := by
    simp only [Config.start, first]
  obtain ⟨text, copied, shown⟩ := errorText_spec (badPolicy code)
  rw [started]
  exact ⟨rfl, rfl, badPolicy code, text, rfl, rfl, copied, shown.trans (message_badPolicy code)⟩

theorem launches_start (config : Config) (sound : config.firstFault = none) :
    boundary.Launches slot (concludeHandle slot (config.start boundary))
      (config.settings.build boundary.world) := by
  simp only [Config.start, sound]
  cases built : config.settings.build boundary.world with
  | mk answer world =>
      cases answer with
      | error failure =>
          have same := Fault.message_ofIo (Settings.clean_of_build built)
          obtain ⟨text, copied, shown⟩ := errorText_spec (.ofIo failure)
          exact ⟨text, rfl, rfl, copied, shown.trans same⟩
      | ok session =>
          have clean := Settings.zero_notMem_home_of_build built
          let after : Boundary :=
            { boundary with world, contexts := boundary.contexts.alloc session }
          have live : after.contexts.get? boundary.contexts.fresh = some session :=
            Arena.get?_alloc_self boundary.contexts session
          exact ⟨boundary.contexts.fresh, rfl, live, tells_of_live live clean⟩

/-- Whatever a new configuration is told, the first number of no policy decides: the build reports
it and does nothing. Otherwise the build starts what the last home, the last policy and the wish for
an ephemeral session come to. On the host's side the same numbers are taken, and the others are
named alike. -/
theorem first_bad_policy_wins :
    (∀ setters, ∃ configs reply,
      boundary.configure.2.setAll boundary.configure.1 setters =
        .done { boundary with configs } ∧
      ({ boundary with configs } : Boundary).buildContext slot (some boundary.configure.1) =
        .done reply ∧
      match firstBad? setters with
      | some code =>
          Refuses { boundary with configs := configs.release boundary.configure.1 } slot code reply
      | none =>
          Launches { boundary with configs := configs.release boundary.configure.1 } slot reply
            ((Settings.final (setters.filterMap Setter.setting?) boundary.world).build
              boundary.world)) ∧
    ∀ code : Int,
      (0 ≤ code ∧ code ≤ 2 → ∃ policy : Policy, (policy.code.toNat : Int) = code ∧
        policyOf code = .ok policy ∧ Host.policyOf code = .ok policy) ∧
      (¬ (0 ≤ code ∧ code ≤ 2) →
        policyOf code = .error (.invalidArgument ("Bad IPC policy: " ++ toString code)) ∧
        Host.policyOf code =
          .error ⟨.invalidArgument, "Bad IPC policy: " ++ toString code⟩) := by
  refine ⟨fun setters => ?_, fun code => ⟨fun inside => ?_, fun outside => ?_⟩⟩
  · obtain ⟨configs, told, found⟩ := setAll_fresh boundary setters
    refine ⟨configs, _, told, buildContext_eq { boundary with configs } found slot, ?_⟩
    cases bad : firstBad? setters with
    | some code =>
        rw [bad] at found
        exact refuses_start _ slot rfl
    | none =>
        rw [bad] at found
        exact launches_start _ slot _ rfl
  · cases known : Policy.numbered? code with
    | none => exact absurd inside (Policy.numbered?_eq_none_iff.mp known)
    | some policy =>
        refine ⟨policy, Policy.numbered?_eq_some_iff.mp known, ?_, ?_⟩
        · rw [policyOf_eq, known]
        · rw [Host.policyOf_eq, known]
  · have unknown := Policy.numbered?_eq_none_iff.mpr outside
    rw [policyOf_eq, Host.policyOf_eq, unknown]
    exact ⟨rfl, rfl⟩

end Boundary

end SessionStreams
