import SessionStreams.Proofs.Neighbours

set_option autoImplicit false

namespace SessionStreams

open Boundary (Outcome)

/-- All that goes on in one world: a host program with what is behind its boundary, where others may
have handles too, and sessions without a boundary. -/
structure Scene where
  held : Host.Holdings
  own : Arena Engine.Session := {}

/-- What happens next. -/
inductive Deed where
  /-- The host program acts. -/
  | act (action : Host.Action)
  /-- A session is started without a boundary. -/
  | start (settings : Engine.Settings)
  | finish (id : Nat)
  /-- Whatever becomes of configurations behind the boundary. -/
  | configure (configs : Arena Boundary.Config)
  | build (slot : Boundary.ErrorSlot) (config : Nat)
  | free (context : Nat)
  /-- Anything else in the world, but random names are not drawn twice. -/
  | change (world : World)

/-- No stream of the host program has a part in it. -/
def Deed.Streamless : Deed → Prop
  | .act (.reader _ _) => False
  | .act (.writer _ _) => False
  | _ => True

namespace Scene

abbrev boundary (scene : Scene) : Boundary := scene.held.host.boundary

abbrev world (scene : Scene) : World := scene.boundary.world

def session? (scene : Scene) : Holder → Option Engine.Session := living scene.own scene.boundary

def withBoundary (scene : Scene) (boundary : Boundary) : Scene :=
  { scene with held := { scene.held with host := { scene.held.host with boundary } } }

/-- The host program has a share in the session. -/
def shares (scene : Scene) (session : Nat) : Bool :=
  scene.held.host.shares.cells.any fun cell => cell.any fun state => state.session == session

/-- Handles that are not there, or that are not the caller's, are left alone. -/
def take (scene : Scene) : Deed → Outcome Scene
  | .act action => do
      let (_, held) ← scene.held.perform action
      .done { scene with held }
  | .start settings =>
      match settings.build scene.world with
      | (.error _, world) => .done (scene.withBoundary { scene.boundary with world })
      | (.ok session, world) => .done { scene.withBoundary { scene.boundary with world } with
          own := scene.own.alloc session }
  | .finish id =>
      match scene.own.get? id with
      | none => .done scene
      | some session =>
          .done { scene.withBoundary { scene.boundary with world := session.close scene.world } with
            own := scene.own.release id }
  | .configure configs => .done (scene.withBoundary { scene.boundary with configs })
  | .build slot config =>
      match scene.boundary.configs.get? config with
      | none => .done scene
      | some _ => do
          let reply ← scene.boundary.buildContext slot (some config)
          .done (scene.withBoundary reply.after)
  | .free context =>
      if scene.shares context then .done scene
      else
        match scene.boundary.contexts.get? context with
        | none => .done scene
        | some _ => do
            let boundary ← scene.boundary.freeContext (some context)
            .done (scene.withBoundary boundary)
  | .change world =>
      .done (scene.withBoundary { scene.boundary with
        world := { world with drawn := max world.drawn scene.world.drawn } })

def proceed (scene : Scene) : List Deed → Outcome Scene
  | [] => .done scene
  | deed :: rest => do
      let after ← scene.take deed
      after.proceed rest

def start (world : World) : Scene := { held := .start world }

/-- Custody is sound, and all temporary homes are told apart. -/
structure Orderly (scene : Scene) : Prop where
  sound : Host.Sound scene.held.custody
  distinct : Distinct scene.world scene.session?

/-- Nothing has become of the world but for the tree and what a stream did that took part in the
deed. -/
structure Beside (before : Scene) (deed : Deed) (after : Scene) : Prop where
  frame : deed.Streamless → after.world = { before.world with tree := after.world.tree }
  stream : ∀ action address, deed = .act action → action.address? = some address →
    ∀ spot, Host.Part.spot spot ∉ before.held.changes address →
      after.world.at? spot = before.world.at? spot

/-- Just that session has ended. -/
structure Ends (before : Scene) (deed : Deed) (holder : Holder) (session : Engine.Session)
    (after : Scene) : Prop extends Beside before deed after where
  tree : after.world.tree = (session.close before.world).tree
  others : ∀ other, other ≠ holder → after.session? other = before.session? other

/-- Another session than the one that ended, with everything in its home. -/
structure Untouched (before : Scene) (ended : Engine.Session) (holder : Holder)
    (session : Engine.Session) (after : Scene) : Prop where
  alive : after.session? holder = some session
  /-- Neither home was made inside the other. -/
  contents : ¬ before.world.place ended.home <+: session.base before.world →
    ¬ before.world.place session.home <+: ended.base before.world →
      ∀ other, before.world.place session.home <+: other →
        after.world.tree.node? other = before.world.tree.node? other
  /-- The way to the home did not go through the other home. -/
  found : (∀ other ∈ before.world.way session.home, ¬ before.world.place ended.home <+: other) →
    before.world.isDirectory session.home = true → after.world.isDirectory session.home = true

/-- What a deed does to the sessions of a scene. -/
structure Passes (before : Scene) (deed : Deed) (after : Scene) : Prop where
  orderly : after.Orderly
  ends : ∀ holder session, before.session? holder = some session →
    after.session? holder = none → before.Ends deed holder session after

variable {before after scene : Scene} {deed : Deed}

theorem Passes.of_kept (orderly : after.Orderly) (kept : ∀ holder session,
    before.session? holder = some session → after.session? holder = some session) :
    before.Passes deed after := by
  refine ⟨orderly, fun holder session live gone => ?_⟩
  cases (kept holder session live).symm.trans gone

theorem Passes.of_ended (quiet : ∀ action, deed ≠ .act action) (orderly : after.Orderly)
    {holder : Holder} {session : Engine.Session} (live : before.session? holder = some session)
    (world : after.world = session.close before.world)
    (others : ∀ other, other ≠ holder → after.session? other = before.session? other) :
    before.Passes deed after := by
  refine ⟨orderly, fun other found there gone => ?_⟩
  obtain rfl : other = holder := by
    by_contra apart
    cases there.symm.trans ((others other apart).symm.trans gone)
  obtain rfl := Option.some.inj (there.symm.trans live)
  refine ⟨⟨fun _ => ?_, fun action _ acts => absurd acts (quiet action)⟩,
    congrArg World.tree world, others⟩
  rw [world, found.close_frame]

theorem shares_of_shared {share : Nat} {state : Host.Share}
    (shared : scene.held.host.shares.get? share = some state) :
    scene.shares state.session = true := by
  have cell := Option.join_eq_some_iff.mp shared
  exact List.any_eq_true.mpr ⟨some state, List.mem_of_getElem? cell, beq_self_eq_true _⟩

theorem orderly_withBoundary (orderly : scene.Orderly) {world : World}
    {configs : Arena Boundary.Config} {contexts : Arena Engine.Session}
    {own : Arena Engine.Session}
    (kept : ∀ share state, scene.held.host.shares.get? share = some state → ∀ record,
      scene.boundary.contexts.get? state.session = some record →
        contexts.get? state.session = some record)
    (distinct : Distinct world (living own { scene.boundary with world, configs, contexts })) :
    Orderly { scene.withBoundary { scene.boundary with world, configs, contexts } with own } :=
  ⟨orderly.sound.with_contexts world configs kept, distinct⟩

section

variable (orderly : scene.Orderly)

include orderly

theorem passes_act (action : Host.Action) : ∃ after, scene.take (.act action) = .done after ∧
    scene.Passes (.act action) after := by
  obtain ⟨answer, held, done, performed⟩ := Host.Holdings.perform_spec orderly.sound action
  have distinct := performed.keeps (Host.kept_distinct scene.own) orderly.sound orderly.distinct
  refine ⟨{ scene with held }, ?_, ⟨performed.sound orderly.sound, distinct⟩,
    fun holder session live gone => ?_⟩
  · simp only [take, done, Outcome.done_bind]
  cases holder with
  | own id => cases live.symm.trans gone
  | handle id =>
      obtain ⟨⟨address, ending⟩, contexts, tree⟩ :=
        Host.Holdings.ended_perform orderly.sound done live gone
      have on := Host.Action.on_of_ending ending
      refine ⟨⟨fun streamless => ?_, fun asked other same addressed spot aside => ?_⟩, tree,
        fun other apart => ?_⟩
      · cases action with
        | build config => cases ending
        | context number asked =>
            cases on.address
            obtain ⟨-, -, -, -, -, tree, world⟩ :=
              Host.Holdings.endContext_frame orderly.sound ending done
            have same : held.world.tree = tree := congrArg World.tree world
            rw [← same] at world
            exact world
        | reader number asked => exact streamless.elim
        | writer number asked => exact streamless.elim
      · cases same
        cases on.address.symm.trans addressed
        have acted := Host.Holdings.acted_perform orderly.sound on done
        exact acted.confined.stays _ aside
      · cases other with
        | own other => rfl
        | handle other =>
            refine (congrArg (·.get? other) contexts).trans (Arena.get?_release_ne _ ?_)
            exact fun same => apart (congrArg Holder.handle same)

theorem passes_start (settings : Engine.Settings) :
    ∃ after, scene.take (.start settings) = .done after ∧
      scene.Passes (.start settings) after := by
  have grown := settings.grows_build scene.world
  cases built : settings.build scene.world with
  | mk answer world =>
      rw [built] at grown
      cases answer with
      | error failure =>
          have done : scene.take (.start settings) =
              .done (scene.withBoundary { scene.boundary with world }) := by
            simp only [take, built]
          refine ⟨_, done, Passes.of_kept ?_ fun _ _ live => live⟩
          exact orderly_withBoundary orderly (fun _ _ _ _ live => live)
            (orderly.distinct.fewer grown.drawn fun _ _ live => live)
      | ok session =>
          have done : scene.take (.start settings) =
              .done { scene.withBoundary { scene.boundary with world } with
                own := scene.own.alloc session } := by
            simp only [take, built]
          have new : living (scene.own.alloc session) { scene.boundary with world }
              (.own scene.own.fresh) = some session := Arena.get?_alloc_self scene.own session
          refine ⟨_, done, Passes.of_kept ?_ fun holder found live => ?_⟩
          · refine orderly_withBoundary orderly (fun _ _ _ _ live => live)
              (orderly.distinct.begun built new fun other apart => ?_)
            cases other with
            | own id =>
                refine (Arena.get?_alloc _ _ id).trans (if_neg ?_)
                exact fun same => apart (congrArg Holder.own same)
            | handle id => rfl
          · cases holder with
            | own id => exact Arena.get?_alloc_of_get? session live
            | handle id => exact live

theorem passes_finish (id : Nat) :
    ∃ after, scene.take (.finish id) = .done after ∧ scene.Passes (.finish id) after := by
  cases live : scene.own.get? id with
  | none => exact ⟨scene, by simp only [take, live], Passes.of_kept orderly fun _ _ live => live⟩
  | some session =>
      have done : scene.take (.finish id) =
          .done { scene.withBoundary
              { scene.boundary with world := session.close scene.world } with
            own := scene.own.release id } := by
        simp only [take, live]
      have drawn : scene.world.drawn ≤ (session.close scene.world).drawn := by
        rw [session.close_frame]
      have mine : scene.session? (.own id) = some session := live
      refine ⟨_, done,
        Passes.of_ended (fun _ => Deed.noConfusion) ?_ mine rfl fun other apart => ?_⟩
      · refine orderly_withBoundary orderly (fun _ _ _ _ live => live)
          (orderly.distinct.fewer drawn fun holder found there => ?_)
        cases holder with
        | own other => exact Arena.get?_of_release there
        | handle other => exact there
      · cases other with
        | own other =>
            exact Arena.get?_release_ne _ fun same => apart (congrArg Holder.own same)
        | handle other => rfl

theorem passes_build (slot : Boundary.ErrorSlot) (config : Nat) :
    ∃ after, scene.take (.build slot config) = .done after ∧
      scene.Passes (.build slot config) after := by
  cases live : scene.boundary.configs.get? config with
  | none => exact ⟨scene, by simp only [take, live], Passes.of_kept orderly fun _ _ live => live⟩
  | some asked =>
      let used : Boundary :=
        { scene.boundary with configs := scene.boundary.configs.release config }
      have done : scene.take (.build slot config) =
          .done (scene.withBoundary (asked.start used).2) := by
        simp only [take, live, Boundary.buildContext_eq _ live, Outcome.done_bind,
          Host.concludeHandle_after, used]
      have grown := asked.settings.grows_build scene.world
      refine ⟨_, done, ?_⟩
      rcases asked.start_cases used with
        ⟨fault, started⟩ | ⟨failure, world, built, started⟩ | ⟨session, world, built, started⟩
      · rw [started]
        refine Passes.of_kept ?_ fun _ _ live => live
        exact orderly_withBoundary orderly (fun _ _ _ _ live => live) orderly.distinct
      · rw [started]
        rw [built] at grown
        refine Passes.of_kept ?_ fun _ _ live => live
        exact orderly_withBoundary orderly (fun _ _ _ _ live => live)
          (orderly.distinct.fewer grown.drawn fun _ _ live => live)
      · rw [started]
        let after : Boundary :=
          { used with world, contexts := scene.boundary.contexts.alloc session }
        have new : living scene.own after (.handle scene.boundary.contexts.fresh) =
            some session := Arena.get?_alloc_self scene.boundary.contexts session
        refine Passes.of_kept ?_ fun holder found live => ?_
        · refine orderly_withBoundary orderly
            (fun _ _ _ _ live => Arena.get?_alloc_of_get? session live)
            (orderly.distinct.begun built new fun other apart => ?_)
          cases other with
          | own id => rfl
          | handle id =>
              refine (Arena.get?_alloc _ _ id).trans (if_neg ?_)
              exact fun same => apart (congrArg Holder.handle same)
        · cases holder with
          | own id => exact live
          | handle id => exact Arena.get?_alloc_of_get? session live

theorem passes_free (context : Nat) :
    ∃ after, scene.take (.free context) = .done after ∧ scene.Passes (.free context) after := by
  cases foreign : scene.shares context with
  | true =>
      exact ⟨scene, by simp only [take, foreign, if_true],
        Passes.of_kept orderly fun _ _ live => live⟩
  | false =>
      cases live : scene.boundary.contexts.get? context with
      | none =>
          exact ⟨scene, by simp only [take, foreign, live, Bool.false_eq_true, if_false],
            Passes.of_kept orderly fun _ _ live => live⟩
      | some session =>
          have done : scene.take (.free context) = .done (scene.withBoundary
              { scene.boundary with
                world := session.close scene.world
                contexts := scene.boundary.contexts.release context }) := by
            simp only [take, foreign, live, Bool.false_eq_true, if_false, Boundary.freeContext,
              Outcome.live, Outcome.done_bind]
          have drawn : scene.world.drawn ≤ (session.close scene.world).drawn := by
            rw [session.close_frame]
          have mine : scene.session? (.handle context) = some session := live
          refine ⟨_, done,
            Passes.of_ended (fun _ => Deed.noConfusion) ?_ mine rfl fun other apart => ?_⟩
          · refine orderly_withBoundary orderly (fun share state shared record known => ?_)
              (orderly.distinct.fewer drawn fun holder found there => ?_)
            · refine (Arena.get?_release_ne _ fun same => ?_).trans known
              cases (same ▸ shares_of_shared shared).symm.trans foreign
            · cases holder with
              | own other => exact there
              | handle other => exact Arena.get?_of_release there
          · cases other with
            | own other => rfl
            | handle other =>
                exact Arena.get?_release_ne _ fun same => apart (congrArg Holder.handle same)

end

/-- Every deed is done, and the sessions are as they should be. -/
theorem take_spec (orderly : scene.Orderly) (deed : Deed) :
    ∃ after, scene.take deed = .done after ∧ scene.Passes deed after := by
  cases deed with
  | act action => exact passes_act orderly action
  | start settings => exact passes_start orderly settings
  | finish id => exact passes_finish orderly id
  | configure configs =>
      refine ⟨_, rfl, Passes.of_kept ?_ fun _ _ live => live⟩
      exact orderly_withBoundary orderly (fun _ _ _ _ live => live) orderly.distinct
  | build slot config => exact passes_build orderly slot config
  | free context => exact passes_free orderly context
  | change world =>
      refine ⟨_, rfl, Passes.of_kept ?_ fun _ _ live => live⟩
      exact orderly_withBoundary orderly (fun _ _ _ _ live => live)
        (orderly.distinct.fewer (Nat.le_max_right _ _) fun _ _ live => live)

theorem gone_of_finish {id : Nat} (taken : scene.take (.finish id) = .done after) :
    after.session? (.own id) = none := by
  cases live : scene.own.get? id with
  | none =>
      simp only [take, live] at taken
      cases taken
      exact live
  | some session =>
      simp only [take, live] at taken
      cases taken
      exact Arena.get?_release_self scene.own id

theorem gone_of_free {context : Nat} (foreign : scene.shares context = false)
    (taken : scene.take (.free context) = .done after) :
    after.session? (.handle context) = none := by
  cases live : scene.boundary.contexts.get? context with
  | none =>
      simp only [take, foreign, live, Bool.false_eq_true, if_false] at taken
      cases taken
      exact live
  | some session =>
      simp only [take, foreign, live, Bool.false_eq_true, if_false, Boundary.freeContext,
        Outcome.live, Outcome.done_bind] at taken
      cases taken
      exact Arena.get?_release_self scene.boundary.contexts context

theorem orderly_start (world : World) : (start world).Orderly := by
  have nobody (holder : Holder) : (start world).session? holder = none := by
    cases holder <;> rfl
  refine ⟨Host.Holdings.sound_start world, fun holder session live => ?_,
    fun one two first second number live _ _ _ => ?_⟩
  · cases (nobody holder).symm.trans live
  · cases (nobody one).symm.trans live

/-- All deeds are done, whatever they are. -/
theorem proceed_spec (orderly : scene.Orderly) (deeds : List Deed) :
    ∃ after, scene.proceed deeds = .done after ∧ after.Orderly := by
  induction deeds generalizing scene with
  | nil => exact ⟨scene, rfl, orderly⟩
  | cons deed rest ih =>
      obtain ⟨middle, taken, passes⟩ := take_spec orderly deed
      obtain ⟨after, proceeded, still⟩ := ih passes.orderly
      exact ⟨after, by rw [proceed, taken, Outcome.done_bind, proceeded], still⟩

section

variable {one two : Holder} {first second : Engine.Session}

/-- The end of an ephemeral session takes its home away, and nothing else. -/
theorem Ends.vacated (orderly : before.Orderly) (live : before.session? one = some first)
    (brief : first.ephemeral = true) (ends : before.Ends deed one first after) :
    before.world.Vacated first.home after.world := by
  obtain ⟨number, -, drew⟩ := orderly.distinct.drew live brief
  exact (drew.vacated before.world).congr ends.tree

variable (orderly : scene.Orderly) (firstLive : scene.session? one = some first)
  (firstBrief : first.ephemeral = true) (secondLive : scene.session? two = some second)
  (secondBrief : second.ephemeral = true) (different : two ≠ one)

include orderly firstLive firstBrief secondLive secondBrief different

/-- Two ephemeral sessions that are alive have homes in different places. -/
theorem place_ne : scene.world.place first.home ≠ scene.world.place second.home := by
  obtain ⟨number, -, mine⟩ := orderly.distinct.drew firstLive firstBrief
  obtain ⟨another, -, theirs⟩ := orderly.distinct.drew secondLive secondBrief
  intro same
  obtain rfl := mine.eq_of_place theirs scene.world same
  exact different (orderly.distinct.apart one two first second number firstLive secondLive mine
    theirs).symm

/-- What is in one temporary home is not in another, unless one was made inside the other. -/
theorem not_below {other : Location}
    (outside : ¬ scene.world.place first.home <+: second.base scene.world)
    (beside : ¬ scene.world.place second.home <+: first.base scene.world)
    (inside : scene.world.place second.home <+: other) :
    ¬ scene.world.place first.home <+: other := by
  have apart := place_ne orderly firstLive firstBrief secondLive secondBrief different
  obtain ⟨number, -, mine⟩ := orderly.distinct.drew firstLive firstBrief
  obtain ⟨another, -, theirs⟩ := orderly.distinct.drew secondLive secondBrief
  obtain ⟨parent, here⟩ := mine.place scene.world
  obtain ⟨above, there⟩ := theirs.place scene.world
  rw [here, there] at apart
  simp only [Engine.Session.base, here, there, List.dropLast_concat] at outside beside
  rw [here]
  rw [there] at inside
  intro both
  rcases List.prefix_or_prefix_of_prefix both inside with within | within
  · rcases List.prefix_concat_iff.mp within with same | nested
    · exact apart same
    · exact outside nested
  · rcases List.prefix_concat_iff.mp within with same | nested
    · exact apart same.symm
    · exact beside nested

theorem Ends.untouched (ends : scene.Ends deed one first after) :
    scene.Untouched first two second after := by
  have vacated := ends.vacated orderly firstLive firstBrief
  refine ⟨(ends.others two different).trans secondLive, fun outside beside other inside => ?_,
    fun clear directory => ?_⟩
  · exact vacated.outside other (not_below orderly firstLive firstBrief secondLive secondBrief
      different outside beside inside)
  · obtain ⟨number, -, -, -, base, rooted, home⟩ :=
      orderly.distinct.drew secondLive secondBrief
    have removable := World.isDirectory_iff.mp directory
    rw [home] at removable clear ⊢
    refine World.isDirectory_of_way rooted removable fun other passed node there => ?_
    exact (vacated.outside other (clear other passed)).trans there

end

/-- Ephemeral sessions leave no trace. In every layer, settings with `ephemeral` among them start a
session with one fresh empty directory as its home, whatever home was set before or after, or they
change nothing. In every scene, a deed that ends such a session removes its home with all that is in
it, and nothing else. The homes of two of them are in different places, and the end of one leaves
the other as it was, with everything in its home if neither was made inside the other. -/
theorem ephemeral_leaves_no_trace :
    (∀ (world : World) (start : Engine.Settings) (settings : List Engine.Setting),
      .ephemeral ∈ settings →
        world.Provides ((settings.foldl Engine.Settings.adjust start).build world) ∧
        ∀ home, { settings.foldl Engine.Settings.adjust start with home }.build world =
          (settings.foldl Engine.Settings.adjust start).build world) ∧
    (∀ (boundary : Boundary) (id : Nat) (config : Boundary.Config)
        (setters : List Boundary.Setter), boundary.configs.get? id = some config →
      .ephemeral ∈ setters → ∃ told, boundary.setAll id setters = .done told ∧
        told = { boundary with configs := told.configs } ∧
        ∀ (world : World) (slot : Boundary.ErrorSlot), ∃ reply,
          ({ told with world } : Boundary).buildContext slot (some id) = .done reply ∧
            ({ told with world } : Boundary).Provides reply) ∧
    (∀ (host : Host) (start : Host.Config) (settings : List Engine.Setting),
      .ephemeral ∈ settings → ∃ result,
        (settings.foldl Host.Config.adjust start).build host = .done result ∧
          host.Provides result) ∧
    ∀ (world : World) (deeds : List Deed), ∃ scene, (start world).proceed deeds = .done scene ∧
      ∀ deed, ∃ after, scene.take deed = .done after ∧
        (∀ id, deed = .finish id → after.session? (.own id) = none) ∧
        (∀ id, deed = .free id → scene.shares id = false → after.session? (.handle id) = none) ∧
        ∀ one first, scene.session? one = some first → first.ephemeral = true →
          (after.session? one = none →
            scene.world.Vacated first.home after.world ∧ scene.Beside deed after) ∧
          ∀ two second, scene.session? two = some second → second.ephemeral = true → two ≠ one →
            scene.world.place first.home ≠ scene.world.place second.home ∧
            (after.session? one = none → scene.Untouched first two second after) := by
  refine ⟨fun world start settings asked => ?_, fun boundary id config setters live asked => ?_,
    fun host start settings asked => ?_, fun world deeds => ?_⟩
  · have brief := Engine.Settings.ephemeral_foldl asked start
    exact ⟨Engine.Settings.provides_build brief world,
      fun home => Engine.Settings.build_with_home brief home world⟩
  · obtain ⟨configs, told, found⟩ := boundary.setAll_spec live setters
    have brief := Boundary.Config.ephemeral_foldl asked config
    refine ⟨_, told, rfl, fun world slot => ?_⟩
    exact Boundary.provides_buildContext { boundary with world, configs } found brief slot
  · exact Host.Config.provides_build (Host.Config.ephemeral_foldl asked start) host
  · obtain ⟨scene, proceeded, orderly⟩ := proceed_spec (orderly_start world) deeds
    refine ⟨scene, proceeded, fun deed => ?_⟩
    obtain ⟨after, taken, passes⟩ := take_spec orderly deed
    refine ⟨after, taken, fun id same => gone_of_finish (same ▸ taken),
      fun id same foreign => gone_of_free foreign (same ▸ taken),
      fun one first firstLive firstBrief => ⟨fun gone => ?_,
        fun two second secondLive secondBrief different => ⟨?_, fun gone => ?_⟩⟩⟩
    · have ends := passes.ends one first firstLive gone
      exact ⟨ends.vacated orderly firstLive firstBrief, ends.toBeside⟩
    · exact place_ne orderly firstLive firstBrief secondLive secondBrief different
    · have ends := passes.ends one first firstLive gone
      exact ends.untouched orderly firstLive firstBrief secondLive secondBrief different

/-- Two ephemeral sessions of different layers, one of which ends. -/
example :
    let world : World :=
      { workingDirectory := [], homeVariable := [], temporaryVariable := [47], tree := .empty }
    let deeds : List Deed :=
      [.start { home := [47, 97], ephemeral := true }, .act (.build { ephemeral := true }),
        .finish 0]
    (((start world).proceed deeds).bind fun scene =>
      .done (scene.world.isDirectory (world.temporaryPath 0),
        scene.world.isDirectory (world.temporaryPath 1))) = .done (false, true) := by
  decide +kernel

end Scene

end SessionStreams
