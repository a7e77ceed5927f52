import SessionStreams.Proofs.Ledger
import SessionStreams.Proofs.Homes

set_option autoImplicit false

namespace SessionStreams.Host

open Boundary (Added Outcome Removed Steady)

/-- The object has been closed, released or given up. -/
def Ended (log : List (Action × Answer)) (address : Address) : Prop :=
  ∃ entry ∈ log, entry.1.ends? entry.2 = some address

/-- The stream has been made with the context. -/
def OpenedWith (log : List (Action × Answer)) (context : Nat) (address : Address) : Prop :=
  ∃ entry ∈ log, entry.1.opens? entry.2 = some (context, address)

/-- The context and all streams that have been made with it have ended. -/
def Over (log : List (Action × Answer)) (context : Nat) : Prop :=
  Ended log (.context context) ∧ ∀ address, OpenedWith log context address → Ended log address

section

variable {log : List (Action × Answer)} {action : Action} {answer : Answer}

theorem ended_concat (address : Address) :
    Ended (log ++ [(action, answer)]) address ↔
      Ended log address ∨ action.ends? answer = some address := by
  simp only [Ended, List.mem_append, List.mem_singleton, or_and_right, exists_or, exists_eq_left]

theorem openedWith_concat (context : Nat) (address : Address) :
    OpenedWith (log ++ [(action, answer)]) context address ↔
      OpenedWith log context address ∨ action.opens? answer = some (context, address) := by
  simp only [OpenedWith, List.mem_append, List.mem_singleton, or_and_right, exists_or,
    exists_eq_left]

theorem not_ended_nil (address : Address) : ¬ Ended [] address := by
  rintro ⟨entry, member, -⟩
  cases member

theorem not_openedWith_nil (context : Nat) (address : Address) :
    ¬ OpenedWith [] context address := by
  rintro ⟨entry, member, -⟩
  cases member

theorem ended_concat_of_stays (stays : action.ends? answer = none) (address : Address) :
    Ended (log ++ [(action, answer)]) address ↔ Ended log address := by
  rw [ended_concat, stays]
  simp

theorem openedWith_concat_of_unopened (unopened : action.opens? answer = none) (context : Nat)
    (address : Address) :
    OpenedWith (log ++ [(action, answer)]) context address ↔ OpenedWith log context address := by
  rw [openedWith_concat, unopened]
  simp

/-- An action that ends no object does not end a session. -/
theorem over_of_concat {context : Nat} (stays : action.ends? answer = none)
    (finished : Over (log ++ [(action, answer)]) context) : Over log context := by
  refine ⟨(ended_concat_of_stays stays _).mp finished.1, ?_⟩
  intro address opened
  rw [← ended_concat_of_stays stays]
  exact finished.2 address ((openedWith_concat context address).mpr (Or.inl opened))

end

/-- Only streams are opened. -/
theorem Action.opens?_ne_context {action : Action} {answer : Answer} {context number : Nat} :
    action.opens? answer ≠ some (context, .context number) := by
  intro opens
  cases answer with
  | made new =>
      cases action with
      | context id action => cases action <;> simp [opens?, opening?, ContextAction.opening?] at opens
      | _ => cases opens
  | _ => cases opens

theorem not_openedWith_context (log : List (Action × Answer)) (context number : Nat) :
    ¬ OpenedWith log context (.context number) := by
  rintro ⟨entry, -, opens⟩
  exact Action.opens?_ne_context opens

/-- Those that hold the share are the context and its streams, as far as they have not ended. -/
structure Tracked (log : List (Action × Answer)) (context share : Nat) (held : Holdings) :
    Prop where
  known : held.Known (.context context)
  ended : ∀ address, Ended log address → held.Known address
  opened : ∀ number address, OpenedWith log number address → held.Known address
  own : ∀ other, held.custody.Holds (.context context) other → other = share
  holds : ∀ address, held.custody.Holds address share ↔
    (address = .context context ∨ OpenedWith log context address) ∧ ¬ Ended log address

namespace Tracked

variable {log longer : List (Action × Answer)} {action : Action} {answer : Answer}
  {context share : Nat} {held after : Holdings} {address : Address} {claim : Option Claim}

/-- An object that was not there before has neither ended nor been opened. -/
theorem unlogged (tracked : Tracked log context share held) (fresh : ¬ held.Known address) :
    address ≠ .context context ∧ ¬ Ended log address ∧
      ∀ number, ¬ OpenedWith log number address := by
  refine ⟨?_, fun ended => fresh (tracked.ended address ended),
    fun number opened => fresh (tracked.opened number address opened)⟩
  rintro rfl
  exact fresh tracked.known

/-- The holders of the share are told apart from others by their context. -/
theorem share_iff (tracked : Tracked log context share held) {number other : Nat}
    (given : held.custody.claim? (.context number) = some { share := other }) :
    other = share ↔ number = context := by
  have holds : held.custody.Holds (.context number) other := ⟨_, given, rfl⟩
  constructor
  · rintro rfl
    rcases ((tracked.holds _).mp holds).1 with same | opened
    · exact Address.context.inj same
    · exact absurd opened (not_openedWith_context log context number)
  · rintro rfl
    exact tracked.own other holds

theorem kept (tracked : Tracked log context share held)
    (ended : ∀ other, Ended longer other ↔ Ended log other)
    (opened : ∀ number other, OpenedWith longer number other ↔ OpenedWith log number other)
    (host : Host) : Tracked longer context share { held with host } := by
  refine ⟨tracked.known, ?_, ?_, tracked.own, ?_⟩
  · intro other
    rw [ended]
    exact tracked.ended other
  · intro number other
    rw [opened]
    exact tracked.opened number other
  · intro other
    rw [ended, opened]
    exact tracked.holds other

/-- A step that changes the claim of one object may log what became of that object. -/
theorem renewed (tracked : Tracked log context share held)
    (renewed : held.Renewed after address claim)
    (ended : ∀ other, other ≠ address → (Ended longer other ↔ Ended log other))
    (opened : ∀ number other, other ≠ address →
      (OpenedWith longer number other ↔ OpenedWith log number other))
    (own : address = .context context → claim = none)
    (holds : (∃ new, claim = some new ∧ new.share = share) ↔
      (address = .context context ∨ OpenedWith longer context address) ∧ ¬ Ended longer address) :
    Tracked longer context share after := by
  refine ⟨(renewed.known _).mpr (Or.inr tracked.known), ?_, ?_, ?_, ?_⟩
  · intro other logged
    rw [renewed.known]
    by_cases here : other = address
    · exact Or.inl here
    · exact Or.inr (tracked.ended other ((ended other here).mp logged))
  · intro number other logged
    rw [renewed.known]
    by_cases here : other = address
    · exact Or.inl here
    · exact Or.inr (tracked.opened number other ((opened number other here).mp logged))
  · intro other found
    rw [renewed.custody, Custody.holds_put] at found
    rcases found with ⟨same, new, given, -⟩ | ⟨-, before⟩
    · rw [own same.symm] at given
      cases given
    · exact tracked.own other before
  · intro other
    rw [renewed.custody, Custody.holds_put]
    by_cases here : other = address
    · subst here
      simpa using holds
    · rw [ended other here, opened context other here, ← tracked.holds]
      simp [here]

/-- The share is held until the session is over. -/
theorem held_iff (tracked : Tracked log context share held) :
    (∃ address, held.custody.Holds address share) ↔ ¬ Over log context := by
  simp only [tracked.holds]
  constructor
  · rintro ⟨address, rfl | opened, unended⟩ finished
    · exact unended finished.1
    · exact unended (finished.2 address opened)
  · intro unfinished
    by_cases ended : Ended log (.context context)
    · have lingering : ¬ ∀ address, OpenedWith log context address → Ended log address :=
        fun all => unfinished ⟨ended, all⟩
      push Not at lingering
      obtain ⟨address, opened, unended⟩ := lingering
      exact ⟨address, Or.inr opened, unended⟩
    · exact ⟨_, Or.inl rfl, ended⟩

end Tracked

/-- What a session leaves behind when it begins. -/
theorem Began.spec {settings : Engine.Settings} {address : Address} {before after : Custody}
    (began : Began settings address before after) :
    ∃ session record, after.host.ledger =
        .acquired (.context session) before.host.shares.fresh :: before.host.ledger ∧
      Added (.context session) before.host.boundary after.host.boundary ∧
      after.host.boundary.contexts.get? session = some record ∧
      settings.build before.host.boundary.world = (.ok record, after.host.boundary.world) ∧
      after = before.put address (some { share := before.host.shares.fresh }) after.host := by
  cases began with
  | intro vacant added live built => exact ⟨_, _, rfl, added, live, built, rfl⟩

theorem Tracked.performed {log : List (Action × Answer)} {action : Action} {answer : Answer}
    {context share : Nat} {held after : Holdings} (tracked : Tracked log context share held)
    (bound : share < held.host.shares.fresh) (performed : Performed held action answer after) :
    Tracked (log ++ [(action, answer)]) context share after := by
  cases performed with
  | kept stays unopened moves =>
      exact tracked.kept (ended_concat_of_stays stays) (openedWith_concat_of_unopened unopened) _
  | opened stays opens given fresh renewed moves =>
      rename_i number other address handle
      obtain ⟨apart, unended, unopened⟩ := tracked.unlogged fresh
      apply tracked.renewed renewed
      · exact fun place _ => ended_concat_of_stays stays place
      · intro context place elsewhere
        rw [openedWith_concat, opens]
        simp [Ne.symm elsewhere]
      · exact fun same => absurd same apart
      · rw [ended_concat_of_stays stays, openedWith_concat, opens]
        simp [apart, unended, unopened, tracked.share_iff given]
  | ended ends unopened renewed ebbs =>
      rename_i address
      apply tracked.renewed renewed
      · intro place elsewhere
        rw [ended_concat, ends]
        simp [Ne.symm elsewhere]
      · exact fun number place _ => openedWith_concat_of_unopened unopened number place
      · exact fun _ => rfl
      · rw [ended_concat, ends]
        simp
  | began build made renewed began =>
      subst build made
      obtain ⟨session, record, -, -, -, -, final⟩ := began.spec
      have fresh : ¬ held.Known (.context held.contexts.fresh) := Nat.lt_irrefl _
      obtain ⟨apart, unended, unopened⟩ := tracked.unlogged fresh
      have same := renewed.custody.symm.trans final
      have claim := congrArg (·.claim? (.context held.contexts.fresh)) same
      simp only [Custody.claim?_put, if_true] at claim
      rw [claim] at renewed
      apply tracked.renewed renewed
      · exact fun place _ => ended_concat_of_stays rfl place
      · exact fun number place _ => openedWith_concat_of_unopened rfl number place
      · exact fun same => absurd same apart
      · rw [openedWith_concat_of_unopened rfl]
        have other : held.host.shares.fresh ≠ share := by omega
        simp [apart, unopened, other]

theorem Move.ledger {before after : Custody} (move : Move before after) :
    before.host.ledger <:+ after.host.ledger := by
  cases move with
  | stir steady => exact List.suffix_rfl
  | use owned steady => exact List.suffix_cons _ _
  | ask held shared => exact List.suffix_cons _ _
  | hold held vacant =>
      rw [Custody.host_put, Host.hold]
      split <;> exact List.suffix_rfl
  | take found stream added => exact List.suffix_cons _ _
  | free found removed keeps => exact List.suffix_cons _ _
  | leave found shared more => exact List.suffix_rfl
  | last found shared only live => exact List.suffix_cons _ _

theorem Moves.ledger {before after : Custody} (moves : Moves before after) :
    before.host.ledger <:+ after.host.ledger := by
  induction moves with
  | refl => exact List.suffix_rfl
  | tail _ move ih => exact ih.trans move.ledger

theorem Performed.ledger {held after : Holdings} {action : Action} {answer : Answer}
    (performed : Performed held action answer after) : held.host.ledger <:+ after.host.ledger := by
  cases performed with
  | kept stays unopened moves => exact Moves.ledger moves
  | opened stays opens given fresh renewed moves => exact Moves.ledger moves
  | ended ends unopened renewed ebbs => exact Moves.ledger ebbs.moves
  | began build made renewed began =>
      obtain ⟨session, record, ledger, -⟩ := began.spec
      rw [← Holdings.host_custody after, ledger]
      exact List.suffix_cons _ _

/-- A session that has begun with a share and a record, and may have ended since. -/
structure Founded (session share : Nat) (record : Engine.Session) (custody : Custody) : Prop where
  recorded : Recorded custody
  homed : Homed custody.host.boundary
  acquired : .acquired (.context session) share ∈ custody.host.ledger
  record : ∀ found, custody.host.boundary.contexts.get? session = some found → found = record

theorem kept_founded (session share : Nat) (record : Engine.Session) :
    Kept (Founded session share record) := by
  refine ⟨?_, ?_⟩
  · intro before after move sound founded
    refine ⟨kept_recorded.move move sound founded.recorded,
      kept_homed.move move sound founded.homed, move.ledger.mem founded.acquired, ?_⟩
    intro found live
    exact founded.record found (move.session sound live)
  · intro settings address before after began sound founded
    obtain ⟨new, first, ledger, added, -⟩ := began.spec
    refine ⟨kept_recorded.began began sound founded.recorded,
      kept_homed.began began sound founded.homed, ?_, ?_⟩
    · rw [ledger]
      exact List.mem_cons_of_mem _ founded.acquired
    · intro found live
      have issued := founded.recorded.tallied.issued _ share founded.acquired
      have alive : after.host.boundary.Alive (.context session) := by
        rw [Boundary.Alive, live]
        rfl
      rcases (added.alive _).mp alive with same | before
      · rw [same] at issued
        exact absurd issued added.fresh
      · obtain ⟨old, there⟩ := Option.isSome_iff_exists.mp before
        have same := added.contexts session old there
        rw [live] at same
        cases same
        exact founded.record _ there

namespace Founded

variable {session share : Nat} {record : Engine.Session} {custody : Custody}

theorem shared (founded : Founded session share record custody) {state : Share}
    (shared : custody.host.shares.get? share = some state) : state.session = session :=
  founded.recorded.tallied.orderly.session_unique
    (founded.recorded.opened_of_shared shared).1 founded.acquired

/-- A session is freed just if no object holds its share. -/
theorem freed_iff (founded : Founded session share record custody) (sound : Sound custody) :
    .freed (.context session) ∈ custody.host.ledger ↔ ¬ ∃ address, custody.Holds address share := by
  rw [← sound.shared_iff, Option.not_isSome_iff_eq_none]
  constructor
  · intro freed
    rw [Option.eq_none_iff_forall_ne_some]
    intro state shared
    have opened := founded.recorded.opened_of_shared shared
    rw [founded.shared shared] at opened
    exact opened.2 freed
  · intro unshared
    by_contra unfreed
    obtain ⟨state, shared, -⟩ := (founded.recorded.session session share).mp
      ⟨founded.acquired, unfreed⟩
    rw [unshared] at shared
    cases shared

theorem freed_iff_over {log : List (Action × Answer)} {context : Nat} {held : Holdings}
    (founded : Founded session share record held.custody) (sound : Sound held.custody)
    (tracked : Tracked log context share held) :
    .freed (.context session) ∈ held.host.ledger ↔ Over log context := by
  have freed := founded.freed_iff sound
  rw [tracked.held_iff, not_not] at freed
  exact freed

/-- The session is there until it is freed. -/
theorem live_iff (founded : Founded session share record custody) :
    custody.host.boundary.contexts.get? session = some record ↔
      .freed (.context session) ∉ custody.host.ledger := by
  constructor
  · intro live
    have alive : custody.host.boundary.Alive (.context session) := by
      rw [Boundary.Alive, live]
      rfl
    obtain ⟨other, -, unfreed⟩ := (founded.recorded.tallied.alive_iff _).mp alive
    exact unfreed
  · intro unfreed
    have alive := (founded.recorded.tallied.alive_iff _).mpr ⟨share, founded.acquired, unfreed⟩
    obtain ⟨found, live⟩ := Option.isSome_iff_exists.mp alive
    rw [live, founded.record found live]

/-- While all objects keep their claims, the session has as many holders as before. -/
theorem share_eq {after : Custody} (founded : Founded session share record custody)
    (further : Founded session share record after) (sound : Sound custody) (still : Sound after)
    (same : after.claim? = custody.claim?) :
    after.host.shares.get? share = custody.host.shares.get? share := by
  have holders : after.holders share = custody.holders share := by
    unfold Custody.holders Custody.Holds
    rw [same]
  have there := still.shared_iff share
  have before := sound.shared_iff share
  unfold Custody.Holds at there before
  rw [same, ← before] at there
  cases known : custody.host.shares.get? share with
  | none =>
      rw [known] at there
      simpa using there
  | some state =>
      rw [known] at there
      obtain ⟨other, found⟩ := Option.isSome_iff_exists.mp (there.mpr rfl)
      have count := (still.counted share other found).2
      rw [holders, (sound.counted share state known).2] at count
      have session := (further.shared found).trans (founded.shared known).symm
      rw [found]
      cases other
      cases state
      cases session
      cases count
      rfl

end Founded

theorem Action.ends?_of_opening {action : Action} {new : Nat} {opened : Nat × Address}
    (opens : action.opening? new = some opened) (answer : Answer) : action.ends? answer = none := by
  apply ends?_of_quiet
  cases action with
  | context id action => cases action <;> first | rfl | cases opens
  | _ => cases opens

/-- What a step does to a session that was made with a context, and to its home. -/
structure Passage (log : List (Action × Answer)) (context session share : Nat)
    (record : Engine.Session) (held : Holdings) (action : Action) (answer : Answer)
    (after : Holdings) : Prop where
  /-- The session is freed in the step that ends the last of the objects it lives for. -/
  freed : ∃ events, after.host.ledger = events ++ held.host.ledger ∧
    (.freed (.context session) ∈ events ↔
      ¬ Over log context ∧ Over (log ++ [(action, answer)]) context)
  /-- A stream that could not be made does not keep the session alive. -/
  unmade : ∀ new opened, action.opening? new = some opened → action.opens? answer = none →
    after.host.shares.get? share = held.host.shares.get? share
  /-- A temporary home goes in the same step. -/
  removed : record.ephemeral = true → ¬ Over log context →
    Over (log ++ [(action, answer)]) context →
      after.host.boundary.world.standing? record.home = none
  /-- A lasting home stays, unless it stands inside a temporary one. -/
  stays : record.ephemeral = false →
    (∀ other found, held.host.boundary.contexts.get? other = some found → found.ephemeral = true →
      ¬ held.host.boundary.world.place found.home <+: held.host.boundary.world.place record.home) →
    ∀ node, held.host.boundary.world.standing? record.home = some node →
      after.host.boundary.world.standing? record.home = some node

namespace Performed

variable {log : List (Action × Answer)} {context session share : Nat} {record : Engine.Session}
  {held after : Holdings} {action : Action} {answer : Answer}

/-- No step but one that removes a temporary home takes anything away, and that step only what is
in it. -/
theorem stands (performed : Performed held action answer after) (sound : Sound held.custody)
    (homed : Homed held.host.boundary) {path : Path} {node : Node}
    (outside : ∀ id found, held.host.boundary.contexts.get? id = some found →
      found.ephemeral = true →
        ¬ held.host.boundary.world.place found.home <+: held.host.boundary.world.place path)
    (there : held.host.boundary.world.standing? path = some node) :
    after.host.boundary.world.standing? path = some node := by
  cases performed with
  | kept stays unopened moves => exact stands_of_moves moves sound homed outside there
  | opened stays opens given fresh renewed moves =>
      exact stands_of_moves moves sound homed outside there
  | ended ends unopened renewed ebbs =>
      exact stands_of_moves ebbs.moves sound homed outside there
  | began build made renewed began =>
      obtain ⟨session, record, -, added, -⟩ := began.spec
      have grown := added.world
      rw [World.standing?, ← Holdings.host_custody after, grown.place]
      exact grown.node _ _ there

theorem passage (performed : Performed held action answer after) (sound : Sound held.custody)
    (founded : Founded session share record held.custody)
    (tracked : Tracked log context share held) :
    Passage log context session share record held action answer after := by
  have still := performed.sound sound
  have further := performed.keeps (kept_founded session share record) sound founded
  have bound := founded.recorded.numbered _ share founded.acquired
  have followed := tracked.performed bound performed
  have before := founded.freed_iff_over sound tracked
  have now := further.freed_iff_over still followed
  refine ⟨?_, ?_, ?_, ?_⟩
  · obtain ⟨events, split⟩ := performed.ledger
    have most := further.recorded.tallied.orderly.count_freed_le (.context session)
    refine ⟨events, split.symm, ?_⟩
    rw [← before, ← now, ← split]
    rw [Holdings.host_custody, ← split, List.count_append] at most
    constructor
    · intro inside
      have once := List.count_pos_iff.mpr inside
      refine ⟨?_, List.mem_append_left _ inside⟩
      intro earlier
      have more := List.count_pos_iff.mpr earlier
      omega
    · rintro ⟨unfreed, freed⟩
      exact (List.mem_append.mp freed).resolve_right unfreed
  · intro new opened opens unopened
    have stays := Action.ends?_of_opening opens answer
    apply founded.share_eq further sound still
    cases performed with
    | kept _ _ moves => rfl
    | opened _ made given fresh renewed moves =>
        rw [unopened] at made
        cases made
    | ended ends _ renewed ebbs =>
        rw [stays] at ends
        cases ends
    | began build made renewed began =>
        subst build
        cases opens
  · intro brief living finished
    have live := founded.live_iff.mpr (fun freed => living (before.mp freed))
    have dead : after.host.boundary.contexts.get? session ≠ some record :=
      fun live => further.live_iff.mp live (now.mpr finished)
    have unended (stays : action.ends? answer = none) : False :=
      living (over_of_concat stays finished)
    cases performed with
    | kept stays _ moves => exact (unended stays).elim
    | opened stays made given fresh renewed moves => exact (unended stays).elim
    | ended ends _ renewed ebbs =>
        exact (removed_of_ebbs ebbs sound founded.homed live brief).resolve_left dead
    | began build made renewed began =>
        subst build made
        exact (unended rfl).elim
  · intro lasting outside node there
    exact performed.stands sound founded.homed outside there

end Performed

namespace Holdings

/-- A session is followed through a run. -/
theorem run_tracked {context session share : Nat} {record : Engine.Session}
    {log : List (Action × Answer)} {held : Holdings} (sound : Sound held.custody)
    (founded : Founded session share record held.custody)
    (tracked : Tracked log context share held) (later : List Action) :
    ∃ answers after, held.run later = .done (answers, after) ∧ Sound after.custody ∧
      Founded session share record after.custody ∧
        Tracked (log ++ later.zip answers) context share after := by
  induction later generalizing log held with
  | nil =>
      refine ⟨[], held, rfl, sound, founded, ?_⟩
      rw [List.zip_nil_left, List.append_nil]
      exact tracked
  | cons action rest ih =>
      obtain ⟨answer, middle, done, performed⟩ := perform_spec sound action
      have bound := founded.recorded.numbered _ share founded.acquired
      obtain ⟨answers, after, further, still, kept, followed⟩ :=
        ih (performed.sound sound)
          (performed.keeps (kept_founded session share record) sound founded)
          (tracked.performed bound performed)
      refine ⟨answer :: answers, after, ?_, still, kept, ?_⟩
      · simp only [run, done, Outcome.done_bind, further]
      · rw [List.append_assoc] at followed
        exact followed

/-- What is so when a session has just begun. -/
theorem founded_of_began {held after : Holdings} {config : Config} {context : Nat} {world : World}
    (sound : Sound held.custody) (recorded : Recorded held.custody)
    (homed : Homed held.host.boundary)
    (began : Began (config.settings world) (.context context) held.custody after.custody)
    (known : after.Known (.context context)) :
    ∃ session record, after.host.ledger =
        .acquired (.context session) held.host.shares.fresh :: held.host.ledger ∧
      after.host.boundary.contexts.get? session = some record ∧
      record.ephemeral = config.ephemeral ∧
      Founded session held.host.shares.fresh record after.custody ∧
      Tracked [] context held.host.shares.fresh after := by
  have first := kept_recorded.began began sound recorded
  have second := kept_homed.began began sound homed
  obtain ⟨session, record, ledger, added, live, built, final⟩ := began.spec
  refine ⟨session, record, ledger, live, ?_, ⟨first, second, ?_, ?_⟩, ⟨known, ?_, ?_, ?_, ?_⟩⟩
  · rcases Engine.Settings.build_spec built with ⟨brief, same, -⟩ | ⟨lasting, same, -⟩
    · exact same.trans brief.symm
    · exact same.trans lasting.symm
  · rw [ledger]
    exact List.mem_cons_self
  · intro found also
    rw [live] at also
    exact (Option.some.inj also).symm
  · intro address ended
    exact absurd ended (not_ended_nil address)
  · intro number address opened
    exact absurd opened (not_openedWith_nil number address)
  · intro other holds
    rw [final, Custody.holds_put] at holds
    rcases holds with ⟨-, new, given, same⟩ | ⟨apart, -⟩
    · cases given
      exact same.symm
    · exact absurd rfl apart
  · intro address
    have unheld : ¬ held.custody.Holds address held.host.shares.fresh := by
      intro holds
      have there := sound.shared address _ holds
      rw [host_custody, Arena.get?_fresh] at there
      cases there
    rw [final, Custody.holds_put]
    simp [unheld, not_openedWith_nil, not_ended_nil]

/-- Whatever a program does before and after it builds a context: the session is freed, once, in the
step after which the context has been released or dropped and every stream that was opened with it
has been closed, dropped or consumed. A temporary home stands until that step and goes with it; a
lasting one is never removed, unless it stands inside a temporary one. -/
theorem session_lifetime (world : World) (earlier : List Action) (config : Config) :
    ∃ answers before, (start world).run earlier = .done (answers, before) ∧
    ∃ answer built, before.perform (.build config) = .done (answer, built) ∧
    ∀ context, answer = .made context →
    ∃ session share record,
      built.host.ledger = .acquired (.context session) share :: before.host.ledger ∧
      built.host.boundary.contexts.get? session = some record ∧
      record.ephemeral = config.ephemeral ∧
      ∀ later, ∃ answers held, built.run later = .done (answers, held) ∧
        (.freed (.context session) ∈ held.host.ledger ↔ Over (later.zip answers) context) ∧
        held.host.ledger.count (.freed (.context session)) ≤ 1 ∧
        (record.ephemeral = true → ¬ Over (later.zip answers) context →
          held.host.boundary.world.standing? record.home = some .directory) ∧
        ∀ action, ∃ answer after, held.perform action = .done (answer, after) ∧
          Passage (later.zip answers) context session share record held action answer after := by
  have kept : Kept fun custody => Recorded custody ∧ Homed custody.host.boundary :=
    ⟨fun move sound both =>
        ⟨kept_recorded.move move sound both.1, kept_homed.move move sound both.2⟩,
      fun began sound both =>
        ⟨kept_recorded.began began sound both.1, kept_homed.began began sound both.2⟩⟩
  obtain ⟨answers, before, ran, sound, recorded, homed⟩ :=
    run_spec kept (sound_start world) ⟨recorded_start world, homed_start world⟩ earlier
  obtain ⟨answer, built, done, performed, made⟩ := performBuild_spec before config
  refine ⟨answers, before, ran, answer, built, done, ?_⟩
  intro context given
  obtain ⟨known, began⟩ := made context given
  obtain ⟨session, record, ledger, live, ephemeral, founded, tracked⟩ :=
    founded_of_began sound recorded homed began known
  refine ⟨session, before.host.shares.fresh, record, ledger, live, ephemeral, ?_⟩
  intro later
  obtain ⟨answers, held, ran, still, kept, followed⟩ :=
    run_tracked (began.sound sound) founded tracked later
  rw [List.nil_append] at followed
  have finished := kept.freed_iff_over still followed
  refine ⟨answers, held, ran, finished, kept.recorded.tallied.orderly.count_freed_le _, ?_, ?_⟩
  · intro brief living
    have live := kept.live_iff.mpr (fun freed => living (finished.mp freed))
    exact kept.homed.standing live brief
  · intro action
    obtain ⟨answer, after, done, performed⟩ := perform_spec still action
    exact ⟨answer, after, done, performed.passage still kept followed⟩

/-- A reader keeps the session of a released context until it is closed. -/
example :
    let world : World :=
      { workingDirectory := [], homeVariable := [], temporaryVariable := [47], tree := .empty }
    let actions : List Action :=
      [.build { ephemeral := true }, .context 0 (.readerOverBytes [1]), .context 0 .release,
        .reader 0 .close]
    (((start world).run actions).bind fun result => .done (result.1, result.2.host.ledger)) =
      .done ([.made 0, .made 0, .nothing, .nothing],
        [.freed (.context 0), .freed (.reader 0), .acquired (.reader 0) 0,
          .acquired (.context 0) 0]) := by
  decide +kernel

end Holdings

end SessionStreams.Host
