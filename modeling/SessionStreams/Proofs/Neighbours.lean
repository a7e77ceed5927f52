import SessionStreams.Proofs.Handovers
import SessionStreams.Proofs.Temporary

set_option autoImplicit false

/- Sessions side by side. Temporary homes are told apart by the random names that they were given
(`Distinct`), whatever a host program does (`kept_distinct`), and an action with which a session is
gone has ended that session and no other (`ended_perform`). -/

namespace SessionStreams

open World (temporaryName)

namespace Engine.Session

/-- The session has a home of its own, with the random name of that number. -/
def Drew (session : Session) (number : Nat) : Prop :=
  session.ephemeral = true ∧ session.temporary = some session.home ∧
    ∃ base : Path, base.rooted = true ∧ session.home = base.join (temporaryName number)

def Lasting (session : Session) : Prop := session.ephemeral = false ∧ session.temporary = none

variable {session other : Session} {number another : Nat}

theorem Drew.place (drew : session.Drew number) (world : World) :
    ∃ parent, world.place session.home = parent ++ [temporaryName number] := by
  obtain ⟨-, -, base, rooted, home⟩ := drew
  rw [home, (World.place_join_temporaryName rooted number world).2]
  exact ⟨_, rfl⟩

theorem Drew.eq_of_place (drew : session.Drew number) (also : other.Drew another) (world : World)
    (same : world.place session.home = world.place other.home) : number = another := by
  obtain ⟨parent, one⟩ := drew.place world
  obtain ⟨above, two⟩ := also.place world
  rw [one, two] at same
  have names := congrArg List.getLast? same
  rw [List.getLast?_concat, List.getLast?_concat] at names
  exact World.temporaryName_injective (Option.some.inj names)

theorem Drew.vacated (drew : session.Drew number) (world : World) :
    world.Vacated session.home (session.close world) := by
  obtain ⟨-, temporary, base, rooted, home⟩ := drew
  exact World.vacated_close rooted home temporary world

/-- The end of a session concerns the tree only. -/
theorem close_frame (session : Session) (world : World) :
    session.close world = { world with tree := (session.close world).tree } := by
  cases temporary : session.temporary with
  | none => simp only [close, temporary]
  | some path =>
      rw [World.close_of_temporary temporary world]
      split <;> rfl

/-- A session that was started has a lasting home or a new name. -/
theorem lasting_or_drew {settings : Settings} {world after : World}
    (built : settings.build world = (.ok session, after)) :
    session.Lasting ∨ ∃ number, world.drawn ≤ number ∧ number < after.drawn ∧
      session.Drew number := by
  rcases Settings.build_spec built with ⟨-, brief, made, temporary⟩ | ⟨-, lasting, -, -, homeless⟩
  · obtain ⟨number, middle, later, home, -, rfl⟩ := World.makeTemporary_spec made
    exact Or.inr ⟨number, later, Nat.lt_succ_self number, brief, temporary,
      world.temporaryBase, world.rooted_temporaryBase, home⟩
  · exact Or.inl ⟨lasting, homeless⟩

end Engine.Session

/-- The one that a session was started for: a caller without a boundary, or one with a handle. -/
inductive Holder where
  | own (id : Nat)
  | handle (id : Nat)
deriving DecidableEq

/-- The sessions of all layers. -/
def living (own : Arena Engine.Session) (boundary : Boundary) : Holder → Option Engine.Session
  | .own id => own.get? id
  | .handle id => boundary.contexts.get? id

/-- Every session has a lasting home, or a temporary one with a name that no other has and that is
not drawn again. -/
structure Distinct (world : World) (living : Holder → Option Engine.Session) : Prop where
  kind : ∀ holder session, living holder = some session →
    session.Lasting ∨ ∃ number, number < world.drawn ∧ session.Drew number
  apart : ∀ one two first second number, living one = some first → living two = some second →
    first.Drew number → second.Drew number → one = two

namespace Distinct

variable {world after : World} {living later : Holder → Option Engine.Session}

theorem drew (distinct : Distinct world living) {holder : Holder} {session : Engine.Session}
    (alive : living holder = some session) (brief : session.ephemeral = true) :
    ∃ number, number < world.drawn ∧ session.Drew number := by
  refine (distinct.kind holder session alive).resolve_left fun lasting => ?_
  exact Bool.false_ne_true (lasting.1.symm.trans brief)

theorem lt_drawn (distinct : Distinct world living) {holder : Holder} {session : Engine.Session}
    (alive : living holder = some session) {number : Nat} (drew : session.Drew number) :
    number < world.drawn := by
  obtain ⟨same, below, also⟩ := distinct.drew alive drew.1
  obtain rfl : number = same := drew.eq_of_place also world rfl
  exact below

/-- Sessions may end, and names may be drawn. -/
theorem fewer (distinct : Distinct world living) (drawn : world.drawn ≤ after.drawn)
    (fewer : ∀ holder session, later holder = some session → living holder = some session) :
    Distinct after later := by
  refine ⟨fun holder session alive => ?_, fun one two first second number here there => ?_⟩
  · refine (distinct.kind holder session (fewer holder session alive)).imp_right ?_
    exact fun ⟨number, below, drew⟩ => ⟨number, Nat.lt_of_lt_of_le below drawn, drew⟩
  · exact distinct.apart one two first second number (fewer one first here)
      (fewer two second there)

/-- A session may begin. -/
theorem begun (distinct : Distinct world living) {settings : Engine.Settings}
    {session : Engine.Session} (built : settings.build world = (.ok session, after))
    {holder : Holder} (new : later holder = some session)
    (others : ∀ other, other ≠ holder → later other = living other) : Distinct after later := by
  have drawn : world.drawn ≤ after.drawn := by
    have grown := settings.grows_build world
    rw [built] at grown
    exact grown.drawn
  have earlier {other : Holder} {found : Engine.Session} (alive : later other = some found) :
      (other = holder ∧ found = session) ∨ living other = some found := by
    by_cases same : other = holder
    · rw [same, new] at alive
      exact Or.inl ⟨same, (Option.some.inj alive).symm⟩
    · exact Or.inr ((others other same).symm.trans alive)
  -- The name of the new session was not drawn before, that of any other was.
  have unlike {other : Holder} {found : Engine.Session} (alive : living other = some found)
      {number : Nat} (mine : session.Drew number) (theirs : found.Drew number) : False := by
    have below := distinct.lt_drawn alive theirs
    rcases Engine.Session.lasting_or_drew built with lasting | ⟨fresh, above, -, also⟩
    · exact Bool.false_ne_true (lasting.1.symm.trans mine.1)
    · obtain rfl : number = fresh := mine.eq_of_place also world rfl
      exact absurd below (Nat.not_lt.mpr above)
  refine ⟨fun other found alive => ?_, fun one two first second number here there => ?_⟩
  · rcases earlier alive with ⟨-, rfl⟩ | before
    · refine (Engine.Session.lasting_or_drew built).imp_right ?_
      exact fun ⟨number, _, below, drew⟩ => ⟨number, below, drew⟩
    · refine (distinct.kind other found before).imp_right ?_
      exact fun ⟨number, below, drew⟩ => ⟨number, Nat.lt_of_lt_of_le below drawn, drew⟩
  · intro mine theirs
    rcases earlier here with ⟨rfl, rfl⟩ | before
    · rcases earlier there with ⟨rfl, -⟩ | also
      · rfl
      · exact (unlike also mine theirs).elim
    · rcases earlier there with ⟨rfl, rfl⟩ | also
      · exact (unlike before theirs mine).elim
      · exact distinct.apart one two first second number before also mine theirs

end Distinct

namespace Host

open Boundary (Added)

/-- Whatever a host does, the homes stay apart from each other and from those of others. -/
theorem kept_distinct (own : Arena Engine.Session) : Kept fun custody =>
    Distinct custody.host.boundary.world (living own custody.host.boundary) := by
  refine ⟨fun {before after} move sound distinct => ?_, fun began sound distinct => ?_⟩
  · rcases move.sessions sound with ⟨grows, same⟩ | ⟨id, record, -, contexts, world⟩
    · refine distinct.fewer grows.drawn fun holder session alive => ?_
      cases holder with
      | own id => exact alive
      | handle id => exact (same id).symm.trans alive
    · have drawn : after.host.boundary.world.drawn = before.host.boundary.world.drawn := by
        rw [world, record.close_frame]
      refine distinct.fewer (Nat.le_of_eq drawn.symm) fun holder session alive => ?_
      cases holder with
      | own id => exact alive
      | handle other =>
          simp only [living, contexts] at alive
          exact Arena.get?_of_release alive
  · cases began with
    | @intro session record after vacant added live built =>
        have new : living own after (.handle session) = some record := live
        refine distinct.begun built new fun other apart => ?_
        cases other with
        | own id => rfl
        | handle id =>
            refine added.contexts_of_ne fun same => apart ?_
            cases same
            rfl

/-- A session that was issued is this one for as long as it is alive. At most one share is of it,
and without that share nothing ends it. -/
structure Tied (id : Nat) (record : Engine.Session) (owner : Option Nat) (custody : Custody) :
    Prop where
  issued : custody.host.boundary.Issued (.context id)
  same : ∀ found, custody.host.boundary.contexts.get? id = some found → found = record
  shared : ∀ share state, custody.host.shares.get? share = some state →
    (state.session = id ↔ owner = some share)
  known : ∀ share, owner = some share → share < custody.host.shares.fresh
  unowned : owner = none → custody.host.boundary.contexts.get? id = some record

section

variable {id : Nat} {record : Engine.Session} {owner : Option Nat} {before after : Custody}

/-- What is needed to stay tied: shares keep their sessions, and a session without one stays. -/
theorem Tied.next (tied : Tied id record owner before)
    (issued : before.host.boundary.Issued (.context id) → after.host.boundary.Issued (.context id))
    (shares : ∀ share state, after.host.shares.get? share = some state →
      ∃ old, before.host.shares.get? share = some old ∧ old.session = state.session)
    (fresh : after.host.shares.fresh = before.host.shares.fresh)
    (fewer : ∀ found, after.host.boundary.contexts.get? id = some found →
      before.host.boundary.contexts.get? id = some found)
    (stays : owner = none → before.host.boundary.contexts.get? id = some record →
      after.host.boundary.contexts.get? id = some record) : Tied id record owner after := by
  refine ⟨issued tied.issued, fun found there => tied.same found (fewer found there), ?_, ?_, ?_⟩
  · intro share state shared
    obtain ⟨old, before, same⟩ := shares share state shared
    rw [← same]
    exact tied.shared share old before
  · intro share owned
    rw [fresh]
    exact tied.known share owned
  · exact fun nobody => stays nobody (tied.unowned nobody)

theorem Tied.same_shares (tied : Tied id record owner before)
    (issued : before.host.boundary.Issued (.context id) → after.host.boundary.Issued (.context id))
    (shares : after.host.shares = before.host.shares)
    (same : after.host.boundary.contexts.get? id = before.host.boundary.contexts.get? id) :
    Tied id record owner after := by
  refine tied.next issued (fun share state shared => ?_) (congrArg Arena.fresh shares)
    (fun _ there => same.symm.trans there) fun _ there => same.trans there
  rw [shares] at shared
  exact ⟨state, shared, rfl⟩

/-- Counting the holders of a share anew does not change its session. -/
theorem Tied.recount (tied : Tied id record owner before) {share : Nat} {state : Share}
    (shared : before.host.shares.get? share = some state) (count : Nat)
    (counted : after.host = { before.host with
      shares := before.host.shares.set share { state with holders := count } }) :
    Tied id record owner after := by
  refine tied.next ?_ (fun other found there => ?_) ?_ ?_ ?_
  · rw [counted]
    exact fun issued => issued
  · rw [counted] at there
    by_cases here : other = share
    · rw [here, Arena.get?_set_self _ shared] at there
      cases there
      exact ⟨state, here ▸ shared, rfl⟩
    · rw [Arena.get?_set_ne _ _ here] at there
      exact ⟨found, there, rfl⟩
  · rw [counted, Arena.fresh_set]
  · rw [counted]
    exact fun _ there => there
  · rw [counted]
    exact fun _ there => there

theorem kept_tied (id : Nat) (record : Engine.Session) (owner : Option Nat) :
    Kept (Tied id record owner) := by
  refine ⟨fun {before after} move sound tied => ?_, fun began sound tied => ?_⟩
  · cases move with
    | stir steady =>
        exact tied.same_shares (steady.issued _).mpr rfl (congrArg (·.get? id) steady.contexts)
    | use owned steady =>
        exact tied.same_shares (steady.issued _).mpr rfl (congrArg (·.get? id) steady.contexts)
    | ask held shared => exact tied.same_shares (fun issued => issued) rfl rfl
    | hold held vacant =>
        obtain ⟨state, shared⟩ := sound.exists_share held
        exact tied.recount shared (state.holders + 1) (Sound.hold_eq shared)
    | take found stream added =>
        exact tied.same_shares (fun issued => (added.issued _).mpr (Or.inr issued)) rfl
          (added.contexts_of_ne (stream.context_ne id))
    | free found removed keeps =>
        have stream := sound.stream _ _ (Custody.owns_of_claim found)
        exact tied.same_shares (removed.issued _).mpr rfl
          (removed.contexts_of_ne (stream.context_ne id))
    | leave found shared more => exact tied.recount shared _ rfl
    | @last address share state ended found shared only live =>
        refine tied.next (fun issued => ?_) ?_ (Arena.fresh_release _ _) ?_ ?_
        · exact issued.trans_eq (Arena.fresh_release _ _).symm
        · exact fun _ state there => ⟨state, Arena.get?_of_release there, rfl⟩
        · exact fun _ there => Arena.get?_of_release there
        · intro unowned there
          have apart : id ≠ state.session := fun same => by
            cases ((tied.shared share state shared).mp same.symm).symm.trans unowned
          exact (Arena.get?_release_ne _ apart).trans there
  · cases began with
    | @intro session started after vacant added live built =>
        have apart : session ≠ id := fun same => added.fresh (same ▸ tied.issued)
        have still := added.contexts_of_ne fun same => apart (Handle.context.inj same).symm
        refine ⟨(added.issued _).mpr (Or.inr tied.issued), fun found there => ?_, ?_, ?_, ?_⟩
        · exact tied.same found (still.symm.trans there)
        · intro other state there
          simp only [Custody.host_put, note, Arena.get?_alloc] at there
          split at there
          · rename_i newest
            cases there
            refine ⟨fun same => absurd same apart, fun owned => ?_⟩
            exact absurd (tied.known other owned) (newest ▸ Nat.lt_irrefl _)
          · exact tied.shared other state there
        · intro share owned
          simp only [Custody.host_put, note, Arena.fresh_alloc]
          exact Nat.lt_succ_of_lt (tied.known share owned)
        · exact fun unowned => still.trans (tied.unowned unowned)

/-- A session is tied to the share that it has, if it has one. -/
theorem Sound.exists_tied {custody : Custody} (sound : Sound custody)
    (live : custody.host.boundary.contexts.get? id = some record) :
    ∃ owner, Tied id record owner custody ∧
      ∀ share, owner = some share → (custody.host.shares.get? share).isSome := by
  have issued : custody.host.boundary.Issued (.context id) := Arena.lt_fresh_of_get? live
  have same (found : Engine.Session)
      (there : custody.host.boundary.contexts.get? id = some found) : found = record :=
    Option.some.inj (there.symm.trans live)
  by_cases owned : ∃ share state, custody.host.shares.get? share = some state ∧ state.session = id
  · obtain ⟨share, state, shared, here⟩ := owned
    refine ⟨some share, ⟨issued, same, fun other also there => ?_, ?_, fun unowned => ?_⟩, ?_⟩
    · constructor
      · intro too
        exact congrArg some (sound.apart share other state also shared there (here.trans too.symm))
      · intro equal
        obtain rfl := Option.some.inj equal
        rw [shared] at there
        obtain rfl := Option.some.inj there
        exact here
    · intro other equal
      obtain rfl := Option.some.inj equal
      exact Arena.lt_fresh_of_get? shared
    · cases unowned
    · intro other equal
      obtain rfl := Option.some.inj equal
      rw [shared]
      rfl
  · refine ⟨none, ⟨issued, same, fun other also there => ⟨fun too => ?_, fun equal => ?_⟩, ?_,
      fun _ => live⟩, ?_⟩
    · exact absurd ⟨other, also, there, too⟩ owned
    · cases equal
    · intro other equal
      cases equal
    · intro other equal
      cases equal

end

/-- An action that ends no object ends no session. -/
theorem Performed.session_stays {held after : Holdings} {action : Action} {answer : Answer}
    (performed : Performed held action answer after) (sound : Sound held.custody) {id : Nat}
    {record : Engine.Session} (live : held.host.boundary.contexts.get? id = some record)
    (stays : action.ends? answer = none) : after.host.boundary.contexts.get? id = some record := by
  obtain ⟨owner, tied, owned⟩ := Sound.exists_tied sound live
  have still := performed.keeps (kept_tied id record owner) sound tied
  have later := performed.sound sound
  cases mine : owner with
  | none => exact still.unowned mine
  | some share =>
      obtain ⟨address, holds⟩ := (sound.shared_iff share).mp (owned share mine)
      have keeps : after.custody.Holds address share := by
        have known : ∀ other, ¬ held.Known other → address ≠ other := by
          rintro other unknown rfl
          exact Custody.not_holds_of_vacant (Holdings.claim?_of_unknown unknown) share holds
        cases performed with
        | kept => exact holds
        | opened _ _ _ fresh renewed _ =>
            rw [renewed.custody, Custody.holds_put]
            exact Or.inr ⟨known _ fresh, holds⟩
        | ended ends =>
            rw [stays] at ends
            cases ends
        | began _ _ renewed _ =>
            rw [renewed.custody, Custody.holds_put]
            exact Or.inr ⟨known _ (Nat.lt_irrefl _), holds⟩
      obtain ⟨state, shared⟩ := later.exists_share keeps
      obtain ⟨found, there, -⟩ := later.session share state shared
      rw [(still.shared share state shared).mpr mine] at there
      rw [← still.same found there]
      exact there

/-- An action with which a session is gone has ended it, and no other. -/
theorem Holdings.ended_perform {held after : Holdings} {action : Action} {answer : Answer}
    (sound : Sound held.custody) (done : held.perform action = .done (answer, after)) {id : Nat}
    {record : Engine.Session} (live : held.host.boundary.contexts.get? id = some record)
    (gone : after.host.boundary.contexts.get? id = none) :
    (∃ address, action.ending? = some address) ∧
      after.host.boundary.contexts = held.host.boundary.contexts.release id ∧
      after.world.tree = (record.close held.world).tree := by
  obtain ⟨_, _, also, performed⟩ := perform_spec sound action
  rw [done] at also
  cases also
  have unkept {contexts : Arena Engine.Session} (same : after.host.boundary.contexts = contexts) :
      contexts.get? id ≠ some record := by
    rw [← same, gone]
    intro present
    cases present
  have ended : action.ends? answer ≠ none := fun stays =>
    unkept rfl (performed.session_stays sound live stays)
  obtain ⟨address, ends⟩ := Option.ne_none_iff_exists'.mp ended
  have ending : action.ending? = some address := by
    unfold Action.ends? at ends
    split at ends
    · cases ends
    · exact ends
  have sessions := (acted_perform sound (Action.on_of_ending ending) done).sessions
  cases given : held.gives action with
  | none =>
      rw [given] at sessions
      exact absurd live (unkept (congrArg (·.2.1) sessions))
  | some share =>
      rw [given] at sessions
      have holds : held.custody.Holds address share := by
        rw [gives, ending, Option.bind_some, Option.map_eq_some_iff] at given
        obtain ⟨claim, found, same⟩ := given
        exact ⟨claim, found, same⟩
      obtain ⟨state, shared⟩ := sound.exists_share holds
      obtain ⟨found, there, -⟩ := sound.session share state shared
      rw [host_custody] at shared there
      have parted := parted_eq shared there
      by_cases only : state.holders ≤ 1
      · rw [if_pos only] at parted
        simp only [remaining, Host.sessions, parted] at sessions
        obtain ⟨tree, contexts, -⟩ : _ ∧ _ ∧ _ := by simpa only [Prod.mk.injEq] using sessions
        have same : id = state.session := by
          by_contra apart
          exact unkept contexts ((Arena.get?_release_ne _ apart).trans live)
        rw [same, there] at live
        cases live
        exact ⟨⟨address, ending⟩, same ▸ contexts, tree⟩
      · rw [if_neg only] at parted
        simp only [remaining, Host.sessions, parted] at sessions
        exact absurd live (unkept (congrArg (·.2.1) sessions))

/-- The handles behind the boundary may change as far as no object of the host has them. -/
theorem Sound.with_contexts {custody : Custody} (sound : Sound custody) (world : World)
    (configs : Arena Boundary.Config) {contexts : Arena Engine.Session}
    (kept : ∀ share state, custody.host.shares.get? share = some state → ∀ record,
      custody.host.boundary.contexts.get? state.session = some record →
        contexts.get? state.session = some record) :
    Sound { custody with host := { custody.host with
      boundary := { custody.host.boundary with world, configs, contexts } } } := by
  refine ⟨sound.counted, sound.shared, fun share state shared => ?_, sound.apart,
    fun address handle owned => ?_, sound.exclusive, sound.stream⟩
  · obtain ⟨record, live, clean⟩ := sound.session share state shared
    exact ⟨record, kept share state shared record live, clean⟩
  · have alive := sound.alive address handle owned
    cases handle with
    | context id => exact (sound.stream address _ owned).elim
    | reader id => exact alive
    | writer id => exact alive

end Host

end SessionStreams
