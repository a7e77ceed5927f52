import Mathlib.Logic.Function.Basic
import Mathlib.Data.Set.Card
import Mathlib.Logic.Relation
import SessionStreams.Proofs.Handles
import SessionStreams.Proofs.Sessions
import SessionStreams.Host.Holdings

set_option autoImplicit false

/- What each object of a host program has a claim to, and the moves by which claims change hands.
Main statement: every move keeps custody sound (`Move.sound`, `Began.sound`): the count of a share
is the number of objects that claim it, and a claimed handle is alive and claimed by one object
only. -/

namespace SessionStreams.Host

open Boundary (Added Removed Steady)

def Handle.IsStream : Handle → Prop
  | .context _ => False
  | .reader _ => True
  | .writer _ => True

theorem Handle.IsStream.context_ne {handle : Handle} (isStream : handle.IsStream) (id : Nat) :
    Handle.context id ≠ handle := by
  rintro rfl
  exact isStream

theorem Handle.isStream_reader (id : Nat) : (Handle.reader id).IsStream := trivial

theorem Handle.isStream_writer (id : Nat) : (Handle.writer id).IsStream := trivial

/-- An object's share of a session, and the handle of its stream. -/
structure Claim where
  share : Nat
  handle : Option Handle := none

/-- A claim without a stream, or none at all. -/
def Bare (claim : Option Claim) : Prop := ∀ found, claim = some found → found.handle = none

theorem bare_none : Bare none := by
  intro found given
  cases given

theorem bare_share (share : Nat) : Bare (some { share }) := by
  intro found given
  cases given
  rfl

structure Custody where
  host : Host
  claim? : Address → Option Claim

namespace Custody

/-- Replaces the claim of one object. -/
def put (custody : Custody) (address : Address) (claim : Option Claim) (host : Host) : Custody :=
  { host, claim? := Function.update custody.claim? address claim }

def Holds (custody : Custody) (address : Address) (share : Nat) : Prop :=
  ∃ claim, custody.claim? address = some claim ∧ claim.share = share

def Owns (custody : Custody) (address : Address) (handle : Handle) : Prop :=
  ∃ claim, custody.claim? address = some claim ∧ claim.handle = some handle

def holders (custody : Custody) (share : Nat) : Set Address :=
  { address | custody.Holds address share }

end Custody

/-- One step of the host's work on behalf of its objects. -/
inductive Move : Custody → Custody → Prop where
  /-- The world changes, or something without a handle. -/
  | stir {custody : Custody} {after : Boundary} (steady : Steady custody.host.boundary after) :
      Move custody { custody with host := { custody.host with boundary := after } }
  /-- A stream is read, written or flushed. -/
  | use {custody : Custody} {address : Address} {handle : Handle} {after : Boundary}
      (owned : custody.Owns address handle) (steady : Steady custody.host.boundary after) :
      Move custody
        { custody with host := { custody.host with boundary := after }.note (.used handle) }
  /-- A session is asked something. -/
  | ask {custody : Custody} {address : Address} {share : Nat} {state : Share}
      (held : custody.Holds address share)
      (shared : custody.host.shares.get? share = some state) :
      Move custody { custody with host := custody.host.note (.used (.context state.session)) }
  /-- A new object gets a share that another has. -/
  | hold {custody : Custody} {source address : Address} {share : Nat}
      (held : custody.Holds source share) (vacant : custody.claim? address = none) :
      Move custody (custody.put address (some { share }) (custody.host.hold share))
  /-- An object with a share gets a new stream. -/
  | take {custody : Custody} {address : Address} {share : Nat} {handle : Handle}
      {after : Boundary} (found : custody.claim? address = some { share })
      (stream : handle.IsStream) (added : Added handle custody.host.boundary after) :
      Move custody (custody.put address (some { share, handle := some handle })
        ({ custody.host with boundary := after }.note (.acquired handle share)))
  /-- A stream is freed. -/
  | free {custody : Custody} {address : Address} {share : Nat} {handle : Handle}
      {after : Boundary} (found : custody.claim? address = some { share, handle := some handle })
      (removed : Removed handle custody.host.boundary after)
      (keeps : custody.host.boundary.world.Keeps after.world) :
      Move custody (custody.put address (some { share })
        ({ custody.host with boundary := after }.note (.freed handle)))
  /-- An object gives up a share that others have. -/
  | leave {custody : Custody} {address : Address} {share : Nat} {state : Share}
      (found : custody.claim? address = some { share })
      (shared : custody.host.shares.get? share = some state) (more : 1 < state.holders) :
      Move custody (custody.put address none
        { custody.host with
          shares := custody.host.shares.set share { state with holders := state.holders - 1 } })
  /-- The last object with a share gives it up, and the session ends. -/
  | last {custody : Custody} {address : Address} {share : Nat} {state : Share}
      {record : Engine.Session} (found : custody.claim? address = some { share })
      (shared : custody.host.shares.get? share = some state) (only : state.holders ≤ 1)
      (live : custody.host.boundary.contexts.get? state.session = some record) :
      Move custody (custody.put address none
        ({ custody.host with
          boundary := { custody.host.boundary with
            world := record.close custody.host.boundary.world
            contexts := custody.host.boundary.contexts.release state.session }
          shares := custody.host.shares.release share }.note (.freed (.context state.session))))

/-- A session begins: an object gets a new share of it. -/
inductive Began (settings : Engine.Settings) (address : Address) : Custody → Custody → Prop where
  | intro {custody : Custody} {session : Nat} {record : Engine.Session} {after : Boundary}
      (vacant : custody.claim? address = none)
      (added : Added (.context session) custody.host.boundary after)
      (live : after.contexts.get? session = some record)
      (built : settings.build custody.host.boundary.world = (.ok record, after.world)) :
      Began settings address custody
        (custody.put address (some { share := custody.host.shares.fresh })
          ({ custody.host with
            boundary := after
            shares := custody.host.shares.alloc { session, holders := 1 } }.note
              (.acquired (.context session) custody.host.shares.fresh)))

/-- Every claim is good, and shares are counted right. -/
structure Sound (custody : Custody) : Prop where
  counted : ∀ share state, custody.host.shares.get? share = some state →
    0 < state.holders ∧ (custody.holders share).ncard = state.holders
  shared : ∀ address share, custody.Holds address share →
    (custody.host.shares.get? share).isSome
  session : ∀ share state, custody.host.shares.get? share = some state →
    ∃ record, custody.host.boundary.contexts.get? state.session = some record ∧ 0 ∉ record.home
  apart : ∀ share other state otherState, custody.host.shares.get? share = some state →
    custody.host.shares.get? other = some otherState → state.session = otherState.session →
      share = other
  alive : ∀ address handle, custody.Owns address handle → custody.host.boundary.Alive handle
  exclusive : ∀ address other handle, custody.Owns address handle → custody.Owns other handle →
    address = other
  stream : ∀ address handle, custody.Owns address handle → handle.IsStream

namespace Custody

variable {custody : Custody} {address : Address} {claim : Option Claim} {host : Host}

@[simp] theorem host_put : (custody.put address claim host).host = host := rfl

theorem claim?_put (other : Address) :
    (custody.put address claim host).claim? other =
      if other = address then claim else custody.claim? other :=
  Function.update_apply custody.claim? address claim other

theorem holds_put (other : Address) (share : Nat) :
    (custody.put address claim host).Holds other share ↔
      (other = address ∧ ∃ new, claim = some new ∧ new.share = share) ∨
        (other ≠ address ∧ custody.Holds other share) := by
  unfold Holds
  rw [claim?_put]
  by_cases here : other = address <;> simp [here]

theorem owns_put (other : Address) (handle : Handle) :
    (custody.put address claim host).Owns other handle ↔
      (other = address ∧ ∃ new, claim = some new ∧ new.handle = some handle) ∨
        (other ≠ address ∧ custody.Owns other handle) := by
  unfold Owns
  rw [claim?_put]
  by_cases here : other = address <;> simp [here]

/-- An object whose claim is without a stream owns nothing. -/
theorem owns_of_put_bare (bare : Bare claim) {other : Address} {handle : Handle}
    (owned : (custody.put address claim host).Owns other handle) :
    other ≠ address ∧ custody.Owns other handle := by
  rcases (owns_put other handle).mp owned with ⟨-, new, given, mine⟩ | kept
  · rw [bare new given] at mine
    cases mine
  · exact kept

theorem Holds.unique {share other : Nat} (held : custody.Holds address share)
    (also : custody.Holds address other) : share = other := by
  obtain ⟨claim, found, rfl⟩ := held
  obtain ⟨same, again, rfl⟩ := also
  rw [found] at again
  cases again
  rfl

theorem holds_of_claim {claim : Claim} (found : custody.claim? address = some claim) :
    custody.Holds address claim.share :=
  ⟨claim, found, rfl⟩

theorem not_holds_of_vacant (vacant : custody.claim? address = none) (share : Nat) :
    ¬ custody.Holds address share := by
  rintro ⟨claim, found, -⟩
  rw [vacant] at found
  cases found

theorem not_owns_of_vacant (vacant : custody.claim? address = none) (handle : Handle) :
    ¬ custody.Owns address handle := by
  rintro ⟨claim, found, -⟩
  rw [vacant] at found
  cases found

theorem owns_of_claim {share : Nat} {handle : Handle}
    (found : custody.claim? address = some { share, handle := some handle }) :
    custody.Owns address handle :=
  ⟨_, found, rfl⟩

/-- A claim that changes but for its share has the same holders. -/
theorem holds_put_same (host : Host) {old new : Claim}
    (found : custody.claim? address = some old) (same : new.share = old.share) (other : Address)
    (share : Nat) :
    (custody.put address (some new) host).Holds other share ↔ custody.Holds other share := by
  rw [holds_put]
  by_cases here : other = address
  · subst here
    simp [Holds, found, same]
  · simp [here]

theorem holders_put_of_ne {share : Nat} (before : ¬ custody.Holds address share)
    (after : ∀ new, claim = some new → new.share ≠ share) :
    (custody.put address claim host).holders share = custody.holders share := by
  ext other
  simp only [holders, Set.mem_ofPred_eq, holds_put]
  constructor
  · rintro (⟨-, new, given, same⟩ | ⟨-, held⟩)
    · exact absurd same (after new given)
    · exact held
  · intro held
    have apart : other ≠ address := by
      rintro rfl
      exact before held
    exact Or.inr ⟨apart, held⟩

theorem holders_put_some {share : Nat} :
    (custody.put address (some { share }) host).holders share =
      insert address (custody.holders share) := by
  ext other
  simp only [holders, Set.mem_ofPred_eq, holds_put, Set.mem_insert_iff]
  by_cases here : other = address <;> simp [here]

theorem holders_put_none (share : Nat) :
    (custody.put address none host).holders share = custody.holders share \ {address} := by
  ext other
  simp only [holders, Set.mem_ofPred_eq, holds_put, Set.mem_sdiff, Set.mem_singleton_iff]
  by_cases here : other = address <;> simp [here]

end Custody

namespace Sound

variable {custody : Custody} {address : Address} {share : Nat}

theorem exists_share (sound : Sound custody) (held : custody.Holds address share) :
    ∃ state, custody.host.shares.get? share = some state :=
  Option.isSome_iff_exists.mp (sound.shared address share held)

theorem finite_holders (sound : Sound custody) {state : Share}
    (shared : custody.host.shares.get? share = some state) : (custody.holders share).Finite := by
  have counted := sound.counted share state shared
  apply Set.finite_of_ncard_pos
  omega

/-- A share is there just as long as an object holds it. -/
theorem shared_iff (sound : Sound custody) (share : Nat) :
    (custody.host.shares.get? share).isSome ↔ ∃ address, custody.Holds address share := by
  constructor
  · intro there
    obtain ⟨state, shared⟩ := Option.isSome_iff_exists.mp there
    have counted := sound.counted share state shared
    have inhabited : (custody.holders share).Nonempty := by
      rw [← Set.ncard_pos (sound.finite_holders shared)]
      omega
    exact inhabited
  · rintro ⟨address, held⟩
    exact sound.shared address share held

/-- The world and the streams may change under custody while no handle comes or goes. -/
theorem steady (sound : Sound custody) {host : Host}
    (steady : Steady custody.host.boundary host.boundary)
    (shares : host.shares = custody.host.shares) : Sound { custody with host } := by
  refine ⟨?_, ?_, ?_, ?_, ?_, sound.exclusive, sound.stream⟩
  · rw [shares]
    exact sound.counted
  · rw [shares]
    exact sound.shared
  · rw [shares, steady.contexts]
    exact sound.session
  · rw [shares]
    exact sound.apart
  · intro address handle owned
    exact (steady.alive handle).mpr (sound.alive address handle owned)

theorem exclusive_put_bare (sound : Sound custody) {claim : Option Claim} {host : Host}
    (bare : Bare claim) (one two : Address) (handle : Handle)
    (first : (custody.put address claim host).Owns one handle)
    (second : (custody.put address claim host).Owns two handle) : one = two :=
  sound.exclusive one two handle (Custody.owns_of_put_bare bare first).2
    (Custody.owns_of_put_bare bare second).2

theorem stream_put_bare (sound : Sound custody) {claim : Option Claim} {host : Host}
    (bare : Bare claim) (other : Address) (handle : Handle)
    (owned : (custody.put address claim host).Owns other handle) : handle.IsStream :=
  sound.stream other handle (Custody.owns_of_put_bare bare owned).2

/-- An object without a stream comes to a share or leaves it, which is then counted anew. -/
theorem recount (sound : Sound custody) {claim : Option Claim} {state : Share} (count : Nat)
    (shared : custody.host.shares.get? share = some state)
    (before : ∀ other, custody.Holds address other → other = share)
    (after : ∀ new, claim = some new → new = { share }) (positive : 0 < count)
    (counted : ((custody.put address claim custody.host).holders share).ncard = count) :
    Sound (custody.put address claim { custody.host with
      shares := custody.host.shares.set share { state with holders := count } }) := by
  generalize recounted : ({ custody.host with
    shares := custody.host.shares.set share { state with holders := count } } : Host) = host
  have boundary : host.boundary = custody.host.boundary := by rw [← recounted]
  have lookup (other : Nat) : host.shares.get? other =
      if other = share then some { state with holders := count }
      else custody.host.shares.get? other := by
    have inside := Arena.lt_fresh_of_get? shared
    rw [← recounted]
    simp only [Arena.get?_set]
    by_cases here : other = share <;> simp [here, inside]
  have earlier (number : Nat) (found : Share) (there : host.shares.get? number = some found) :
      ∃ old, custody.host.shares.get? number = some old ∧ old.session = found.session := by
    rw [lookup] at there
    by_cases here : number = share
    · subst here
      rw [if_pos rfl] at there
      cases there
      exact ⟨state, shared, rfl⟩
    · rw [if_neg here] at there
      exact ⟨found, there, rfl⟩
  have bare : Bare claim := by
    intro new given
    rw [after new given]
  refine ⟨?_, ?_, ?_, ?_, ?_, sound.exclusive_put_bare bare, sound.stream_put_bare bare⟩
  · intro other found there
    rw [Custody.host_put, lookup] at there
    by_cases here : other = share
    · subst here
      rw [if_pos rfl] at there
      cases there
      exact ⟨positive, counted⟩
    · rw [if_neg here] at there
      rw [Custody.holders_put_of_ne (fun held => here (before other held))]
      · exact sound.counted other found there
      · intro new given
        rw [after new given]
        exact Ne.symm here
  · intro other number held
    rw [Custody.host_put, lookup]
    by_cases here : number = share
    · rw [if_pos here]
      rfl
    · rw [if_neg here]
      rcases (Custody.holds_put other number).mp held with ⟨-, new, given, same⟩ | ⟨-, kept⟩
      · rw [after new given] at same
        exact absurd same.symm here
      · exact sound.shared other number kept
  · intro number found there
    obtain ⟨old, known, same⟩ := earlier number found there
    rw [Custody.host_put, boundary, ← same]
    exact sound.session number old known
  · intro one two first second oneThere twoThere same
    obtain ⟨oneOld, oneKnown, oneSame⟩ := earlier one first oneThere
    obtain ⟨twoOld, twoKnown, twoSame⟩ := earlier two second twoThere
    apply sound.apart one two oneOld twoOld oneKnown twoKnown
    rw [oneSame, twoSame, same]
  · intro other handle owned
    rw [Custody.host_put, boundary]
    exact sound.alive other handle (Custody.owns_of_put_bare bare owned).2

theorem hold_eq {host : Host} {state : Share} (shared : host.shares.get? share = some state) :
    host.hold share = { host with
      shares := host.shares.set share { state with holders := state.holders + 1 } } := by
  simp only [Host.hold, shared]

theorem hold (sound : Sound custody) {source : Address} (held : custody.Holds source share)
    (vacant : custody.claim? address = none) :
    Sound (custody.put address (some { share }) (custody.host.hold share)) := by
  obtain ⟨state, shared⟩ := sound.exists_share held
  have outside : address ∉ custody.holders share := Custody.not_holds_of_vacant vacant share
  rw [hold_eq shared]
  apply sound.recount (state.holders + 1) shared
  · intro other held
    exact absurd held (Custody.not_holds_of_vacant vacant other)
  · rintro new ⟨⟩
    rfl
  · omega
  · rw [Custody.holders_put_some,
      Set.ncard_insert_of_notMem outside (sound.finite_holders shared),
      (sound.counted share state shared).2]

theorem leave (sound : Sound custody) {state : Share}
    (found : custody.claim? address = some { share })
    (shared : custody.host.shares.get? share = some state) (more : 1 < state.holders) :
    Sound (custody.put address none { custody.host with
      shares := custody.host.shares.set share { state with holders := state.holders - 1 } }) := by
  have held : custody.Holds address share := Custody.holds_of_claim found
  have inside : address ∈ custody.holders share := held
  apply sound.recount (state.holders - 1) shared
  · intro other also
    exact also.unique held
  · rintro new ⟨⟩
  · omega
  · rw [Custody.holders_put_none, Set.ncard_sdiff_singleton_of_mem inside,
      (sound.counted share state shared).2]

/-- An object that has a share to itself is its only holder. -/
theorem only_holder (sound : Sound custody) {state : Share} (held : custody.Holds address share)
    (shared : custody.host.shares.get? share = some state) (only : state.holders ≤ 1) :
    custody.holders share = {address} := by
  have counted := sound.counted share state shared
  have single : (custody.holders share).ncard = 1 := by omega
  obtain ⟨holder, alone⟩ := Set.ncard_eq_one.mp single
  have inside : address ∈ custody.holders share := held
  rw [alone] at inside ⊢
  rw [Set.mem_singleton_iff.mp inside]

theorem last (sound : Sound custody) {state : Share} {host : Host}
    (found : custody.claim? address = some { share })
    (shared : custody.host.shares.get? share = some state) (only : state.holders ≤ 1)
    (removed : Removed (.context state.session) custody.host.boundary host.boundary)
    (shares : host.shares = custody.host.shares.release share) :
    Sound (custody.put address none host) := by
  have alone := sound.only_holder (Custody.holds_of_claim found) shared only
  have lookup (other : Nat) : host.shares.get? other =
      if other = share then none else custody.host.shares.get? other := by
    rw [shares, Arena.get?_release]
  have holds (other : Address) (number : Nat)
      (held : (custody.put address none host).Holds other number) :
      number ≠ share ∧ custody.Holds other number := by
    rcases (Custody.holds_put other number).mp held with ⟨-, new, ⟨⟩, -⟩ | ⟨apart, kept⟩
    refine ⟨?_, kept⟩
    rintro rfl
    have inside : other ∈ custody.holders number := kept
    rw [alone] at inside
    exact apart inside
  have keeps (number : Nat) (known : Share) (there : host.shares.get? number = some known) :
      number ≠ share ∧ custody.host.shares.get? number = some known := by
    rw [lookup] at there
    by_cases here : number = share
    · rw [if_pos here] at there
      cases there
    · rw [if_neg here] at there
      exact ⟨here, there⟩
  refine ⟨?_, ?_, ?_, ?_, ?_, sound.exclusive_put_bare bare_none, sound.stream_put_bare bare_none⟩
  · intro number known there
    obtain ⟨apart, before⟩ := keeps number known there
    rw [Custody.holders_put_of_ne]
    · exact sound.counted number known before
    · intro held
      exact apart (held.unique (Custody.holds_of_claim found))
    · rintro new ⟨⟩
  · intro other number held
    obtain ⟨apart, kept⟩ := holds other number held
    rw [Custody.host_put, lookup, if_neg apart]
    exact sound.shared other number kept
  · intro number known there
    obtain ⟨apart, before⟩ := keeps number known there
    obtain ⟨record, live, clean⟩ := sound.session number known before
    have other : Handle.context known.session ≠ .context state.session := by
      intro same
      have session := Handle.context.inj same
      exact apart (sound.apart number share known state before shared session)
    refine ⟨record, ?_, clean⟩
    rw [Custody.host_put, removed.contexts_of_ne other]
    exact live
  · intro one two first second oneThere twoThere
    have oneBefore := (keeps one first oneThere).2
    have twoBefore := (keeps two second twoThere).2
    exact sound.apart one two first second oneBefore twoBefore
  · intro other handle owned
    have mine := (Custody.owns_of_put_bare bare_none owned).2
    rw [Custody.host_put, removed.alive]
    refine ⟨?_, sound.alive other handle mine⟩
    rintro rfl
    exact sound.stream other _ mine

/-- An object keeps its share while the handle that it owns changes. -/
theorem rebound (sound : Sound custody) {old : Claim} (new : Claim) {host : Host}
    (found : custody.claim? address = some old) (same : new.share = old.share)
    (shares : host.shares = custody.host.shares)
    (session : ∀ share state, custody.host.shares.get? share = some state → ∀ record,
      custody.host.boundary.contexts.get? state.session = some record →
        host.boundary.contexts.get? state.session = some record)
    (alive : ∀ other handle, (custody.put address (some new) host).Owns other handle →
      host.boundary.Alive handle)
    (exclusive : ∀ one two handle, (custody.put address (some new) host).Owns one handle →
      (custody.put address (some new) host).Owns two handle → one = two)
    (stream : ∀ other handle, (custody.put address (some new) host).Owns other handle →
      handle.IsStream) :
    Sound (custody.put address (some new) host) := by
  have holds := Custody.holds_put_same host found same
  refine ⟨?_, ?_, ?_, ?_, alive, exclusive, stream⟩
  · intro number known there
    have holders : (custody.put address (some new) host).holders number = custody.holders number :=
      Set.ext fun other => holds other number
    rw [Custody.host_put, shares] at there
    rw [holders]
    exact sound.counted number known there
  · intro other number held
    rw [Custody.host_put, shares]
    exact sound.shared other number ((holds other number).mp held)
  · intro number known there
    rw [Custody.host_put, shares] at there
    obtain ⟨record, live, clean⟩ := sound.session number known there
    exact ⟨record, session number known there record live, clean⟩
  · rw [Custody.host_put, shares]
    exact sound.apart

theorem take (sound : Sound custody) {handle : Handle} {host : Host}
    (found : custody.claim? address = some { share }) (stream : handle.IsStream)
    (added : Added handle custody.host.boundary host.boundary)
    (shares : host.shares = custody.host.shares) :
    Sound (custody.put address (some { share, handle := some handle }) host) := by
  have cases (other : Address) (number : Handle)
      (owned : (custody.put address (some { share, handle := some handle }) host).Owns other
        number) :
      (other = address ∧ number = handle) ∨ (other ≠ address ∧ custody.Owns other number) := by
    rcases (Custody.owns_put other number).mp owned with ⟨here, new, given, mine⟩ | kept
    · cases given
      exact Or.inl ⟨here, (Option.some.inj mine).symm⟩
    · exact Or.inr kept
  have unowned (other : Address) : ¬ custody.Owns other handle := by
    intro mine
    exact added.fresh (sound.alive other handle mine).issued
  apply sound.rebound { share, handle := some handle } found rfl shares
  · intro number known there record live
    exact added.contexts known.session record live
  · intro other number owned
    rw [added.alive]
    rcases cases other number owned with ⟨-, new⟩ | ⟨-, kept⟩
    · exact Or.inl new
    · exact Or.inr (sound.alive other number kept)
  · intro one two number first second
    rcases cases one number first with ⟨here, new⟩ | ⟨-, kept⟩
    · rcases cases two number second with ⟨there, -⟩ | ⟨-, also⟩
      · rw [here, there]
      · exact absurd (new ▸ also) (unowned two)
    · rcases cases two number second with ⟨-, new⟩ | ⟨-, also⟩
      · exact absurd (new ▸ kept) (unowned one)
      · exact sound.exclusive one two number kept also
  · intro other number owned
    rcases cases other number owned with ⟨-, new⟩ | ⟨-, kept⟩
    · rw [new]
      exact stream
    · exact sound.stream other number kept

theorem free (sound : Sound custody) {handle : Handle} {host : Host}
    (found : custody.claim? address = some { share, handle := some handle })
    (removed : Removed handle custody.host.boundary host.boundary)
    (shares : host.shares = custody.host.shares) :
    Sound (custody.put address (some { share }) host) := by
  have mine : custody.Owns address handle := Custody.owns_of_claim found
  have bare := bare_share share
  apply sound.rebound { share } found rfl shares
  · intro number known there record live
    have apart := (sound.stream address handle mine).context_ne known.session
    rw [removed.contexts_of_ne apart]
    exact live
  · intro other number owned
    obtain ⟨apart, kept⟩ := Custody.owns_of_put_bare bare owned
    rw [removed.alive]
    refine ⟨?_, sound.alive other number kept⟩
    rintro rfl
    exact apart (sound.exclusive other address number kept mine)
  · exact sound.exclusive_put_bare bare
  · exact sound.stream_put_bare bare

theorem began (sound : Sound custody) {session : Nat} {host : Host} {record : Engine.Session}
    (vacant : custody.claim? address = none)
    (added : Added (.context session) custody.host.boundary host.boundary)
    (live : host.boundary.contexts.get? session = some record) (clean : 0 ∉ record.home)
    (shares : host.shares = custody.host.shares.alloc { session, holders := 1 }) :
    Sound (custody.put address (some { share := custody.host.shares.fresh }) host) := by
  have lookup (number : Nat) : host.shares.get? number =
      if number = custody.host.shares.fresh then some { session, holders := 1 }
      else custody.host.shares.get? number := by
    rw [shares, Arena.get?_alloc]
  have unheld (other : Address) : ¬ custody.Holds other custody.host.shares.fresh := by
    intro held
    have there := sound.shared other _ held
    rw [Arena.get?_fresh] at there
    cases there
  have cases (number : Nat) (known : Share) (there : host.shares.get? number = some known) :
      (number = custody.host.shares.fresh ∧ known = { session, holders := 1 }) ∨
        (number ≠ custody.host.shares.fresh ∧ custody.host.shares.get? number = some known) := by
    rw [lookup] at there
    by_cases here : number = custody.host.shares.fresh
    · rw [if_pos here] at there
      exact Or.inl ⟨here, (Option.some.inj there).symm⟩
    · rw [if_neg here] at there
      exact Or.inr ⟨here, there⟩
  have bare := bare_share custody.host.shares.fresh
  -- No share that is known leads to the new session, which was not issued before.
  have unknown (number : Nat) (known : Share)
      (there : custody.host.shares.get? number = some known) : known.session ≠ session := by
    rintro rfl
    obtain ⟨record, found, -⟩ := sound.session number known there
    apply added.fresh
    exact Arena.lt_fresh_of_get? found
  refine ⟨?_, ?_, ?_, ?_, ?_, sound.exclusive_put_bare bare, sound.stream_put_bare bare⟩
  · intro number known there
    rcases cases number known there with ⟨rfl, rfl⟩ | ⟨apart, before⟩
    · have unheld : custody.holders custody.host.shares.fresh = ∅ :=
        Set.eq_empty_iff_forall_notMem.mpr unheld
      rw [Custody.holders_put_some, unheld, insert_empty_eq, Set.ncard_singleton]
      exact ⟨Nat.one_pos, rfl⟩
    · rw [Custody.holders_put_of_ne (Custody.not_holds_of_vacant vacant number)]
      · exact sound.counted number known before
      · rintro _ ⟨⟩
        exact Ne.symm apart
  · intro other number held
    rw [Custody.host_put, lookup]
    by_cases here : number = custody.host.shares.fresh
    · rw [if_pos here]
      rfl
    · rw [if_neg here]
      rcases (Custody.holds_put other number).mp held with ⟨-, new, ⟨⟩, same⟩ | ⟨-, kept⟩
      · exact absurd same.symm here
      · exact sound.shared other number kept
  · intro number known there
    rcases cases number known there with ⟨rfl, rfl⟩ | ⟨apart, before⟩
    · exact ⟨record, live, clean⟩
    · obtain ⟨old, found, spotless⟩ := sound.session number known before
      exact ⟨old, added.contexts known.session old found, spotless⟩
  · intro one two first second oneThere twoThere same
    rcases cases one first oneThere with ⟨rfl, rfl⟩ | ⟨-, oneBefore⟩
    · rcases cases two second twoThere with ⟨rfl, -⟩ | ⟨-, twoBefore⟩
      · rfl
      · exact absurd same.symm (unknown two second twoBefore)
    · rcases cases two second twoThere with ⟨rfl, rfl⟩ | ⟨-, twoBefore⟩
      · exact absurd same (unknown one first oneBefore)
      · exact sound.apart one two first second oneBefore twoBefore same
  · intro other handle owned
    rw [Custody.host_put, added.alive]
    exact Or.inr (sound.alive other handle (Custody.owns_of_put_bare bare owned).2)

end Sound

/-- Custody stays sound whatever is done. -/
theorem Move.sound {before after : Custody} (move : Move before after) (sound : Sound before) :
    Sound after := by
  cases move with
  | stir steady => exact sound.steady steady rfl
  | use owned steady => exact sound.steady steady rfl
  | ask held shared => exact sound.steady (Steady.refl _) rfl
  | hold held vacant => exact sound.hold held vacant
  | take found stream added => exact sound.take found stream added rfl
  | free found removed keeps => exact sound.free found removed rfl
  | leave found shared more => exact sound.leave found shared more
  | last found shared only live =>
      exact sound.last found shared only (Boundary.removed_releaseContext _ _ _) rfl

theorem Began.sound {settings : Engine.Settings} {address : Address} {before after : Custody}
    (began : Began settings address before after) (sound : Sound before) : Sound after := by
  cases began with
  | intro vacant added live built =>
      have clean := Engine.Settings.zero_notMem_home_of_build built
      exact sound.began vacant added live clean rfl

end SessionStreams.Host
