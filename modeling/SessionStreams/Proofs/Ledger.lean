import SessionStreams.Proofs.Performing

set_option autoImplicit false

namespace SessionStreams.Host

open Boundary (Added Outcome Removed Steady)

/-- Acquired with a share, and not freed since. -/
def Opened (ledger : List Event) (handle : Handle) (share : Nat) : Prop :=
  .acquired handle share ∈ ledger ∧ .freed handle ∉ ledger

/-- What must have happened, and what must not, before an event. -/
def Admits (earlier : List Event) : Event → Prop
  | .acquired (.context id) share =>
      (∀ other, .acquired (.context id) other ∉ earlier) ∧
        ∀ handle, .acquired handle share ∉ earlier
  | .acquired stream share =>
      (∀ other, .acquired stream other ∉ earlier) ∧
        ∃ session, Opened earlier (.context session) share
  | .used handle => ∃ share, Opened earlier handle share
  | .freed (.context id) => ∃ share, Opened earlier (.context id) share ∧
      ∀ stream, stream ≠ .context id → .acquired stream share ∈ earlier → .freed stream ∈ earlier
  | .freed stream => ∃ share, Opened earlier stream share

/-- Every event has been admitted by those before it, which come later in the list. -/
def Orderly (ledger : List Event) : Prop :=
  ∀ later event earlier, ledger = later ++ event :: earlier → Admits earlier event

theorem admits_acquired_stream {earlier : List Event} {stream : Handle} {share : Nat}
    (isStream : stream.IsStream) (new : ∀ other, .acquired stream other ∉ earlier)
    {session : Nat} (opened : Opened earlier (.context session) share) :
    Admits earlier (.acquired stream share) := by
  cases stream with
  | context id => cases isStream
  | reader id => exact ⟨new, session, opened⟩
  | writer id => exact ⟨new, session, opened⟩

theorem admits_freed_stream {earlier : List Event} {stream : Handle} {share : Nat}
    (isStream : stream.IsStream) (opened : Opened earlier stream share) :
    Admits earlier (.freed stream) := by
  cases stream with
  | context id => cases isStream
  | reader id => exact ⟨share, opened⟩
  | writer id => exact ⟨share, opened⟩

theorem opened_of_admits_freed {earlier : List Event} {handle : Handle}
    (admitted : Admits earlier (.freed handle)) : ∃ share, Opened earlier handle share := by
  cases handle with
  | context id =>
      obtain ⟨share, opened, -⟩ := admitted
      exact ⟨share, opened⟩
  | reader id => exact admitted
  | writer id => exact admitted

namespace Orderly

variable {ledger : List Event} {event : Event}

theorem nil : Orderly [] := by
  intro later event earlier split
  cases later <;> cases split

theorem cons (admitted : Admits ledger event) (orderly : Orderly ledger) :
    Orderly (event :: ledger) := by
  intro later other earlier split
  cases later with
  | nil =>
      cases split
      exact admitted
  | cons first rest =>
      cases split
      exact orderly rest other earlier rfl

theorem head (orderly : Orderly (event :: ledger)) : Admits ledger event :=
  orderly [] event ledger rfl

theorem tail (orderly : Orderly (event :: ledger)) : Orderly ledger := by
  intro later other earlier split
  apply orderly (event :: later) other earlier
  rw [split, List.cons_append]

theorem acquired_of_freed (orderly : Orderly ledger) {handle : Handle}
    (freed : .freed handle ∈ ledger) : ∃ share, .acquired handle share ∈ ledger := by
  obtain ⟨later, earlier, split⟩ := List.append_of_mem freed
  obtain ⟨share, acquired, -⟩ := opened_of_admits_freed (orderly later _ earlier split)
  refine ⟨share, ?_⟩
  rw [split]
  exact List.mem_append_right _ (List.mem_cons_of_mem _ acquired)

/-- A stream was opened with a session that was open. -/
theorem session_of_stream (orderly : Orderly ledger) {later earlier : List Event}
    {stream : Handle} {share : Nat} (isStream : stream.IsStream)
    (split : ledger = later ++ .acquired stream share :: earlier) :
    ∃ session, Opened earlier (.context session) share := by
  have admitted := orderly later _ earlier split
  cases stream with
  | context id => cases isStream
  | reader id => exact admitted.2
  | writer id => exact admitted.2

/-- A share belongs to one session. -/
theorem session_unique (orderly : Orderly ledger) {one two share : Nat}
    (first : .acquired (.context one) share ∈ ledger)
    (second : .acquired (.context two) share ∈ ledger) : one = two := by
  induction ledger with
  | nil => cases first
  | cons event rest ih =>
      rcases List.mem_cons.mp first with rfl | earlier
      · rcases List.mem_cons.mp second with same | before
        · cases same
          rfl
        · exact absurd before (orderly.head.2 _)
      · rcases List.mem_cons.mp second with rfl | before
        · exact absurd earlier (orderly.head.2 _)
        · exact ih orderly.tail earlier before

/-- No stream is opened with a session after it was freed. -/
theorem acquired_before (orderly : Orderly ledger) {later earlier : List Event}
    {session share : Nat} (split : ledger = later ++ .freed (.context session) :: earlier)
    (own : .acquired (.context session) share ∈ earlier) {stream : Handle}
    (isStream : stream.IsStream) (acquired : .acquired stream share ∈ ledger) :
    .acquired stream share ∈ earlier := by
  have inLedger : .acquired (.context session) share ∈ ledger := by
    rw [split]
    exact List.mem_append_right _ (List.mem_cons_of_mem _ own)
  have cases := acquired
  rw [split] at cases
  rcases List.mem_append.mp cases with after | before
  · obtain ⟨latest, between, cut⟩ := List.append_of_mem after
    have placed : ledger = latest ++
        .acquired stream share :: (between ++ .freed (.context session) :: earlier) := by
      rw [split, cut, List.append_assoc, List.cons_append]
    obtain ⟨other, held, unfreed⟩ := orderly.session_of_stream isStream placed
    have also : .acquired (.context other) share ∈ ledger := by
      rw [placed]
      exact List.mem_append_right _ (List.mem_cons_of_mem _ held)
    rw [orderly.session_unique also inLedger] at unfreed
    exact absurd (List.mem_append_right _ List.mem_cons_self) unfreed
  · rcases List.mem_cons.mp before with same | found
    · cases same
    · exact found

/-- No handle is freed twice. -/
theorem count_freed_le (orderly : Orderly ledger) (handle : Handle) :
    ledger.count (.freed handle) ≤ 1 := by
  induction ledger with
  | nil => exact Nat.zero_le 1
  | cons event rest ih =>
      by_cases same : event = .freed handle
      · subst same
        obtain ⟨share, -, unfreed⟩ := opened_of_admits_freed orderly.head
        rw [List.count_cons_self, List.count_eq_zero_of_not_mem unfreed]
      · rw [List.count_cons_of_ne same]
        exact ih orderly.tail

end Orderly

/-- Some object owns a stream and holds a share. -/
def Custody.Backs (custody : Custody) (handle : Handle) (share : Nat) : Prop :=
  ∃ address, custody.claim? address = some { share, handle := some handle }

theorem opened_cons_used (ledger : List Event) (used handle : Handle) (share : Nat) :
    Opened (.used used :: ledger) handle share ↔ Opened ledger handle share := by
  simp [Opened]

theorem opened_cons_acquired (ledger : List Event) (new handle : Handle) (given share : Nat) :
    Opened (.acquired new given :: ledger) handle share ↔
      (handle = new ∧ share = given ∨ .acquired handle share ∈ ledger) ∧
        .freed handle ∉ ledger := by
  simp [Opened]

theorem opened_cons_freed (ledger : List Event) (old handle : Handle) (share : Nat) :
    Opened (.freed old :: ledger) handle share ↔ handle ≠ old ∧ Opened ledger handle share := by
  simp only [Opened, List.mem_cons, reduceCtorEq, false_or, Event.freed.injEq, not_or]
  constructor
  · rintro ⟨acquired, other, unfreed⟩
    exact ⟨other, acquired, unfreed⟩
  · rintro ⟨other, acquired, unfreed⟩
    exact ⟨acquired, other, unfreed⟩

/-- The ledger tells which handles were given out and which of them are alive. -/
structure Tallied (ledger : List Event) (boundary : Boundary) : Prop where
  orderly : Orderly ledger
  issued : ∀ handle share, .acquired handle share ∈ ledger → boundary.Issued handle
  alive_iff : ∀ handle, boundary.Alive handle ↔ ∃ share, Opened ledger handle share

namespace Tallied

variable {ledger : List Event} {before after : Boundary} {handle : Handle}

theorem unacquired (tallied : Tallied ledger before) (fresh : ¬ before.Issued handle)
    (share : Nat) : .acquired handle share ∉ ledger :=
  fun acquired => fresh (tallied.issued handle share acquired)

theorem unfreed (tallied : Tallied ledger before) (fresh : ¬ before.Issued handle) :
    .freed handle ∉ ledger := by
  intro freed
  obtain ⟨share, acquired⟩ := tallied.orderly.acquired_of_freed freed
  exact tallied.unacquired fresh share acquired

theorem steady (tallied : Tallied ledger before) (steady : Steady before after) :
    Tallied ledger after := by
  refine ⟨tallied.orderly, ?_, ?_⟩
  · intro other share acquired
    exact (steady.issued other).mpr (tallied.issued other share acquired)
  · intro other
    exact (steady.alive other).trans (tallied.alive_iff other)

theorem used (tallied : Tallied ledger before) (opened : ∃ share, Opened ledger handle share) :
    Tallied (.used handle :: ledger) before := by
  refine ⟨Orderly.cons opened tallied.orderly, ?_, ?_⟩
  · intro other share acquired
    exact tallied.issued other share (by simpa using acquired)
  · intro other
    simp only [opened_cons_used]
    exact tallied.alive_iff other

theorem acquired {share : Nat} (tallied : Tallied ledger before) (added : Added handle before after)
    (admitted : Admits ledger (.acquired handle share)) :
    Tallied (.acquired handle share :: ledger) after := by
  refine ⟨Orderly.cons admitted tallied.orderly, ?_, ?_⟩
  · intro other number acquired
    rw [added.issued]
    rcases List.mem_cons.mp acquired with same | earlier
    · cases same
      exact Or.inl rfl
    · exact Or.inr (tallied.issued other number earlier)
  · intro other
    rw [added.alive, tallied.alive_iff]
    simp only [opened_cons_acquired]
    constructor
    · rintro (rfl | ⟨number, acquired, unfreed⟩)
      · exact ⟨share, Or.inl ⟨rfl, rfl⟩, tallied.unfreed added.fresh⟩
      · exact ⟨number, Or.inr acquired, unfreed⟩
    · rintro ⟨number, ⟨rfl, -⟩ | acquired, unfreed⟩
      · exact Or.inl rfl
      · exact Or.inr ⟨number, acquired, unfreed⟩

theorem freed (tallied : Tallied ledger before) (removed : Removed handle before after)
    (admitted : Admits ledger (.freed handle)) : Tallied (.freed handle :: ledger) after := by
  refine ⟨Orderly.cons admitted tallied.orderly, ?_, ?_⟩
  · intro other number acquired
    exact (removed.issued other).mpr (tallied.issued other number (by simpa using acquired))
  · intro other
    rw [removed.alive, tallied.alive_iff]
    simp only [opened_cons_freed, exists_and_left]

end Tallied

/-- The ledger tells who holds what. -/
structure Recorded (custody : Custody) : Prop where
  tallied : Tallied custody.host.ledger custody.host.boundary
  numbered : ∀ handle share, .acquired handle share ∈ custody.host.ledger →
    share < custody.host.shares.fresh
  session : ∀ id share, Opened custody.host.ledger (.context id) share ↔
    ∃ state, custody.host.shares.get? share = some state ∧ state.session = id
  stream : ∀ handle share, handle.IsStream →
    (Opened custody.host.ledger handle share ↔ custody.Backs handle share)

namespace Custody

variable {custody : Custody} {address : Address} {claim : Option Claim} {host : Host}

theorem backs_put (handle : Handle) (share : Nat) :
    (custody.put address claim host).Backs handle share ↔
      claim = some { share, handle := some handle } ∨
        ∃ other, other ≠ address ∧
          custody.claim? other = some { share, handle := some handle } := by
  unfold Backs
  constructor
  · rintro ⟨other, found⟩
    rw [claim?_put] at found
    by_cases here : other = address
    · rw [if_pos here] at found
      exact Or.inl found
    · rw [if_neg here] at found
      exact Or.inr ⟨other, here, found⟩
  · rintro (given | ⟨other, apart, found⟩)
    · exact ⟨address, by rw [claim?_put, if_pos rfl, given]⟩
    · exact ⟨other, by rw [claim?_put, if_neg apart, found]⟩

theorem backs_elsewhere {handle : Handle} {share : Nat}
    (apart : custody.claim? address ≠ some { share, handle := some handle }) :
    (∃ other, other ≠ address ∧ custody.claim? other = some { share, handle := some handle }) ↔
      custody.Backs handle share := by
  constructor
  · rintro ⟨other, -, found⟩
    exact ⟨other, found⟩
  · rintro ⟨other, found⟩
    refine ⟨other, ?_, found⟩
    rintro rfl
    exact apart found

/-- Claims without a stream come and go unnoticed. -/
theorem backs_put_bare (before : Bare (custody.claim? address)) (after : Bare claim)
    (handle : Handle) (share : Nat) :
    (custody.put address claim host).Backs handle share ↔ custody.Backs handle share := by
  rw [backs_put, backs_elsewhere]
  · constructor
    · rintro (given | found)
      · cases after _ given
      · exact found
    · exact Or.inr
  · intro found
    cases before _ found

end Custody

namespace Recorded

variable {custody : Custody} {address : Address} {share : Nat} {handle : Handle}

theorem opened_of_owns (recorded : Recorded custody) (sound : Sound custody)
    (owned : custody.Owns address handle) : ∃ share, Opened custody.host.ledger handle share := by
  obtain ⟨claim, found, bound⟩ := owned
  refine ⟨claim.share, (recorded.stream handle claim.share ?_).mpr ⟨address, ?_⟩⟩
  · exact sound.stream address handle ⟨claim, found, bound⟩
  · rw [found, ← bound]

theorem opened_of_shared (recorded : Recorded custody) {state : Share}
    (shared : custody.host.shares.get? share = some state) :
    Opened custody.host.ledger (.context state.session) share :=
  (recorded.session state.session share).mpr ⟨state, shared, rfl⟩

theorem stir (recorded : Recorded custody) {after : Boundary}
    (steady : Steady custody.host.boundary after) :
    Recorded { custody with host := { custody.host with boundary := after } } :=
  ⟨recorded.tallied.steady steady, recorded.numbered, recorded.session, recorded.stream⟩

theorem used (recorded : Recorded custody)
    (opened : ∃ share, Opened custody.host.ledger handle share) :
    Recorded { custody with host := custody.host.note (.used handle) } := by
  refine ⟨recorded.tallied.used opened, ?_, ?_, ?_⟩
  · intro other share acquired
    exact recorded.numbered other share (by simpa [note] using acquired)
  · intro id share
    exact (opened_cons_used _ _ _ _).trans (recorded.session id share)
  · intro other share isStream
    exact (opened_cons_used _ _ _ _).trans (recorded.stream other share isStream)

/-- A share is counted anew for an object without a stream. -/
theorem recount (recorded : Recorded custody) {claim : Option Claim} {state : Share} (count : Nat)
    (shared : custody.host.shares.get? share = some state)
    (before : Bare (custody.claim? address)) (after : Bare claim) :
    Recorded (custody.put address claim { custody.host with
      shares := custody.host.shares.set share { state with holders := count } }) := by
  refine ⟨recorded.tallied, ?_, ?_, ?_⟩
  · intro handle number acquired
    rw [Custody.host_put, Arena.fresh_set]
    exact recorded.numbered handle number acquired
  · intro id number
    refine (recorded.session id number).trans ?_
    have inside := Arena.lt_fresh_of_get? shared
    simp only [Custody.host_put, Arena.get?_set]
    by_cases here : number = share
    · subst here
      simp [inside, shared]
    · simp [here]
  · intro handle number isStream
    exact (recorded.stream handle number isStream).trans
      (Custody.backs_put_bare before after handle number).symm

theorem take (recorded : Recorded custody) (sound : Sound custody) {after : Boundary}
    (found : custody.claim? address = some { share }) (isStream : handle.IsStream)
    (added : Added handle custody.host.boundary after) :
    Recorded (custody.put address (some { share, handle := some handle })
      ({ custody.host with boundary := after }.note (.acquired handle share))) := by
  obtain ⟨state, shared⟩ := sound.exists_share (Custody.holds_of_claim found)
  have new := recorded.tallied.unacquired added.fresh
  have admitted := admits_acquired_stream isStream new (recorded.opened_of_shared shared)
  refine ⟨recorded.tallied.acquired added admitted, ?_, ?_, ?_⟩
  · intro other number acquired
    rcases List.mem_cons.mp acquired with same | before
    · cases same
      exact Arena.lt_fresh_of_get? shared
    · exact recorded.numbered other number before
  · intro id number
    have apart := isStream.context_ne id
    refine Iff.trans ?_ (recorded.session id number)
    exact (opened_cons_acquired _ _ _ _ _).trans (by simp [apart, Opened])
  · intro other number otherStream
    refine (opened_cons_acquired _ _ _ _ _).trans ?_
    have apart : custody.claim? address ≠ some { share := number, handle := some other } := by
      rw [found]
      simp
    rw [Custody.backs_put, Custody.backs_elsewhere apart,
      ← recorded.stream other number otherStream]
    constructor
    · rintro ⟨⟨rfl, rfl⟩ | acquired, unfreed⟩
      · exact Or.inl rfl
      · exact Or.inr ⟨acquired, unfreed⟩
    · rintro (given | ⟨acquired, unfreed⟩)
      · cases given
        exact ⟨Or.inl ⟨rfl, rfl⟩, recorded.tallied.unfreed added.fresh⟩
      · exact ⟨Or.inr acquired, unfreed⟩

theorem free (recorded : Recorded custody) (sound : Sound custody) {after : Boundary}
    (found : custody.claim? address = some { share, handle := some handle })
    (removed : Removed handle custody.host.boundary after) :
    Recorded (custody.put address (some { share })
      ({ custody.host with boundary := after }.note (.freed handle))) := by
  have isStream := sound.stream address handle (Custody.owns_of_claim found)
  have opened := (recorded.stream handle share isStream).mpr ⟨address, found⟩
  refine ⟨recorded.tallied.freed removed (admits_freed_stream isStream opened), ?_, ?_, ?_⟩
  · intro other number acquired
    exact recorded.numbered other number (by simpa [note] using acquired)
  · intro id number
    have apart := isStream.context_ne id
    refine Iff.trans ?_ (recorded.session id number)
    exact (opened_cons_freed _ _ _ _).trans (by simp [apart])
  · intro other number otherStream
    refine (opened_cons_freed _ _ _ _).trans ?_
    rw [Custody.backs_put, recorded.stream other number otherStream]
    by_cases same : other = handle
    · subst same
      constructor
      · rintro ⟨apart, -⟩
        exact absurd rfl apart
      · rintro (given | ⟨holder, apart, also⟩)
        · cases given
        · exact absurd (sound.exclusive holder address other (Custody.owns_of_claim also)
            (Custody.owns_of_claim found)) apart
    · have apart : custody.claim? address ≠ some { share := number, handle := some other } := by
        rw [found]
        simp [Ne.symm same]
      rw [Custody.backs_elsewhere apart]
      simp [same]

/-- All streams of a session have been freed when its last holder, who has none, leaves. -/
theorem admits_last (recorded : Recorded custody) (sound : Sound custody) {state : Share}
    (found : custody.claim? address = some { share })
    (shared : custody.host.shares.get? share = some state) (only : state.holders ≤ 1) :
    Admits custody.host.ledger (.freed (.context state.session)) := by
  have alone := sound.only_holder (Custody.holds_of_claim found) shared only
  refine ⟨share, recorded.opened_of_shared shared, ?_⟩
  intro stream apart acquired
  by_contra unfreed
  have opened : Opened custody.host.ledger stream share := ⟨acquired, unfreed⟩
  by_cases isStream : stream.IsStream
  · obtain ⟨holder, claimed⟩ := (recorded.stream stream share isStream).mp opened
    have inside : holder ∈ custody.holders share := Custody.holds_of_claim claimed
    rw [alone] at inside
    rw [Set.mem_singleton_iff.mp inside, found] at claimed
    cases claimed
  · cases stream with
    | reader id => exact isStream trivial
    | writer id => exact isStream trivial
    | context id =>
        obtain ⟨other, there, same⟩ := (recorded.session id share).mp opened
        rw [shared] at there
        cases there
        exact apart (congrArg Handle.context same.symm)

theorem last (recorded : Recorded custody) (sound : Sound custody) {state : Share}
    (found : custody.claim? address = some { share })
    (shared : custody.host.shares.get? share = some state) (only : state.holders ≤ 1)
    (world : World) :
    Recorded (custody.put address none
      ({ custody.host with
        boundary := { custody.host.boundary with
          world
          contexts := custody.host.boundary.contexts.release state.session }
        shares := custody.host.shares.release share }.note (.freed (.context state.session)))) := by
  have removed := Boundary.removed_releaseContext custody.host.boundary state.session world
  have admitted := recorded.admits_last sound found shared only
  refine ⟨recorded.tallied.freed removed admitted, ?_, ?_, ?_⟩
  · intro other number acquired
    rw [Custody.host_put]
    simp only [note, Arena.fresh_release]
    exact recorded.numbered other number (by simpa [note] using acquired)
  · intro id number
    refine (opened_cons_freed _ _ _ _).trans ?_
    rw [recorded.session id number]
    simp only [Custody.host_put, note, Arena.get?_release, ne_eq, Handle.context.injEq]
    constructor
    · rintro ⟨apart, other, there, same⟩
      have elsewhere : number ≠ share := by
        rintro rfl
        rw [shared] at there
        cases there
        exact apart same.symm
      exact ⟨other, by rw [if_neg elsewhere, there], same⟩
    · rintro ⟨other, there, same⟩
      by_cases here : number = share
      · rw [if_pos here] at there
        cases there
      · rw [if_neg here] at there
        refine ⟨?_, other, there, same⟩
        rintro rfl
        exact here (sound.apart number share other state there shared same)
  · intro other number otherStream
    refine (opened_cons_freed _ _ _ _).trans ?_
    have bare : Bare (custody.claim? address) := found ▸ bare_share share
    rw [Custody.backs_put_bare bare bare_none, recorded.stream other number otherStream]
    exact and_iff_right (otherStream.context_ne state.session).symm

theorem began (recorded : Recorded custody) {session : Nat} {after : Boundary}
    (vacant : custody.claim? address = none)
    (added : Added (.context session) custody.host.boundary after) :
    Recorded (custody.put address (some { share := custody.host.shares.fresh })
      ({ custody.host with
        boundary := after
        shares := custody.host.shares.alloc { session, holders := 1 } }.note
          (.acquired (.context session) custody.host.shares.fresh))) := by
  have unused (handle : Handle) :
      .acquired handle custody.host.shares.fresh ∉ custody.host.ledger := by
    intro acquired
    exact absurd (recorded.numbered handle _ acquired) (Nat.lt_irrefl _)
  have new := recorded.tallied.unacquired added.fresh
  refine ⟨recorded.tallied.acquired added ⟨new, unused⟩, ?_, ?_, ?_⟩
  · intro other number acquired
    rw [Custody.host_put]
    simp only [note, Arena.fresh_alloc]
    rcases List.mem_cons.mp acquired with same | before
    · cases same
      exact Nat.lt_succ_self _
    · exact Nat.lt_succ_of_lt (recorded.numbered other number before)
  · intro id number
    refine (opened_cons_acquired _ _ _ _ _).trans ?_
    simp only [Custody.host_put, note, Arena.get?_alloc, Handle.context.injEq]
    by_cases here : number = custody.host.shares.fresh
    · subst here
      simp only [if_true, Option.some.injEq, exists_eq_left', and_true]
      constructor
      · rintro ⟨rfl | acquired, -⟩
        · rfl
        · exact absurd acquired (unused _)
      · rintro rfl
        exact ⟨Or.inl rfl, recorded.tallied.unfreed added.fresh⟩
    · simp only [here, if_false, and_false, false_or]
      exact recorded.session id number
  · intro other number otherStream
    have apart := (otherStream.context_ne session).symm
    have bare : Bare (custody.claim? address) := vacant ▸ bare_none
    refine (opened_cons_acquired _ _ _ _ _).trans ?_
    rw [Custody.backs_put_bare bare (bare_share _), ← recorded.stream other number otherStream]
    simp [apart, Opened]

end Recorded

theorem kept_recorded : Kept Recorded := by
  refine ⟨?_, ?_⟩
  · intro before after move sound recorded
    cases move with
    | stir steady => exact recorded.stir steady
    | use owned steady =>
        have opened := recorded.opened_of_owns sound owned
        exact (recorded.stir steady).used opened
    | ask held shared => exact recorded.used ⟨_, recorded.opened_of_shared shared⟩
    | hold held vacant =>
        obtain ⟨state, shared⟩ := sound.exists_share held
        rw [Sound.hold_eq shared]
        apply recorded.recount (state.holders + 1) shared
        · rw [vacant]
          exact bare_none
        · exact bare_share _
    | take found stream added => exact recorded.take sound found stream added
    | free found removed keeps => exact recorded.free sound found removed
    | leave found shared more =>
        apply recorded.recount _ shared
        · rw [found]
          exact bare_share _
        · exact bare_none
    | last found shared only live => exact recorded.last sound found shared only _
  · intro settings address before after began sound recorded
    cases began with
    | intro vacant added live built => exact recorded.began vacant added

namespace Holdings

theorem recorded_start (world : World) : Recorded (start world).custody := by
  have unbacked (handle : Handle) (share : Nat) : ¬ (start world).custody.Backs handle share := by
    rintro ⟨address, found⟩
    rw [claim?_start] at found
    cases found
  refine ⟨⟨Orderly.nil, ?_, ?_⟩, ?_, ?_, ?_⟩
  · intro handle share acquired
    cases acquired
  · intro handle
    constructor
    · intro alive
      cases handle <;> cases alive
    · rintro ⟨share, acquired, -⟩
      cases acquired
  · intro handle share acquired
    cases acquired
  · intro id share
    constructor
    · rintro ⟨acquired, -⟩
      cases acquired
    · rintro ⟨state, there, -⟩
      cases there
  · intro handle share isStream
    constructor
    · rintro ⟨acquired, -⟩
      cases acquired
    · intro backs
      exact absurd backs (unbacked handle share)

/-- All objects have been given up. -/
def Empty (held : Holdings) : Prop :=
  (∀ id, held.contexts.get? id = none) ∧ (∀ id, held.readers.get? id = none) ∧
    ∀ id, held.writers.get? id = none

theorem claim?_of_empty {held : Holdings} (empty : held.Empty) (address : Address) :
    held.custody.claim? address = none := by
  cases address with
  | context id => simp [custody, claim?, empty.1]
  | reader id => simp [custody, claim?, empty.2.1]
  | writer id => simp [custody, claim?, empty.2.2]

/-- Where nothing is held, nothing is open. -/
theorem freed_of_empty {held : Holdings} (sound : Sound held.custody)
    (recorded : Recorded held.custody) (empty : held.Empty) {handle : Handle} {share : Nat}
    (acquired : .acquired handle share ∈ held.host.ledger) : .freed handle ∈ held.host.ledger := by
  by_contra unfreed
  have opened : Opened held.host.ledger handle share := ⟨acquired, unfreed⟩
  cases handle with
  | context id =>
      obtain ⟨state, shared, -⟩ := (recorded.session id share).mp opened
      have there : (held.custody.host.shares.get? share).isSome := by
        rw [shared]
        rfl
      obtain ⟨address, held⟩ := (sound.shared_iff share).mp there
      exact Custody.not_holds_of_vacant (claim?_of_empty empty address) share held
  | reader id =>
      have isStream := Handle.isStream_reader id
      obtain ⟨address, found⟩ := (recorded.stream _ share isStream).mp opened
      rw [claim?_of_empty empty address] at found
      cases found
  | writer id =>
      have isStream := Handle.isStream_writer id
      obtain ⟨address, found⟩ := (recorded.stream _ share isStream).mp opened
      rw [claim?_of_empty empty address] at found
      cases found

/-- Every run goes through, so no call is made on a stale handle. A handle is freed at most once,
and just once when all objects are gone; it is used and freed only after it was acquired and before
it was freed; streams are opened with a session that is open, and have been freed before it is; and
the handles that are alive are those that were acquired and not freed. -/
theorem freed_once (world : World) (actions : List Action) :
    ∃ answers after, (start world).run actions = .done (answers, after) ∧
      (∀ handle, after.host.ledger.count (.freed handle) ≤ 1) ∧
      (after.Empty → ∀ handle share, .acquired handle share ∈ after.host.ledger →
        after.host.ledger.count (.freed handle) = 1) ∧
      (∀ later event earlier handle, after.host.ledger = later ++ event :: earlier →
        event = .used handle ∨ event = .freed handle → ∃ share, Opened earlier handle share) ∧
      (∀ later stream share earlier, stream.IsStream →
        after.host.ledger = later ++ .acquired stream share :: earlier →
          ∃ session, Opened earlier (.context session) share) ∧
      (∀ later session earlier, after.host.ledger = later ++ .freed (.context session) :: earlier →
        ∃ share, .acquired (.context session) share ∈ earlier ∧
          (∀ other, .acquired (.context other) share ∈ after.host.ledger → other = session) ∧
          ∀ stream, stream.IsStream → .acquired stream share ∈ after.host.ledger →
            .freed stream ∈ earlier) ∧
      ∀ handle, after.host.boundary.Alive handle ↔
        ∃ share, Opened after.host.ledger handle share := by
  obtain ⟨answers, after, done, sound, recorded⟩ :=
    run_spec kept_recorded (sound_start world) (recorded_start world) actions
  have orderly := recorded.tallied.orderly
  refine ⟨answers, after, done, orderly.count_freed_le, ?_, ?_, ?_, ?_, recorded.tallied.alive_iff⟩
  · intro empty handle share acquired
    have freed := freed_of_empty sound recorded empty acquired
    have once := List.count_pos_iff.mpr freed
    have most := orderly.count_freed_le handle
    exact Nat.le_antisymm most once
  · rintro later event earlier handle split (rfl | rfl)
    · exact orderly later _ earlier split
    · exact opened_of_admits_freed (orderly later _ earlier split)
  · intro later stream share earlier isStream split
    exact orderly.session_of_stream isStream split
  · intro later session earlier split
    obtain ⟨share, opened, streams⟩ := orderly later _ earlier split
    have own : .acquired (.context session) share ∈ after.host.ledger := by
      rw [split]
      exact List.mem_append_right _ (List.mem_cons_of_mem _ opened.1)
    refine ⟨share, opened.1, fun other acquired => orderly.session_unique acquired own, ?_⟩
    intro stream isStream acquired
    apply streams stream
    · rintro rfl
      exact isStream
    · exact orderly.acquired_before split opened.1 isStream acquired

end Holdings

end SessionStreams.Host
