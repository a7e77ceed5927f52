import SessionStreams.Proofs.Courses

set_option autoImplicit false

/- Actions on different objects. Where two objects have nothing in common that one of them changes
(`Holdings.Apart`, `Holdings.Unshared`), actions on them have the same answers in both orders and
lead to the same state, but for the ledger (`Holdings.Ordered.commute`), although both may end the
same session or sessions with nested homes. So the end of a context can be moved through actions on
anything else (`independent_actions_commute`).

It takes more than the objects look like. The path of a temporary home may lead through another one
(`Holdings.Entangled`), and two readers may be over one descriptor. The order does matter then
(`entangled_or_shared_not_commute`). -/

namespace SessionStreams

namespace Boundary

variable {one two : World}

theorem Reader.spots_congr {reader : Reader}
    (same : ∀ fd, reader.descriptor? = some fd → one.target? fd = two.target? fd) :
    reader.spots one = reader.spots two := by
  cases reader with
  | descriptor fd => exact World.behind_congr (same fd rfl)
  | bytes rest => rfl

theorem Writer.spots_congr {writer : Writer}
    (same : ∀ fd, writer.descriptor? = some fd → one.target? fd = two.target? fd) :
    writer.spots one = writer.spots two := by
  cases writer with
  | buffered fd pending => exact World.behind_congr (same fd rfl)
  | _ => rfl

theorem Reader.descriptor_mem_spots_iff {reader : Reader} {world : World} {fd : Nat} :
    .descriptor fd ∈ reader.spots world ↔ reader.descriptor? = some fd := by
  cases reader with
  | descriptor own => exact World.descriptor_mem_behind_iff.trans ⟨fun same => same ▸ rfl,
      fun same => (Option.some.inj same).symm⟩
  | bytes rest => exact iff_of_false id nofun

theorem Writer.descriptor_mem_spots_iff {writer : Writer} {world : World} {fd : Nat} :
    .descriptor fd ∈ writer.spots world ↔ writer.descriptor? = some fd := by
  cases writer with
  | buffered own pending => exact World.descriptor_mem_behind_iff.trans ⟨fun same => same ▸ rfl,
      fun same => (Option.some.inj same).symm⟩
  | fixed region length position =>
      refine iff_of_false ?_ nofun
      rintro ⟨id, -, same⟩
      cases same
  | growing sink => exact iff_of_false (fun same => nomatch same) nofun

theorem Writer.collecting?_of_mem_spots {writer : Writer} {world : World} {sink : Nat}
    (inside : .sink sink ∈ writer.spots world) : writer.collecting? = some sink := by
  cases writer with
  | buffered own pending => exact absurd inside World.sink_notMem_behind
  | fixed region length position =>
      obtain ⟨id, -, same⟩ := inside
      cases same
  | growing own =>
      cases inside
      rfl

end Boundary

namespace Host

open Boundary (Outcome)

namespace Holdings

section

variable {held one two : Holdings} {address : Address} {id : Nat}

theorem owned_descriptor_of_mem {fd : Nat} (inside : .descriptor fd ∈ held.spots address) :
    held.descriptor? address = some fd := by
  cases address with
  | context id => exact absurd inside (Set.notMem_empty _)
  | reader id =>
      obtain ⟨reader, source, found, opened, live, inside⟩ := inside
      rw [descriptor?_reader found opened live]
      exact Boundary.Reader.descriptor_mem_spots_iff.mp inside
  | writer id =>
      obtain ⟨writer, found, ⟨sink, -, same⟩ | ⟨opened, target, live, inside⟩⟩ := inside
      · cases same
      · rw [descriptor?_writer found opened live]
        exact Boundary.Writer.descriptor_mem_spots_iff.mp inside

theorem owned_sink_of_mem (collecting : held.Collecting) {sink : Nat}
    (inside : .sink sink ∈ held.spots address) : held.sink? address = some sink := by
  cases address with
  | context id => exact absurd inside (Set.notMem_empty _)
  | reader id =>
      obtain ⟨reader, source, -, -, -, inside⟩ := inside
      cases source with
      | descriptor fd => exact absurd inside World.sink_notMem_behind
      | bytes rest => exact absurd inside (Set.notMem_empty _)
  | writer id =>
      obtain ⟨writer, found, ⟨own, collects, same⟩ | ⟨opened, target, live, inside⟩⟩ := inside
      · cases same
        simp only [sink?, found, Option.bind_some, collects]
      · refine collecting.collects _ sink ?_
        rw [collecting?_writer found opened live]
        exact Boundary.Writer.collecting?_of_mem_spots inside

theorem memory_notMem_spots_reader {memory : Nat} : .memory memory ∉ held.spots (.reader id) := by
  rintro ⟨reader, source, -, -, -, inside⟩
  cases source with
  | descriptor fd => exact World.memory_notMem_behind inside
  | bytes rest => exact inside

theorem claim?_congr (object : one.Same two (.object address)) :
    one.custody.claim? address = two.custody.claim? address := by
  cases address with
  | context id => exact congrArg (·.bind Context.claim?) object
  | reader id => exact congrArg (·.bind Reader.claim?) object
  | writer id => exact congrArg (·.bind Writer.claim?) object

theorem target?_congr (agree : Agree (one.uses address) one two) {fd : Nat}
    (inside : .descriptor fd ∈ one.spots address) :
    one.world.target? fd = two.world.target? fd := by
  have same : one.world.descriptors.get? fd = two.world.descriptors.get? fd :=
    agree.same (.spot (.descriptor fd)) (Or.inr (Or.inr ⟨_, inside, rfl⟩))
  rw [World.target?, same, World.target?]

theorem spots_congr (sound : Sound one.custody) (agree : Agree (one.uses address) one two) :
    one.spots address = two.spots address := by
  have object : one.Same two (.object address) := agree.same _ (Or.inl rfl)
  have handle (handle : Handle) (owned : one.custody.Owns address handle) :
      one.Same two (.handle handle) :=
    agree.same _ (Or.inr (Or.inl ⟨handle, owned, rfl⟩))
  cases address with
  | context id => rfl
  | reader id =>
      have readers : one.readers.get? id = two.readers.get? id := object
      cases found : one.readers.get? id with
      | none => simp only [spots, ← readers, found, reduceCtorEq, false_and, exists_false]
      | some reader =>
          cases closed : reader.closed with
          | true => simp only [spots, ← readers, found, Option.some.injEq, exists_and_left,
              exists_eq_left', closed, reduceCtorEq, false_and]
          | false =>
              obtain ⟨source, live⟩ := Reader.exists_source sound closed (claim?_reader found)
              have same : one.host.boundary.readers.get? reader.handle =
                  two.host.boundary.readers.get? reader.handle :=
                handle (.reader reader.handle) (owns_reader found closed)
              have here := spots_reader found closed live
              rw [here, spots_reader (readers ▸ found) closed (same ▸ live)]
              refine Boundary.Reader.spots_congr fun fd own => target?_congr agree ?_
              rw [here]
              exact Boundary.Reader.descriptor_mem_spots_iff.mpr own
  | writer id =>
      have writers : one.writers.get? id = two.writers.get? id := object
      ext spot
      refine exists_congr fun writer => ?_
      rw [← writers]
      refine and_congr_right fun found => or_congr_right (and_congr_right fun closed => ?_)
      have same : one.host.boundary.writers.get? writer.handle =
          two.host.boundary.writers.get? writer.handle :=
        handle (.writer writer.handle) (owns_writer found closed)
      refine exists_congr fun target => ?_
      rw [← same]
      refine and_congr_right fun live => ?_
      rw [Boundary.Writer.spots_congr fun fd own => target?_congr agree (spots_writer found closed
        live (Boundary.Writer.descriptor_mem_spots_iff.mpr own))]

theorem uses_congr (sound : Sound one.custody) (agree : Agree (one.uses address) one two) :
    one.uses address = two.uses address := by
  have claims := claim?_congr (agree.same (.object address) (Or.inl rfl))
  simp only [uses, Custody.Owns, claims, spots_congr sound agree]

theorem changes_congr (sound : Sound one.custody) (agree : Agree (one.uses address) one two) :
    one.changes address = two.changes address := by
  rw [changes, uses_congr sound agree, changes]

end

/-- Two objects have no pipe in common, and no file and no memory that one of them writes. -/
structure Apart (held : Holdings) (one two : Address) : Prop where
  pipe : ∀ pipe, .pipe pipe ∈ held.spots one → .pipe pipe ∉ held.spots two
  written : ∀ spot, (∃ contents, spot = .file contents) ∨ (∃ memory, spot = .memory memory) →
    spot ∈ held.spots one → spot ∈ held.spots two →
      (∀ writer, one ≠ .writer writer) ∧ ∀ writer, two ≠ .writer writer

/-- Two objects have no descriptor in common, and so no offset either. -/
def Unshared (held : Holdings) (one two : Address) : Prop :=
  ∀ fd, held.descriptor? one = some fd → held.descriptor? two ≠ some fd

section

variable {held : Holdings} {one two : Address}

theorem Unshared.symm (unshared : held.Unshared one two) : held.Unshared two one :=
  fun fd theirs mine => unshared fd mine theirs

theorem unshared_of_context (held : Holdings) (id : Nat) (other : Address) :
    held.Unshared (.context id) other := fun _ mine => nomatch mine

theorem Apart.symm (apart : held.Apart one two) : held.Apart two one :=
  ⟨fun pipe here there => apart.pipe pipe there here, fun spot kind here there =>
    (apart.written spot kind there here).symm⟩

theorem apart_of_context (held : Holdings) (id : Nat) (other : Address) :
    held.Apart (.context id) other :=
  ⟨fun _ here => absurd here (Set.notMem_empty _), fun _ _ here =>
    absurd here (Set.notMem_empty _)⟩

/-- What one object has to do with is not changed by actions on another. -/
theorem notMem_changes (sound : Sound held.custody) (collecting : held.Collecting)
    (different : one ≠ two) (apart : held.Apart one two) (unshared : held.Unshared one two)
    {part : Part} (used : part ∈ held.uses one) : part ∉ held.changes two := by
  rintro ⟨also, kept⟩
  rcases used with rfl | ⟨handle, owned, rfl⟩ | ⟨spot, here, rfl⟩
  · exact object_notMem_uses different also
  · exact handle_notMem_uses sound owned different also
  · rcases also with same | ⟨handle, -, same⟩ | ⟨_, there, same⟩
    · cases same
    · cases same
    · cases same
      cases spot with
      | descriptor fd =>
          exact unshared fd (owned_descriptor_of_mem here) (owned_descriptor_of_mem there)
      | sink sink =>
          exact different (collecting.sinks.sole one two sink (owned_sink_of_mem collecting here)
            (owned_sink_of_mem collecting there))
      | pipe pipe => exact apart.pipe pipe here there
      | file contents =>
          obtain ⟨-, unwritten⟩ := apart.written _ (Or.inl ⟨contents, rfl⟩) here there
          cases two with
          | context id => exact there
          | reader id => exact kept id contents rfl rfl
          | writer id => exact unwritten id rfl
      | memory memory =>
          obtain ⟨-, unwritten⟩ := apart.written _ (Or.inr ⟨memory, rfl⟩) here there
          cases two with
          | context id => exact there
          | reader id => exact memory_notMem_spots_reader there
          | writer id => exact unwritten id rfl

end

/-- The temporary home of the session that an object keeps. -/
def home? (held : Holdings) (address : Address) : Option Path :=
  (held.record? address).bind (·.temporary)

/-- The path of the temporary home of one object's session makes a detour through the home of the
other's. -/
def Entangled (held : Holdings) (one two : Address) : Prop :=
  ∃ first second, held.home? one = some first ∧ held.home? two = some second ∧
    (held.world.Detour (held.world.place first) second ∨
      held.world.Detour (held.world.place second) first)

/-- Two objects keep the same session, as far as they keep one. -/
def SameSession (held : Holdings) (one two : Address) : Prop :=
  ∀ first second, held.custody.Holds one first → held.custody.Holds two second → first = second

/-- Two actions have the same answers in both orders and lead to the same state, but for the
ledger. -/
def Commute (held : Holdings) (first second : Action) : Prop :=
  ∃ answer other afterOne afterTwo both swapped,
    held.perform first = .done (answer, afterOne) ∧
    afterOne.perform second = .done (other, both) ∧
    held.perform second = .done (other, afterTwo) ∧
    afterTwo.perform first = .done (answer, swapped) ∧ both.unrecorded = swapped.unrecorded

/-- It makes no difference after how many of the actions another one is done: all answers are the
same, and so is the state in the end, but for the ledger. -/
def Movable (held : Holdings) (moved : Action) (actions : List Action) : Prop :=
  ∃ (answer : Answer) (answers : List Answer) (common : Holdings), ∀ count, ∃ final,
    held.run (actions.take count ++ moved :: actions.drop count) =
      .done (answers.take count ++ answer :: answers.drop count, final) ∧
    final.unrecorded = common

/-- What holds of what is held, however a program runs. -/
structure Ordered (held : Holdings) : Prop where
  sound : Sound held.custody
  proper : Proper held.host.boundary
  collecting : held.Collecting

theorem not_entangled_of_sameSession {held : Holdings} {one two : Address}
    (same : held.SameSession one two) : ¬ held.Entangled one two := by
  rintro ⟨first, second, here, there, detour⟩
  obtain ⟨record, mine, home⟩ := Option.bind_eq_some_iff.mp here
  obtain ⟨other, theirs, away⟩ := Option.bind_eq_some_iff.mp there
  obtain ⟨claim, claimed, found⟩ := Option.bind_eq_some_iff.mp mine
  obtain ⟨also, given, standing⟩ := Option.bind_eq_some_iff.mp theirs
  have shares := same _ _ (Custody.holds_of_claim claimed) (Custody.holds_of_claim given)
  rw [shares, standing] at found
  cases found
  cases home.symm.trans away
  rcases detour with ⟨_, -, -, outside⟩ | ⟨_, -, -, outside⟩ <;> exact outside List.prefix_rfl

section

variable {held : Holdings} {one two : Address} {first second : Action}

theorem gives_congr {held other : Holdings} {address : Address} {action : Action}
    (on : action.On address)
    (claims : held.custody.claim? address = other.custody.claim? address) :
    held.gives action = other.gives action := by
  rcases on.ending with quiet | ends
  · rw [gives_of_quiet quiet, gives_of_quiet quiet]
  · rw [gives, gives, ends, Option.bind_some, Option.bind_some, claims]

theorem isSome_of_gives (sound : Sound held.custody) {action : Action} {share : Nat}
    (gives : held.gives action = some share) : (held.host.shares.get? share).isSome := by
  obtain ⟨claim, found, rfl⟩ := Option.map_eq_some_iff.mp gives
  obtain ⟨address, -, also⟩ := Option.bind_eq_some_iff.mp found
  exact sound.shared address claim.share (Custody.holds_of_claim also)

/-- An action gives up the share of its object. -/
theorem holds_of_gives (on : first.On one) {share : Nat} (gives : held.gives first = some share) :
    held.custody.Holds one share := by
  obtain ⟨claim, found, rfl⟩ := Option.map_eq_some_iff.mp gives
  obtain ⟨address, ends, found⟩ := Option.bind_eq_some_iff.mp found
  rcases on.ending with quiet | same
  · cases quiet.symm.trans ends
  · cases same.symm.trans ends
    exact Custody.holds_of_claim found

theorem record?_of_holds {share : Nat} (holds : held.custody.Holds one share) {state : Share}
    (shared : held.host.shares.get? share = some state) {record : Engine.Session}
    (live : held.host.boundary.contexts.get? state.session = some record) :
    held.record? one = some record := by
  obtain ⟨claim, claimed, rfl⟩ := holds
  simp only [record?, claimed, Option.bind_some, shared, live]

/-- Two shares may be given up in either order. -/
theorem sessions_remaining_comm (ordered : held.Ordered) (onOne : first.On one)
    (onTwo : second.On two) (straight : ¬ held.Entangled one two) :
    ((held.remaining (held.gives first)).remaining (held.gives second)).host.sessions =
      ((held.remaining (held.gives second)).remaining (held.gives first)).host.sessions := by
  obtain ⟨sound, proper, -⟩ := ordered
  cases gaveOne : held.gives first with
  | none => rfl
  | some share =>
      cases gaveTwo : held.gives second with
      | none => rfl
      | some other =>
          refine sessions_parted_comm (fun share state shared => ?_) sound.apart
            (isSome_of_gives sound gaveOne) (isSome_of_gives sound gaveTwo) ?_
          · obtain ⟨record, live, -⟩ := sound.session share state shared
            exact ⟨record, live⟩
          · intro state also record theirs shared beside live standing
            have mine := record?_of_holds (holds_of_gives onOne gaveOne) shared live
            have others := record?_of_holds (holds_of_gives onTwo gaveTwo) beside standing
            refine Engine.Session.close_comm
              (fun path home => proper _ record path live home _)
              (fun path home => proper _ theirs path standing home _) fun path further home away => ?_
            have here : held.home? one = some path := by rw [home?, mine, Option.bind_some, home]
            have there : held.home? two = some further := by
              rw [home?, others, Option.bind_some, away]
            exact ⟨fun detour => straight ⟨path, further, here, there, Or.inl detour⟩,
              fun detour => straight ⟨path, further, here, there, Or.inr detour⟩⟩

/-- The session of an object outlives whatever others give up. -/
theorem record?_remaining (sound : Sound held.custody) (on : first.On one) (different : two ≠ one) :
    (held.custody.claim? two).bind (fun claim =>
        ((held.remaining (held.gives first)).host.shares.get? claim.share).bind fun state =>
          (held.remaining (held.gives first)).host.boundary.contexts.get? state.session) =
      held.record? two := by
  cases claimed : held.custody.claim? two with
  | none => simp only [record?, claimed, Option.bind_none]
  | some claim =>
      have holds := Custody.holds_of_claim claimed
      obtain ⟨state, shared⟩ : ∃ state, held.host.shares.get? claim.share = some state :=
        sound.exists_share holds
      simp only [record?, claimed, Option.bind_some, shared]
      cases given : held.gives first with
      | none => simp only [remaining, shared, Option.bind_some]
      | some share =>
          obtain ⟨other, also⟩ := Option.isSome_iff_exists.mp (isSome_of_gives sound given)
          obtain ⟨theirs, beside, -⟩ := sound.session share other also
          have gave := holds_of_gives on given
          simp only [remaining, parted_eq also beside]
          split
          · rename_i last
            have only := sound.only_holder gave also last
            have apart : claim.share ≠ share := by
              rintro rfl
              have inside : two ∈ held.custody.holders claim.share := holds
              rw [only] at inside
              exact different inside
            have distinct : state.session ≠ other.session := fun same =>
              apart (sound.apart _ _ state other shared also same)
            simp only [note, Arena.get?_release_ne _ apart, shared, Option.bind_some,
              Arena.get?_release_ne _ distinct]
          · by_cases same : claim.share = share
            · subst same
              cases shared.symm.trans also
              simp only [Arena.get?_set_self _ shared, Option.bind_some]
            · simp only [Arena.get?_set_ne _ _ same, shared, Option.bind_some]

end

section

variable {held : Holdings} {one two : Address} {first second : Action}

/-- An action does the same after an action on another object. -/
theorem perform_after (sound : Sound held.custody) (collecting : held.Collecting)
    (onOne : first.On one) (onTwo : second.On two) (different : one ≠ two)
    (apart : held.Apart one two) (unshared : held.Unshared one two) {answer other : Answer}
    {afterOne afterTwo : Holdings} (done : held.perform first = .done (answer, afterOne))
    (also : held.perform second = .done (other, afterTwo)) :
    ∃ both, afterOne.perform second = .done (other, both) ∧
      Agree (held.uses two) afterTwo both ∧
      Confined (held.changes two) afterOne both ∧
      both.host.sessions =
        ((held.remaining (held.gives first)).remaining (held.gives second)).host.sessions := by
  have acted := acted_perform sound onOne done
  have further := sound_perform sound done
  have agree : Agree (held.uses two) held afterOne :=
    (acted.confined.agree fun part used =>
      notMem_changes sound collecting different.symm apart.symm unshared.symm used).symm
  have claims := claim?_congr (agree.same (.object two) (Or.inl rfl))
  obtain ⟨tree, others⟩ := Prod.mk.inj acted.sessions
  obtain ⟨contexts, shares⟩ := Prod.mk.inj others
  have records : held.record? two = afterOne.record? two := by
    rw [← record?_remaining sound onOne different.symm, record?, ← claims, contexts, shares]
  obtain ⟨_, _, both, same, finished, agrees⟩ :=
    agree_perform sound further onTwo agree subset_rfl records
  cases also.symm.trans same
  have later := acted_perform further onTwo finished
  refine ⟨both, finished, agrees, ?_, ?_⟩
  · rw [changes_congr sound agree]
    exact later.confined
  · rw [later.sessions, ← gives_congr onTwo claims]
    refine sessions_remaining_congr acted.sessions ?_ _
    have worlds := bare_world (acted.confined.bare.trans
      (confined_remaining held (held.gives first)).bare.symm)
    exact congrArg (·.workingDirectory) worlds

/-- Actions on different objects that are apart may be done in either order. -/
theorem Ordered.commute (ordered : held.Ordered) (onOne : first.On one) (onTwo : second.On two)
    (different : one ≠ two) (apart : held.Apart one two) (unshared : held.Unshared one two)
    (straight : ¬ held.Entangled one two) : held.Commute first second := by
  have aside := sessions_remaining_comm ordered onOne onTwo straight
  obtain ⟨sound, -, collecting⟩ := ordered
  obtain ⟨answer, afterOne, done, -⟩ := perform_spec sound first
  obtain ⟨other, afterTwo, also, -⟩ := perform_spec sound second
  obtain ⟨both, later, agreeTwo, confinedTwo, sessions⟩ :=
    perform_after sound collecting onOne onTwo different apart unshared done also
  obtain ⟨swapped, earlier, agreeOne, confinedOne, others⟩ := perform_after sound collecting
    onTwo onOne different.symm apart.symm unshared.symm also done
  have changedOne := (acted_perform sound onOne done).confined
  have changedTwo := (acted_perform sound onTwo also).confined
  refine ⟨answer, other, afterOne, afterTwo, both, swapped, done, later, also, earlier, ?_⟩
  refine eq_of_same ?_ (fun part => ?_) ?_
  · rw [confinedTwo.bare, changedOne.bare, confinedOne.bare, changedTwo.bare]
  · -- A part is changed by one of the two at most, and as without the other.
    by_cases mine : part ∈ held.changes one
    · have unchanged : part ∉ held.changes two :=
        notMem_changes sound collecting different apart unshared mine.1
      exact (confinedTwo.stays part unchanged).trans (agreeOne.same part mine.1)
    · by_cases theirs : part ∈ held.changes two
      · exact ((confinedOne.stays part mine).trans (agreeTwo.same part theirs.1)).symm
      · exact ((confinedTwo.stays part theirs).trans (changedOne.stays part mine)).trans
          ((confinedOne.stays part mine).trans (changedTwo.stays part theirs)).symm
  · rw [sessions, others, aside]

/-- The ledger plays no part in an action. -/
theorem perform_unrecorded {former latter : Holdings} (soundFormer : Sound former.custody)
    (soundLatter : Sound latter.custody) (same : former.unrecorded = latter.unrecorded)
    (on : first.On one) :
    ∃ answer after further, former.perform first = .done (answer, after) ∧
      latter.perform first = .done (answer, further) ∧ after.unrecorded = further.unrecorded := by
  have parts (part : Part) : former.Same latter part := by
    have both : former.unrecorded.Same latter.unrecorded part := same ▸ Same.refl _ part
    rcases part with (_ | _ | _) | (_ | _ | _) | _ <;> exact both
  have bares : former.unrecorded.bare = latter.unrecorded.bare := congrArg bare same
  have agree : Agree Set.univ former latter := ⟨bares, fun part _ => parts part⟩
  have claims := claim?_congr (parts (.object one))
  have sessions : former.host.sessions = latter.host.sessions := by
    have both := congrArg (fun held => held.host.sessions) same
    exact both
  have directories : former.world.workingDirectory = latter.world.workingDirectory := by
    have both := congrArg (fun held => held.world.workingDirectory) same
    exact both
  have records : former.record? one = latter.record? one := by
    obtain ⟨-, others⟩ := Prod.mk.inj sessions
    obtain ⟨contexts, shares⟩ := Prod.mk.inj others
    rw [record?, record?, claims, contexts, shares]
  obtain ⟨answer, after, further, done, also, agrees⟩ :=
    agree_perform soundFormer soundLatter on agree (Set.subset_univ _) records
  refine ⟨answer, after, further, done, also,
    eq_of_same agrees.bare (fun part => agrees.same part trivial) ?_⟩
  rw [(acted_perform soundFormer on done).sessions, (acted_perform soundLatter on also).sessions,
    gives_congr on claims]
  exact sessions_remaining_congr sessions directories _

theorem run_unrecorded {actions : List Action}
    (each : ∀ action ∈ actions, ∃ address, action.On address) {former latter : Holdings}
    (soundFormer : Sound former.custody) (soundLatter : Sound latter.custody)
    (same : former.unrecorded = latter.unrecorded) :
    ∃ answers after further, former.run actions = .done (answers, after) ∧
      latter.run actions = .done (answers, further) ∧ after.unrecorded = further.unrecorded := by
  induction actions generalizing former latter with
  | nil => exact ⟨[], former, latter, rfl, rfl, same⟩
  | cons action rest ih =>
      obtain ⟨address, on⟩ := each action List.mem_cons_self
      obtain ⟨answer, after, further, done, also, same⟩ :=
        perform_unrecorded soundFormer soundLatter same on
      obtain ⟨answers, final, last, ran, alike, same⟩ :=
        ih (fun action inside => each action (List.mem_cons_of_mem _ inside))
          (sound_perform soundFormer done) (sound_perform soundLatter also) same
      exact ⟨answer :: answers, final, last, run_cons done ran, run_cons also alike, same⟩

/-- An action on an object leaves everybody with the claims that they had, or with none. -/
theorem claims_after (sound : Sound held.custody) (on : first.On one) {answer : Answer}
    {after : Holdings} (done : held.perform first = .done (answer, after)) :
    Moves held.custody after.custody ∧ ∀ other claim, after.custody.claim? other = some claim →
      held.custody.claim? other = some claim := by
  obtain ⟨_, _, finished, performed⟩ := perform_spec sound first
  cases done.symm.trans finished
  cases performed with
  | kept stays unopened moves => exact ⟨moves, fun _ _ => id⟩
  | opened stays opens given fresh renewed moves =>
      rw [Action.opens?_of_closed on.closed] at opens
      cases opens
  | ended ends unopened renewed ebbs =>
      refine ⟨Ebbs.moves ebbs, fun other claim found => ?_⟩
      rw [renewed.custody, Custody.claim?_put] at found
      split at found
      · cases found
      · exact found
  | began build made renewed began =>
      subst build
      cases on.address

/-- No object comes to keep another session by an action on an object. -/
theorem record?_of_after (sound : Sound held.custody) (on : first.On one) {answer : Answer}
    {after : Holdings} (done : held.perform first = .done (answer, after)) {other : Address}
    {record : Engine.Session} (found : after.record? other = some record) :
    held.record? other = some record := by
  obtain ⟨moves, fewer⟩ := claims_after sound on done
  obtain ⟨claim, claimed, kept⟩ := Option.bind_eq_some_iff.mp found
  obtain ⟨state, shared, live⟩ := Option.bind_eq_some_iff.mp kept
  obtain ⟨earlier, there, same⟩ := moves.share sound shared
  refine record?_of_holds (Custody.holds_of_claim (fewer other claim claimed)) there ?_
  rw [same]
  exact moves.session sound live

theorem Entangled.before (sound : Sound held.custody) (on : first.On one) {answer : Answer}
    {after : Holdings} (done : held.perform first = .done (answer, after)) {other further : Address}
    (entangled : after.Entangled other further) : held.Entangled other further := by
  obtain ⟨here, there, mine, theirs, detour⟩ := entangled
  have home {address : Address} {path : Path} (found : after.home? address = some path) :
      held.home? address = some path := by
    obtain ⟨record, kept, temporary⟩ := Option.bind_eq_some_iff.mp found
    rw [home?, record?_of_after sound on done kept, Option.bind_some, temporary]
  have directory : after.world.workingDirectory = held.world.workingDirectory :=
    congrArg (·.workingDirectory) (bare_world (acted_perform sound on done).confined.bare)
  refine ⟨here, there, home mine, home theirs, ?_⟩
  rw [World.place_congr directory, World.place_congr directory] at detour
  exact detour.imp (World.detour_congr directory).mp (World.detour_congr directory).mp

theorem Ordered.perform (ordered : held.Ordered) {action : Action} {answer : Answer}
    {after : Holdings} (done : held.perform action = .done (answer, after)) : after.Ordered := by
  obtain ⟨sound, proper, collecting⟩ := ordered
  obtain ⟨_, _, finished, performed⟩ := perform_spec sound action
  cases done.symm.trans finished
  exact ⟨performed.sound sound, performed.keeps kept_proper sound proper,
    collecting.perform sound done⟩

/-- An action on a context may be moved through actions on anything else. -/
theorem Ordered.move {id : Nat} {ending : Action} (on : ending.On (.context id))
    {actions : List Action} (ordered : held.Ordered)
    (each : ∀ action ∈ actions, ∃ address, action.On address ∧ address ≠ .context id ∧
      ¬ held.Entangled (.context id) address) : held.Movable ending actions := by
  induction actions generalizing held with
  | nil =>
      obtain ⟨answer, after, done, -⟩ := perform_spec ordered.sound ending
      refine ⟨answer, [], after.unrecorded, fun count => ⟨after, ?_, rfl⟩⟩
      simp only [List.take_nil, List.drop_nil, List.nil_append]
      exact run_cons done rfl
  | cons action rest ih =>
      obtain ⟨address, onOther, different, straight⟩ := each action List.mem_cons_self
      obtain ⟨answer, other, ended, after, both, swapped, done, later, also, earlier, same⟩ :=
        ordered.commute on onOther different.symm (apart_of_context held id address)
          (unshared_of_context held id address) straight
      have middle := ordered.perform also
      obtain ⟨last, answers, common, moved⟩ := ih middle fun action inside => by
        obtain ⟨address, on, different, straight⟩ := each action (List.mem_cons_of_mem _ inside)
        exact ⟨address, on, different, fun entangled =>
          straight (entangled.before ordered.sound onOther also)⟩
      -- The end comes first after the next action: what follows is the same as without it.
      obtain ⟨final, ran, reached⟩ := moved 0
      have soundEnded := sound_perform (sound_perform ordered.sound done) later
      obtain ⟨more, further, finished, alike, ending, equal⟩ := run_unrecorded
        (fun action inside => (each action (List.mem_cons_of_mem _ inside)).imp
          fun _ both => both.1)
        soundEnded (sound_perform middle.sound earlier) same
      simp only [List.take_zero, List.drop_zero, List.nil_append] at ran
      rw [run_cons earlier ending] at ran
      cases ran
      refine ⟨answer, other :: answers, common, fun count => ?_⟩
      cases count with
      | zero => exact ⟨further, run_cons done (run_cons later alike), equal.trans reached⟩
      | succ count =>
          obtain ⟨final, ran, reached⟩ := moved count
          exact ⟨final, run_cons also ran, reached⟩

end

end Holdings

/-- What a program may come to hold: one action after the other, and the world as it likes in
between, but for the sinks, which are known to writers only. -/
inductive Reached (first : Holdings) : Holdings → Prop where
  | start : Reached first first
  | act {held after : Holdings} {action : Action} {answer : Answer} (earlier : Reached first held)
      (done : held.perform action = .done (answer, after)) : Reached first after
  | change {held : Holdings} {world : World} (earlier : Reached first held)
      (spares : held.SparesSinks world) : Reached first (held.inWorld world)

theorem Reached.ordered {first held : Holdings} (reached : Reached first held)
    (start : first.Ordered) : held.Ordered := by
  induction reached with
  | start => exact start
  | act earlier done ih => exact ih.perform done
  | change earlier spares ih =>
      exact ⟨Holdings.sound_inWorld ih.sound _, ih.proper,
        ih.collecting.spared ⟨rfl, rfl, rfl, rfl⟩ spares⟩

theorem Holdings.Ordered.start (world : World) : (Holdings.start world).Ordered :=
  ⟨sound_start world, proper_start world, collecting_start world⟩

namespace Holdings

/-- Do two actions have the same answers in both orders, and lead to the same state? -/
def eitherWay (held : Holdings) (first second : Action) : Outcome Bool := do
  let (answers, both) ← held.run [first, second]
  let (swappedAnswers, swapped) ← held.run [second, first]
  .done (decide (answers = swappedAnswers.reverse ∧ both.unrecorded = swapped.unrecorded))

theorem Commute.eitherWay {held : Holdings} {first second : Action}
    (commute : held.Commute first second) : held.eitherWay first second = .done true := by
  obtain ⟨answer, other, afterOne, afterTwo, both, swapped, done, later, also, earlier, same⟩ :=
    commute
  have one : held.run [first, second] = .done ([answer, other], both) :=
    run_cons done (run_cons later rfl)
  have two : held.run [second, first] = .done ([other, answer], swapped) :=
    run_cons also (run_cons earlier rfl)
  have checked : [answer, other] = [other, answer].reverse ∧ both.unrecorded = swapped.unrecorded :=
    ⟨rfl, same⟩
  simp only [Holdings.eitherWay, one, two, Outcome.done_bind, decide_eq_true checked]

/-- The directory for temporary files is now found through the home of the session that the first
context keeps. -/
def throughHome (held : Holdings) : World :=
  held.world.setVariable false (((held.home? (.context 0)).getD []).join Path.dotDot)

end Holdings

/-- The home of the second session is made through that of the first one. -/
def nested : Outcome Holdings := do
  let (_, first) ← (Holdings.start World.empty).perform (.build { ephemeral := true })
  let (_, second) ← (first.inWorld first.throughHome).perform (.build { ephemeral := true })
  .done second

/-- It does matter which of two sessions ends first if the home of one was made through that of the
other. -/
theorem exists_entangled_not_commute :
    ∃ held, Reached (Holdings.start World.empty) held ∧
      held.contexts.get? 0 = some { share := 0 } ∧ held.contexts.get? 1 = some { share := 1 } ∧
      ¬ held.Commute (.context 0 .drop) (.context 1 .drop) := by
  obtain ⟨_, first, built, same, -⟩ :=
    Holdings.streams_build (Holdings.start World.empty) { ephemeral := true }
  have spares : first.SparesSinks first.throughHome := by
    intro address sink own
    rw [← (same.belongings address).2.2] at own
    cases address <;> cases own
  obtain ⟨_, held, again, -⟩ :=
    Holdings.streams_build (first.inWorld first.throughHome) { ephemeral := true }
  have checked : (nested >>= fun held => Outcome.done (decide
      (held.contexts.get? 0 = some { share := 0 } ∧
        held.contexts.get? 1 = some { share := 1 }))) = .done true := by decide +kernel
  have differs : (nested >>= fun held =>
      held.eitherWay (.context 0 .drop) (.context 1 .drop)) = .done false := by decide +kernel
  have made : nested = .done held := by
    simp only [nested, built, again, Outcome.done_bind]
  rw [made, Outcome.done_bind] at checked differs
  obtain ⟨outer, inner⟩ := of_decide_eq_true (Outcome.done.inj checked)
  refine ⟨held, ((Reached.start.act built).change spares).act again, outer, inner,
    fun commute => ?_⟩
  cases commute.eitherWay.symm.trans differs

/-- A world with one file, and one descriptor that reads it. -/
def oneFile : World :=
  { World.empty with
    files := ⟨[some #[1, 2, 3, 4]]⟩
    descriptors := ⟨[some { target := .file 0, readable := true }]⟩ }

/-- Two readers over the same descriptor. -/
def sharing : List Action :=
  [.build { home := some [Path.slash] }, .context 0 (.readerOverDescriptor (.owned 0)),
    .context 0 (.readerOverDescriptor (.raw 0))]

/-- It does matter which of two readers reads first if both are over one descriptor. -/
theorem exists_shared_not_commute :
    ∃ held, Reached (Holdings.start oneFile) held ∧
      held.readers.get? 0 = some { handle := 0, share := 0 } ∧
      held.readers.get? 1 = some { handle := 1, share := 0 } ∧
      held.Apart (.reader 0) (.reader 1) ∧
      ¬ held.Commute (.reader 0 (.read 2)) (.reader 1 (.read 2)) := by
  obtain ⟨_, first, built, performed⟩ := Holdings.perform_spec
    (Holdings.sound_start oneFile) (.build { home := some [Path.slash] })
  have soundFirst := performed.sound (Holdings.sound_start oneFile)
  obtain ⟨_, second, opened, performed⟩ :=
    Holdings.perform_spec soundFirst (.context 0 (.readerOverDescriptor (.owned 0)))
  obtain ⟨_, held, again, -⟩ := Holdings.perform_spec (performed.sound soundFirst)
    (.context 0 (.readerOverDescriptor (.raw 0)))
  have ran : (Holdings.start oneFile).run sharing = .done (_, held) :=
    Holdings.run_cons built (Holdings.run_cons opened (Holdings.run_cons again rfl))
  have checked : ((Holdings.start oneFile).run sharing >>= fun result =>
      Outcome.done (decide (result.2.readers.get? 0 = some { handle := 0, share := 0 } ∧
        result.2.readers.get? 1 = some { handle := 1, share := 0 } ∧
        result.2.host.boundary.readers.get? 0 = some (.descriptor 0) ∧
        result.2.world.target? 0 = some (.file 0)))) = .done true := by decide +kernel
  have differs : ((Holdings.start oneFile).run sharing >>= fun result =>
      result.2.eitherWay (.reader 0 (.read 2)) (.reader 1 (.read 2))) = .done false := by
    decide +kernel
  rw [ran, Outcome.done_bind] at checked differs
  obtain ⟨found, other, live, target⟩ := of_decide_eq_true (Outcome.done.inj checked)
  refine ⟨held, ((Reached.start.act built).act opened).act again, found, other, ⟨?_, ?_⟩,
    fun commute => ?_⟩
  · intro pipe here
    rw [Holdings.spots_reader found rfl live] at here
    rcases here with same | behind
    · cases same
    · cases (congrArg (·.bind Target.spot?) target).symm.trans behind
  · exact fun _ _ _ _ => ⟨nofun, nofun⟩
  · cases commute.eitherWay.symm.trans differs

end Host

end SessionStreams
