import SessionStreams.Proofs.Handovers

set_option autoImplicit false

namespace SessionStreams.Host

open Boundary (Outcome)

section

variable {custody : Custody} {address : Address}

/-- The second of two moves with the same claims, after the first. -/
theorem Moves.next {host after : Host} (first : Moves custody { custody with host })
    (second : Moves { custody with host } { custody with host := after }) :
    Moves custody { custody with host := after } :=
  first.trans second

theorem Reader.readExactlyGo_spec (sound : Sound custody) {reader : Reader}
    (found : custody.claim? address = reader.claim?) (missing : Nat) (got : Bytes) :
    ∃ result, readExactly.go reader missing got custody.host = .done result ∧
      Moves custody { custody with host := result.2 } := by
  induction missing using Nat.strong_induction_on generalizing custody got with
  | _ missing ih =>
      cases missing with
      | zero =>
          rw [readExactly.go]
          exact ⟨_, rfl, Relation.ReflTransGen.refl⟩
      | succ missing =>
          obtain ⟨⟨answer, host⟩, done, moves⟩ := Reader.read_spec sound found (missing + 1)
          rw [readExactly.go, done, Outcome.done_bind]
          cases answer with
          | error error => exact ⟨_, rfl, moves⟩
          | ok data =>
              cases data with
              | nil => exact ⟨_, rfl, moves⟩
              | cons byte rest =>
                  obtain ⟨result, further, more⟩ := ih (missing - rest.length) (by omega)
                    (Moves.sound moves sound) found (got ++ byte :: rest)
                  exact ⟨result, further, moves.next more⟩

theorem Reader.rounds_spec (sound : Sound custody) {reader : Reader}
    (found : custody.claim? address = reader.claim?) (count : Nat) (earlier : List Bytes)
    (limit : Nat) :
    ∃ result, reader.rounds count earlier custody.host limit = .done result ∧
      Moves custody { custody with host := result.2 } := by
  induction limit generalizing custody earlier with
  | zero =>
      rw [rounds]
      exact ⟨_, rfl, Relation.ReflTransGen.refl⟩
  | succ limit ih =>
      obtain ⟨⟨answer, host⟩, done, moves⟩ := Reader.read_spec sound found count
      rw [rounds, done]
      cases answer with
      | error error => exact ⟨_, rfl, moves⟩
      | ok data =>
          cases data with
          | nil => exact ⟨_, rfl, moves⟩
          | cons byte rest =>
              obtain ⟨result, further, more⟩ :=
                ih (Moves.sound moves sound) found ((byte :: rest) :: earlier)
              exact ⟨result, further, moves.next more⟩

theorem Reader.readToEnd_spec (sound : Sound custody) {reader : Reader}
    (found : custody.claim? address = reader.claim?) :
    ∃ data failure host, reader.readToEnd custody.host = .done (data, failure, host) ∧
      Moves custody { custody with host } := by
  obtain ⟨⟨rounds, host⟩, done, moves⟩ := Reader.rounds_spec sound found chunk []
    (reader.remaining custody.host + 1)
  refine ⟨rounds.data, rounds.failure, host, ?_, moves⟩
  rw [readToEnd, readLoop, done]
  rfl

theorem Reader.readText_spec (sound : Sound custody) {reader : Reader}
    (found : custody.claim? address = reader.claim?) :
    ∃ result, reader.readText custody.host = .done result ∧
      Moves custody { custody with host := result.2 } := by
  obtain ⟨data, failure, host, done, moves⟩ := Reader.readToEnd_spec sound found
  rw [readText, done, Outcome.done_bind]
  cases failure with
  | some error => exact ⟨_, rfl, moves⟩
  | none =>
      cases decoded : Text.decode? data with
      | none => exact ⟨(.error .malformedText, host), by simp only [decoded], moves⟩
      | some text => exact ⟨(.ok text, host), by simp only [decoded], moves⟩

theorem Writer.writeAll_spec (sound : Sound custody) {writer : Writer}
    (found : custody.claim? address = writer.claim?) (data : Bytes) :
    ∃ result, writer.writeAll data custody.host = .done result ∧
      Moves custody { custody with host := result.2 } := by
  induction size : data.length using Nat.strong_induction_on generalizing custody data with
  | _ length ih =>
      cases data with
      | nil =>
          rw [writeAll]
          exact ⟨_, rfl, Relation.ReflTransGen.refl⟩
      | cons byte rest =>
          obtain ⟨⟨answer, host⟩, done, moves⟩ := Writer.write_spec sound found (byte :: rest)
          rw [writeAll, done, Outcome.done_bind]
          cases answer with
          | error error => exact ⟨_, rfl, moves⟩
          | ok taken =>
              cases taken with
              | zero => exact ⟨_, rfl, moves⟩
              | succ taken =>
                  have shorter : (rest.drop taken).length < length := by
                    rw [← size, List.length_drop, List.length_cons]
                    omega
                  obtain ⟨result, further, more⟩ :=
                    ih _ shorter (Moves.sound moves sound) found (rest.drop taken) rfl
                  exact ⟨result, further, moves.next more⟩

end

/-- What happens next: an action, a whole read or write, or a change of the world that the program
has no part in. -/
inductive Turn where
  | act (action : Action)
  | readExactly (reader count : Nat)
  | readLoop (reader count : Nat)
  | readToEnd (reader : Nat)
  | readText (reader : Nat)
  | writeAll (writer : Nat) (data : Bytes)
  | change (world : World)

namespace Holdings

/-- What an object does to the host, if it is held. -/
def through {α β : Type} (held : Holdings) (object : Option α)
    (use : α → Host → Outcome (β × Host)) : Outcome Holdings :=
  match object with
  | none => .done held
  | some object => do
      let (_, host) ← use object held.host
      .done { held with host }

def take (held : Holdings) : Turn → Outcome Holdings
  | .act action => do
      let (_, after) ← held.perform action
      .done after
  | .readExactly id count => held.through (held.readers.get? id) (·.readExactly count)
  | .readLoop id count => held.through (held.readers.get? id) (·.readLoop count)
  | .readToEnd id => held.through (held.readers.get? id) fun reader host => do
      let (data, failure, host) ← reader.readToEnd host
      .done ((data, failure), host)
  | .readText id => held.through (held.readers.get? id) (·.readText)
  | .writeAll id data => held.through (held.writers.get? id) (·.writeAll data)
  | .change world => .done (held.inWorld world)

/-- What is held after some turns. -/
def proceed (held : Holdings) : List Turn → Outcome Holdings
  | [] => .done held
  | turn :: rest => do
      let after ← held.take turn
      after.proceed rest

variable {held : Holdings} {Property : Custody → Prop}

theorem through_spec (kept : Kept Property) (sound : Sound held.custody)
    (holds : Property held.custody) {α β : Type} {object : Option α}
    {use : α → Host → Outcome (β × Host)}
    (uses : ∀ found, object = some found → ∃ result, use found held.host = .done result ∧
      Moves held.custody { held.custody with host := result.2 }) :
    ∃ after, held.through object use = .done after ∧ Sound after.custody ∧
      Property after.custody := by
  cases object with
  | none => exact ⟨held, rfl, sound, holds⟩
  | some found =>
      obtain ⟨⟨answer, host⟩, done, moves⟩ := uses found rfl
      simp only [through, done, Outcome.done_bind]
      exact ⟨{ held with host }, rfl, Moves.sound moves sound, kept.moves moves sound holds⟩

/-- Every turn goes through, and keeps what neither moves nor the world can break. -/
theorem take_spec (kept : Kept Property)
    (outside : ∀ (held : Holdings) (world : World),
      Property held.custody → Property (held.inWorld world).custody)
    (sound : Sound held.custody) (holds : Property held.custody) (turn : Turn) :
    ∃ after, held.take turn = .done after ∧ Sound after.custody ∧ Property after.custody := by
  cases turn with
  | act action =>
      obtain ⟨answer, after, done, performed⟩ := perform_spec sound action
      refine ⟨after, ?_, performed.sound sound, performed.keeps kept sound holds⟩
      rw [take, done, Outcome.done_bind]
  | readExactly id count =>
      exact through_spec kept sound holds fun reader found =>
        Reader.readExactlyGo_spec sound (claim?_reader found) count []
  | readLoop id count =>
      exact through_spec kept sound holds fun reader found =>
        Reader.rounds_spec sound (claim?_reader found) count [] (reader.remaining held.host + 1)
  | readToEnd id =>
      rw [take]
      refine through_spec kept sound holds fun reader found => ?_
      obtain ⟨data, failure, host, done, moves⟩ :=
        Reader.readToEnd_spec sound (claim?_reader found)
      refine ⟨((data, failure), host), ?_, moves⟩
      rw [host_custody] at done
      rw [done, Outcome.done_bind]
  | readText id =>
      exact through_spec kept sound holds fun reader found =>
        Reader.readText_spec sound (claim?_reader found)
  | writeAll id data =>
      exact through_spec kept sound holds fun writer found =>
        Writer.writeAll_spec sound (claim?_writer found) data
  | change world =>
      exact ⟨held.inWorld world, rfl, sound_inWorld sound world, outside held world holds⟩

theorem proceed_spec (kept : Kept Property)
    (outside : ∀ (held : Holdings) (world : World),
      Property held.custody → Property (held.inWorld world).custody)
    (sound : Sound held.custody) (holds : Property held.custody) (turns : List Turn) :
    ∃ after, held.proceed turns = .done after ∧ Sound after.custody ∧ Property after.custody := by
  induction turns generalizing held with
  | nil => exact ⟨held, rfl, sound, holds⟩
  | cons turn rest ih =>
      obtain ⟨middle, done, still, keeps⟩ := take_spec kept outside sound holds turn
      obtain ⟨after, further, last⟩ := ih still keeps
      refine ⟨after, ?_, last⟩
      rw [proceed, done, Outcome.done_bind, further]

end Holdings

/-- The homes of all live sessions can be told to the caller. -/
def Clean (custody : Custody) : Prop :=
  ∀ id record, custody.host.boundary.contexts.get? id = some record → 0 ∉ record.home

theorem kept_clean : Kept Clean := by
  refine ⟨?_, ?_⟩
  · intro before after move sound clean id record live
    exact clean id record (move.session sound live)
  · intro settings address before after began sound clean id record live
    cases began with
    | @intro session new _ vacant added here built =>
        by_cases same : id = session
        · subst same
          obtain rfl := Option.some.inj (here.symm.trans live)
          exact Engine.Settings.zero_notMem_home_of_build built
        · have apart : Handle.context id ≠ .context session := fun both => same (by cases both; rfl)
          exact clean id record ((added.contexts_of_ne apart).symm.trans live)

theorem clean_start (world : World) : Clean (Holdings.start world).custody := by
  intro id record live
  cases live

namespace Holdings

variable {held : Holdings}

/-- Whatever turns a program takes, custody is sound after them, and all homes are clean. -/
theorem proceed_sound (world : World) (turns : List Turn) :
    ∃ held, (start world).proceed turns = .done held ∧ Sound held.custody ∧ Clean held.custody :=
  proceed_spec kept_clean (fun _ _ clean => clean) (sound_start world) (clean_start world) turns

/-- A stream that was made over a descriptor has the one that was handed over, which is not
negative. -/
theorem handed_of_made (sound : Sound held.custody) {id new : Nat} {handed : Handed}
    {action : ContextAction} {after : Holdings}
    (takes : action = .readerOverDescriptor handed ∨ action = .writerOverDescriptor handed)
    (made : held.perform (.context id action) = .done (.made new, after)) :
    ∃ (fd : Nat) (address : Address), handed.number = fd ∧ action.opening? new = some address ∧
      after.descriptor? address = some fd := by
  cases found : held.contexts.get? id with
  | none =>
      rw [perform, found] at made
      cases made
  | some context =>
      cases released : context.released with
      | true =>
          rw [perform_handed_of_released found released takes] at made
          cases made
      | false =>
          by_cases negative : handed.number < 0
          · obtain ⟨_, _, refused, ⟨error, rfl, -⟩, -⟩ :=
              perform_handed_of_negative found sound released negative takes
            rw [refused] at made
            cases made
          · obtain ⟨fd, given⟩ := Int.eq_ofNat_of_zero_le (Int.not_lt.mp negative)
            have bare : held.contexts.get? id = some { share := context.share } := by
              rw [found, ← released]
            obtain ⟨_, address, _, performed, opens, -, tenure⟩ := perform_handed_made bare given takes
            rw [performed] at made
            cases made
            exact ⟨fd, address, given, opens, (tenure.has (by simp)).1⟩

/-- Nothing that a program does in any state it can reach aborts. All homes of live sessions are
without a NUL and can be told, and so are the messages of all faults; and a stream over a descriptor
has one that is not negative. -/
theorem never_aborts (world : World) (turns : List Turn) :
    ∃ held, (start world).proceed turns = .done held ∧
      (∀ turn, ∃ after, held.take turn = .done after) ∧
      (∀ id record, held.host.boundary.contexts.get? id = some record → 0 ∉ record.home ∧
        ∃ text, held.host.boundary.contextHome (some id) = .done text ∧
          text.path = record.home) ∧
      (∀ fault : Boundary.Fault, 0 ∉ Text.encode fault.message ∧
        ∃ text, Boundary.errorText (some fault) = .done text ∧ text.text = fault.message) ∧
      ∀ id (handed : Handed) action,
        action = .readerOverDescriptor handed ∨ action = .writerOverDescriptor handed →
        ∀ new after, held.perform (.context id action) = .done (.made new, after) →
          ∃ (fd : Nat) (address : Address), handed.number = fd ∧
            action.opening? new = some address ∧ after.descriptor? address = some fd := by
  obtain ⟨held, done, sound, clean⟩ := proceed_sound world turns
  refine ⟨held, done, fun turn => ?_, fun id record live => ?_, fun fault => ?_,
    fun id handed action takes new after made => handed_of_made sound takes made⟩
  · obtain ⟨after, taken, -⟩ := take_spec kept_clean (fun _ _ clean => clean) sound clean turn
    exact ⟨after, taken⟩
  · have free := clean id record live
    exact ⟨free, Boundary.contextHome_of_live live free⟩
  · exact ⟨fault.zero_notMem_message, Boundary.errorText_spec fault⟩

end Holdings

end SessionStreams.Host
