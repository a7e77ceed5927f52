import SessionStreams.Proofs.Courses

set_option autoImplicit false

/- Talking to one stream while other things happen (`Dialogue`). A host program that uses a stream
may act on all its other objects in between, and the world may change as it likes as long as the
parts that the stream was made over stay as they are (`Holdings.Meanwhile`). Main statement: the
stream is then just what it was before (`Holdings.Meanwhile.own`). -/

namespace SessionStreams

/-- Steps of one kind, one after the other, and what happens in between. -/
inductive Dialogue {σ ε : Type} (Step : ε → σ → σ → Prop) (Between : σ → σ → Prop) (first : σ) :
    List ε → σ → Prop where
  | start : Dialogue Step Between first [] first
  | step {log : List ε} {state after : σ} {event : ε}
      (earlier : Dialogue Step Between first log state) (next : Step event state after) :
      Dialogue Step Between first (log ++ [event]) after
  | between {log : List ε} {state after : σ} (earlier : Dialogue Step Between first log state)
      (changed : Between state after) : Dialogue Step Between first log after

/-- What each step makes of the log, and what happens in between leaves, holds all along. -/
theorem Dialogue.keeps {σ ε : Type} {Step : ε → σ → σ → Prop} {Between : σ → σ → Prop}
    {first state : σ} {log : List ε} (dialogue : Dialogue Step Between first log state)
    (Holds : List ε → σ → Prop) (start : Holds [] first)
    (steps : ∀ {log state after event}, Holds log state → Step event state after →
      Holds (log ++ [event]) after)
    (stays : ∀ {log state after}, Holds log state → Between state after → Holds log after) :
    Holds log state := by
  induction dialogue with
  | start => exact start
  | step earlier next ih => exact steps ih next
  | between earlier changed ih => exact stays ih changed

/-- These parts are the same in both worlds. -/
def World.Leaves (spots : Set Spot) (before after : World) : Prop :=
  ∀ spot ∈ spots, after.at? spot = before.at? spot

/-- Other calls, which have no part in the stream, and changes of the world that leave some parts
alone. -/
structure Boundary.Meanwhile {α : Type} (streams : Boundary → Arena α) (id : Nat) (spots : Set Spot)
    (before after : Boundary) : Prop where
  stream : (streams after).get? id = (streams before).get? id
  leaves : World.Leaves spots before.world after.world

namespace Host

namespace Holdings

/-- An action on something else, or a change of the world, that leaves some parts alone. -/
inductive Meanwhile (address : Address) (spots : Set Spot) (held : Holdings) : Holdings → Prop where
  | act {action : Action} {answer : Answer} {after : Holdings}
      (aside : action.address? ≠ some address)
      (done : held.perform action = .done (answer, after))
      (leaves : World.Leaves spots held.world after.world) : Meanwhile address spots held after
  | change {world : World} (leaves : World.Leaves spots held.world world) :
      Meanwhile address spots held (held.inWorld world)

section

variable {held after : Holdings} {address : Address} {spots : Set Spot}

/-- An action on something else has no part in a stream that is there. -/
theorem own_of_aside (sound : Sound held.custody) (stream : address.IsStream)
    (known : held.Known address) {action : Action} {answer : Answer}
    (aside : action.address? ≠ some address) (done : held.perform action = .done (answer, after)) :
    held.SameOwn after address := by
  rcases action.kinds with ⟨config, rfl⟩ | ⟨id, asked, rfl, opens⟩ | ⟨other, on⟩
  · obtain ⟨_, _, built, same, -⟩ := streams_build held config
    cases done.symm.trans built
    exact same.own stream
  · obtain ⟨_, _, made, opening⟩ := opening_perform sound id opens
    cases done.symm.trans made
    cases opening with
    | refused unmade same kept closed => exact same.own stream
    | reader unforfeited opens readers opened handle sources writers targets gained =>
        refine own_of_new_reader sound stream readers sources writers targets ?_
        rintro rfl
        exact Nat.lt_irrefl _ known
    | writer unforfeited opens writers opened handle targets readers sources collects gained =>
        refine own_of_new_writer sound stream writers targets readers sources ?_
        rintro rfl
        exact Nat.lt_irrefl _ known
  · have apart : address ≠ other := by
      rintro rfl
      exact aside on.address
    exact own_of_other sound on done apart

theorem Meanwhile.sound (meanwhile : held.Meanwhile address spots after)
    (sound : Sound held.custody) : Sound after.custody := by
  cases meanwhile with
  | act aside done leaves => exact sound_perform sound done
  | change leaves => exact sound_inWorld sound _

theorem Meanwhile.leaves (meanwhile : held.Meanwhile address spots after) :
    World.Leaves spots held.world after.world := by
  cases meanwhile with
  | act aside done leaves => exact leaves
  | change leaves => exact leaves

theorem Meanwhile.own (meanwhile : held.Meanwhile address spots after)
    (sound : Sound held.custody) (stream : address.IsStream) (known : held.Known address) :
    held.SameOwn after address := by
  cases meanwhile with
  | act aside done leaves => exact own_of_aside sound stream known aside done
  | change leaves => exact SameStreams.own ⟨rfl, rfl, rfl, rfl⟩ stream

theorem Meanwhile.known (meanwhile : held.Meanwhile address spots after)
    (sound : Sound held.custody) {other : Address} (known : held.Known other) :
    after.Known other := by
  cases meanwhile with
  | act aside done leaves =>
      obtain ⟨_, _, performed, performs⟩ := perform_spec sound _
      cases done.symm.trans performed
      exact performs.known known
  | change leaves => cases other <;> exact known

end

end Holdings

end Host

end SessionStreams
