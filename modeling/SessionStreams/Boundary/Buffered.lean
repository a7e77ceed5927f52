import SessionStreams.World.Failure

set_option autoImplicit false

/- Buffered writing to any device. A device is offered bytes and takes some of them from the front,
fails, or is interrupted. Draining loses nothing, since what the device took, followed by what is
still pending, is what was pending before (`drain_conserves`), and a device that takes something of
each offer gets all of it (`drain_of_willing`). A write adds just the bytes that it reports as
taken, none if it fails (`write_conserves`). -/

namespace SessionStreams.Boundary

/-- What comes of an offer to a device. One that is interrupted has taken nothing yet, and goes on
when it is offered the same again. -/
inductive Response (σ : Type) where
  | answered (answer : Except IoFailure Nat) (state : σ)
  | interrupted (state : σ) (again : Response σ)

namespace Response

variable {σ τ : Type}

/-- The end of a single offer. -/
def first : Response σ → Except IoFailure Nat × σ
  | answered answer state => (answer, state)
  | interrupted state _ => (.error (.os .interrupted), state)

/-- The end of an offer that is made again whenever it is interrupted. -/
def last : Response σ → Except IoFailure Nat × σ
  | answered answer state => (answer, state)
  | interrupted _ again => again.last

def map (project : σ → τ) : Response σ → Response τ
  | answered answer state => .answered answer (project state)
  | interrupted state again => .interrupted (project state) (again.map project)

theorem first_map (project : σ → τ) (response : Response σ) :
    (response.map project).first = (response.first.1, project response.first.2) := by
  cases response <;> rfl

theorem last_map (project : σ → τ) (response : Response σ) :
    (response.map project).last = (response.last.1, project response.last.2) := by
  induction response with
  | answered answer state => rfl
  | interrupted state again ih => exact ih

end Response

/-- What a device in some state does with the bytes it is offered. -/
abbrev Offer (σ : Type) := Bytes → σ → Response σ

namespace Offer

variable {σ : Type}

def once (offer : Offer σ) (data : Bytes) (state : σ) : Except IoFailure Nat × σ :=
  (offer data state).first

def patient (offer : Offer σ) (data : Bytes) (state : σ) : Except IoFailure Nat × σ :=
  (offer data state).last

/-- A device that is never interrupted. -/
def steady (push : Bytes → σ → Except IoFailure Nat × σ) : Offer σ := fun data state =>
  .answered (push data state).1 (push data state).2

@[simp] theorem patient_steady (push : Bytes → σ → Except IoFailure Nat × σ) :
    (steady push).patient = push := rfl

end Offer

namespace Buffered

def capacity : Nat := 8192

variable {σ : Type}

/-- Offers pending bytes until none is left or an offer fails. What is left stays pending. An offer
that is interrupted is made again. -/
def drain (offer : Offer σ) (pending : Bytes) (state : σ) : Except IoFailure Unit × Bytes × σ :=
  match pending with
  | [] => (.ok (), [], state)
  | byte :: rest =>
      match offer.patient (byte :: rest) state with
      | (.error failure, after) => (.error failure, byte :: rest, after)
      | (.ok 0, after) => (.error .nothingAccepted, byte :: rest, after)
      | (.ok (taken + 1), after) => drain offer (rest.drop taken) after
termination_by pending.length
decreasing_by
  simp only [List.length_drop, List.length_cons]
  omega

/-- Takes data behind the pending bytes. Data that does not fit drains the buffer first, and data
of the buffer's capacity or more goes to the device directly, which is offered it just once. -/
def write (offer : Offer σ) (data pending : Bytes) (state : σ) :
    Except IoFailure Nat × Bytes × σ :=
  let spare := capacity - pending.length
  if data.length < spare then (.ok data.length, pending ++ data, state)
  else
    let ready := if spare < data.length then drain offer pending state else (.ok (), pending, state)
    match ready with
    | (.error failure, pending, state) => (.error failure, pending, state)
    | (.ok _, pending, state) =>
        if capacity ≤ data.length then
          match offer.once data state with
          | (taken, state) => (taken, pending, state)
        else (.ok data.length, pending ++ data, state)

/-- The device takes a non-empty front part of the data, or fails and takes nothing. `before` is
what it had taken, and `received` tells what it has taken in a state. -/
def Fair (received : σ → Bytes) (data before : Bytes) : Except IoFailure Nat × σ → Prop
  | (.ok taken, after) =>
      0 < taken ∧ taken ≤ data.length ∧ received after = before ++ data.take taken
  | (.error _, after) => received after = before

/-- Fair in the end, and nothing is taken by an offer that is interrupted. -/
def FairResponse (received : σ → Bytes) (data before : Bytes) : Response σ → Prop
  | .answered answer after => Fair received data before (answer, after)
  | .interrupted after again => received after = before ∧ FairResponse received data before again

/-- A device takes a non-empty front part of what it is offered, or fails and takes nothing.
`received` is what it has taken so far. -/
def Honest (offer : Offer σ) (received : σ → Bytes) : Prop :=
  ∀ data state, data ≠ [] → FairResponse received data (received state) (offer data state)

theorem FairResponse.first {received : σ → Bytes} {data before : Bytes} {response : Response σ}
    (fair : FairResponse received data before response) :
    Fair received data before response.first := by
  cases response with
  | answered answer after => exact fair
  | interrupted after again => exact fair.1

theorem FairResponse.last {received : σ → Bytes} {data before : Bytes} {response : Response σ}
    (fair : FairResponse received data before response) :
    Fair received data before response.last := by
  induction response with
  | answered answer after => exact fair
  | interrupted after again ih => exact ih fair.2

theorem Honest.once {offer : Offer σ} {received : σ → Bytes} (honest : Honest offer received)
    {data : Bytes} (someData : data ≠ []) (state : σ) :
    Fair received data (received state) (offer.once data state) :=
  (honest data state someData).first

theorem Honest.patient {offer : Offer σ} {received : σ → Bytes} (honest : Honest offer received)
    {data : Bytes} (someData : data ≠ []) (state : σ) :
    Fair received data (received state) (offer.patient data state) :=
  (honest data state someData).last

theorem drain_nil (offer : Offer σ) (state : σ) : drain offer [] state = (.ok (), [], state) := by
  rw [drain]

theorem drain_conserves {offer : Offer σ} {received : σ → Bytes}
    (honest : Honest offer received) (pending : Bytes) (state : σ) :
    received (drain offer pending state).2.2 ++ (drain offer pending state).2.1 =
      received state ++ pending := by
  fun_induction drain offer pending state with
  | case1 => simp
  | case2 state byte rest failure after offered =>
      have kept := honest.patient (List.cons_ne_nil byte rest) state
      rw [offered] at kept
      exact congrArg (· ++ byte :: rest) kept
  | case3 state byte rest after offered =>
      have kept := honest.patient (List.cons_ne_nil byte rest) state
      rw [offered] at kept
      exact absurd kept.1 (Nat.lt_irrefl 0)
  | case4 state byte rest taken after offered ih =>
      have kept := honest.patient (List.cons_ne_nil byte rest) state
      rw [offered] at kept
      rw [ih, kept.2.2, List.take_succ_cons, List.append_assoc, List.cons_append,
        List.take_append_drop]

theorem drain_pending_of_ok {offer : Offer σ} {pending : Bytes} {state : σ}
    (drained : (drain offer pending state).1 = .ok ()) : (drain offer pending state).2.1 = [] := by
  fun_induction drain offer pending state with
  | case1 => rfl
  | case2 => cases drained
  | case3 => cases drained
  | case4 state byte rest taken after offered ih => exact ih drained

/-- In a state of this kind, and in those that come of it, a device takes something of whatever it
is offered. -/
def Willing (offer : Offer σ) (ready : σ → Prop) : Prop :=
  ∀ data state, data ≠ [] → ready state →
    ∃ taken after, offer.patient data state = (.ok taken, after) ∧ 0 < taken ∧ ready after

/-- However little of each offer is taken, all of it is in the end. -/
theorem drain_of_willing {offer : Offer σ} {ready : σ → Prop} (willing : Willing offer ready)
    (pending : Bytes) {state : σ} (start : ready state) :
    ∃ after, drain offer pending state = (.ok (), [], after) ∧ ready after := by
  fun_induction drain offer pending state with
  | case1 state => exact ⟨state, rfl, start⟩
  | case2 state byte rest failure after offered =>
      obtain ⟨taken, next, answered, -⟩ := willing _ state (List.cons_ne_nil byte rest) start
      rw [offered] at answered
      cases answered
  | case3 state byte rest after offered =>
      obtain ⟨taken, next, answered, positive, -⟩ :=
        willing _ state (List.cons_ne_nil byte rest) start
      rw [offered] at answered
      cases answered
      exact absurd positive (Nat.lt_irrefl 0)
  | case4 state byte rest taken after offered ih =>
      obtain ⟨count, next, answered, -, still⟩ :=
        willing _ state (List.cons_ne_nil byte rest) start
      rw [offered] at answered
      cases answered
      exact ih still

theorem length_drain_le (offer : Offer σ) (pending : Bytes) (state : σ) :
    (drain offer pending state).2.1.length ≤ pending.length := by
  fun_induction drain offer pending state with
  | case1 => exact Nat.le_refl _
  | case2 => exact Nat.le_refl _
  | case3 => exact Nat.le_refl _
  | case4 state byte rest taken after offered ih =>
      apply Nat.le_trans ih
      simp only [List.length_drop, List.length_cons]
      omega

/-- How many bytes a write took. -/
def taken : Except IoFailure Nat → Nat
  | .ok count => count
  | .error _ => 0

theorem once_conserves {offer : Offer σ} {received : σ → Bytes} (honest : Honest offer received)
    {data : Bytes} (someData : data ≠ []) (state : σ) :
    received (offer.once data state).2 =
      received state ++ data.take (taken (offer.once data state).1) := by
  have kept := honest.once someData state
  cases offered : offer.once data state with
  | mk answer after =>
      rw [offered] at kept
      cases answer with
      | ok count => exact kept.2.2
      | error failure =>
          have same : received after = received state := kept
          simpa [taken] using same

theorem write_conserves {offer : Offer σ} {received : σ → Bytes} (honest : Honest offer received)
    (data pending : Bytes) (state : σ) :
    received (write offer data pending state).2.2 ++ (write offer data pending state).2.1 =
      received state ++ pending ++ data.take (taken (write offer data pending state).1) := by
  have drained := drain_conserves honest pending state
  have emptied : (drain offer pending state).1 = .ok () → (drain offer pending state).2.1 = [] :=
    drain_pending_of_ok
  unfold write
  by_cases fits : data.length < capacity - pending.length
  · simp [fits, taken]
  · have someData : capacity ≤ data.length → data ≠ [] := by
      intro direct empty
      simp [empty, capacity] at direct
    by_cases tight : capacity - pending.length < data.length
    · cases flushed : drain offer pending state with
      | mk answer rest =>
          cases rest with
          | mk kept after =>
              rw [flushed] at drained emptied
              simp only [fits, tight, if_true, if_false]
              cases answer with
              | error failure => simpa [taken] using drained
              | ok done =>
                  have nothing : kept = [] := emptied rfl
                  subst nothing
                  have all : received after = received state ++ pending := by simpa using drained
                  by_cases direct : capacity ≤ data.length
                  · simp [direct, once_conserves honest (someData direct), all]
                  · simp [direct, all, taken]
    · simp only [fits, tight, if_false]
      by_cases direct : capacity ≤ data.length
      · have clean : pending = [] := by
          apply List.eq_nil_of_length_eq_zero
          have positive : 0 < capacity := by decide
          omega
        subst clean
        simp [direct, once_conserves honest (someData direct)]
      · simp [direct, taken]

end Buffered

end SessionStreams.Boundary
