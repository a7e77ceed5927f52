import SessionStreams.Boundary.Stream

set_option autoImplicit false

/- Buffered writing over a run of requests. Main statement: whatever an honest device does, what it
has received and what is pending are together what was accepted, and flushes at the end deliver it
(`conserves_of_honest`). A descriptor that remembers what it took is such a device
(`honest_traced`). -/

namespace SessionStreams.Boundary

/-- What is asked of a writer before it is closed. -/
inductive Request where
  | write (data : Bytes)
  | flush
deriving DecidableEq

/-- The bytes of a request that have been accepted if so many of them were taken. -/
def Request.accepted (request : Request) (count : Nat) : Bytes :=
  match request with
  | .write data => data.take count
  | .flush => []

/-- All bytes that have been accepted, in order. -/
def accepted (requests : List Request) (counts : List Nat) : Bytes :=
  (requests.zipWith Request.accepted counts).flatten

theorem accepted_cons (request : Request) (requests : List Request) (count : Nat)
    (counts : List Nat) :
    accepted (request :: requests) (count :: counts) =
      request.accepted count ++ accepted requests counts := rfl

namespace Buffered

variable {σ τ : Type}

/-- One request, and how many bytes were taken; a flush takes none. -/
def serve (offer : Offer σ) (request : Request) (pending : Bytes) (state : σ) :
    Except IoFailure Nat × Bytes × σ :=
  match request with
  | .write data => write offer data pending state
  | .flush =>
      match drain offer pending state with
      | (flushed, pending, state) => (flushed.map fun _ => 0, pending, state)

def serveAll (offer : Offer σ) :
    List Request → Bytes → σ → List (Except IoFailure Nat) × Bytes × σ
  | [], pending, state => ([], pending, state)
  | request :: rest, pending, state =>
      let (answer, pending, state) := serve offer request pending state
      let (answers, pending, state) := serveAll offer rest pending state
      (answer :: answers, pending, state)

/-- Flushes so many times, whether they fail or not. -/
def settle (offer : Offer σ) : Nat → Bytes → σ → List (Except IoFailure Unit) × Bytes × σ
  | 0, pending, state => ([], pending, state)
  | attempts + 1, pending, state =>
      let (flushed, pending, state) := drain offer pending state
      let (others, pending, state) := settle offer attempts pending state
      (flushed :: others, pending, state)

theorem serve_conserves {offer : Offer σ} {received : σ → Bytes} (honest : Honest offer received)
    (request : Request) (pending : Bytes) (state : σ) :
    received (serve offer request pending state).2.2 ++ (serve offer request pending state).2.1 =
      received state ++ pending ++
        request.accepted (taken (serve offer request pending state).1) := by
  cases request with
  | write data => exact write_conserves honest data pending state
  | flush =>
      have drained := drain_conserves honest pending state
      simpa [serve, Request.accepted] using drained

theorem length_write_le (offer : Offer σ) (data : Bytes) {pending : Bytes} (state : σ)
    (fits : pending.length ≤ capacity) :
    (write offer data pending state).2.1.length ≤ capacity := by
  have drained := length_drain_le offer pending state
  have emptied : (drain offer pending state).1 = .ok () → (drain offer pending state).2.1 = [] :=
    drain_pending_of_ok
  unfold write
  by_cases roomy : data.length < capacity - pending.length
  · simp only [roomy, if_true, List.length_append]
    omega
  · by_cases tight : capacity - pending.length < data.length
    · cases flushed : drain offer pending state with
      | mk answer rest =>
          rw [flushed] at drained emptied
          simp only [roomy, tight, if_true, if_false]
          cases answer with
          | error failure => exact Nat.le_trans drained fits
          | ok done =>
              have nothing : rest.1 = [] := emptied rfl
              by_cases direct : capacity ≤ data.length
              · simp only [direct, if_true, nothing]
                exact Nat.zero_le _
              · simp only [direct, if_false, nothing, List.nil_append]
                omega
    · simp only [roomy, tight, if_false]
      by_cases direct : capacity ≤ data.length
      · simp only [direct, if_true]
        exact fits
      · simp only [direct, if_false, List.length_append]
        omega

/-- The buffer never holds more than its capacity. -/
theorem length_serve_le (offer : Offer σ) (request : Request) {pending : Bytes} (state : σ)
    (fits : pending.length ≤ capacity) :
    (serve offer request pending state).2.1.length ≤ capacity := by
  cases request with
  | write data => exact length_write_le offer data state fits
  | flush => exact Nat.le_trans (length_drain_le offer pending state) fits

theorem serveAll_conserves {offer : Offer σ} {received : σ → Bytes} (honest : Honest offer received)
    (requests : List Request) (pending : Bytes) (state : σ) :
    received (serveAll offer requests pending state).2.2 ++
        (serveAll offer requests pending state).2.1 =
      received state ++ pending ++
        accepted requests ((serveAll offer requests pending state).1.map taken) := by
  induction requests generalizing pending state with
  | nil =>
      rw [serveAll]
      exact (List.append_nil _).symm
  | cons request rest ih =>
      have step := serve_conserves honest request pending state
      have later := ih (serve offer request pending state).2.1
        (serve offer request pending state).2.2
      rw [step] at later
      simp only [serveAll, List.map_cons, accepted_cons]
      rw [later, List.append_assoc]

theorem length_serveAll_le (offer : Offer σ) (requests : List Request) {pending : Bytes}
    (state : σ) (fits : pending.length ≤ capacity) :
    (serveAll offer requests pending state).2.1.length ≤ capacity := by
  induction requests generalizing pending state with
  | nil => exact fits
  | cons request rest ih => exact ih _ (length_serve_le offer request state fits)

theorem settle_conserves {offer : Offer σ} {received : σ → Bytes} (honest : Honest offer received)
    (attempts : Nat) (pending : Bytes) (state : σ) :
    received (settle offer attempts pending state).2.2 ++
        (settle offer attempts pending state).2.1 = received state ++ pending := by
  induction attempts generalizing pending state with
  | zero => rfl
  | succ attempts ih =>
      have step := drain_conserves honest pending state
      have later := ih (drain offer pending state).2.1 (drain offer pending state).2.2
      rw [step] at later
      exact later

theorem settle_nil (offer : Offer σ) (attempts : Nat) (state : σ) :
    (settle offer attempts [] state).2 = ([], state) := by
  induction attempts with
  | zero => rfl
  | succ attempts ih => simp only [settle, drain_nil, ih]

/-- One flush that goes through is enough. -/
theorem settle_pending_of_ok {offer : Offer σ} {attempts : Nat} {pending : Bytes} {state : σ}
    (delivered : .ok () ∈ (settle offer attempts pending state).1) :
    (settle offer attempts pending state).2.1 = [] := by
  induction attempts generalizing pending state with
  | zero => cases delivered
  | succ attempts ih =>
      rcases List.mem_cons.mp delivered with now | later
      · have emptied := drain_pending_of_ok now.symm
        have rest := settle_nil offer attempts (drain offer pending state).2.2
        simp only [settle, emptied, rest]
      · exact ih later

/-- What holds of a buffered writer that was opened over a device, after any requests. -/
structure Conserves (offer : Offer σ) (received : σ → Bytes) (start : σ)
    (requests : List Request) (answers : List (Except IoFailure Nat)) (pending : Bytes)
    (state : σ) : Prop where
  /-- What the device has received and what is pending are what has been accepted. -/
  balanced : received state ++ pending = received start ++ accepted requests (answers.map taken)
  bounded : pending.length ≤ capacity
  /-- A request that fails adds nothing. -/
  failed : ∀ request failure, (serve offer request pending state).1 = .error failure →
    received (serve offer request pending state).2.2 ++ (serve offer request pending state).2.1 =
      received state ++ pending
  /-- A flush that goes through leaves nothing pending. -/
  flushed : ∀ count, (serve offer .flush pending state).1 = .ok count →
    (serve offer .flush pending state).2.1 = []
  /-- Flushes at the end deliver a front part, and all if one of them goes through. -/
  settled : ∀ attempts, received (settle offer attempts pending state).2.2 <+:
      received start ++ accepted requests (answers.map taken) ∧
    (.ok () ∈ (settle offer attempts pending state).1 →
      received (settle offer attempts pending state).2.2 =
        received start ++ accepted requests (answers.map taken))
  /-- A device that takes something of whatever it is offered, however little, makes a flush go
  through and has received everything then, and so it is at the end. -/
  delivered : ∀ ready : σ → Prop, Willing offer ready → ready state → ∃ after,
    serve offer .flush pending state = (.ok 0, [], after) ∧
      received after = received start ++ accepted requests (answers.map taken) ∧
      ∀ attempts, (settle offer (attempts + 1) pending state).2 = ([], after)

theorem conserves_of_honest {offer : Offer σ} {received : σ → Bytes}
    (honest : Honest offer received) (start : σ) (requests : List Request) :
    Conserves offer received start requests (serveAll offer requests [] start).1
      (serveAll offer requests [] start).2.1 (serveAll offer requests [] start).2.2 := by
  have balanced := serveAll_conserves honest requests [] start
  rw [List.append_nil] at balanced
  refine ⟨balanced, length_serveAll_le offer requests start (Nat.zero_le _), ?_, ?_, ?_, ?_⟩
  · intro request failure refused
    have kept := serve_conserves honest request (serveAll offer requests [] start).2.1
      (serveAll offer requests [] start).2.2
    rw [refused] at kept
    cases request <;> simpa [taken, Request.accepted] using kept
  · intro count passed
    have drained : (drain offer (serveAll offer requests [] start).2.1
        (serveAll offer requests [] start).2.2).1 = .ok () := by
      simp only [serve] at passed
      cases answer : (drain offer (serveAll offer requests [] start).2.1
          (serveAll offer requests [] start).2.2).1 with
      | ok done => rfl
      | error failure =>
          rw [answer] at passed
          cases passed
    exact drain_pending_of_ok drained
  · intro attempts
    have kept := settle_conserves honest attempts (serveAll offer requests [] start).2.1
      (serveAll offer requests [] start).2.2
    rw [balanced] at kept
    refine ⟨⟨_, kept⟩, ?_⟩
    intro delivered
    rw [settle_pending_of_ok delivered, List.append_nil] at kept
    exact kept
  · intro ready willing now
    obtain ⟨after, drained, -⟩ := drain_of_willing willing
      (serveAll offer requests [] start).2.1 now
    have kept := drain_conserves honest (serveAll offer requests [] start).2.1
      (serveAll offer requests [] start).2.2
    rw [drained, balanced, List.append_nil] at kept
    refine ⟨after, ?_, kept, fun attempts => ?_⟩
    · simp only [serve, drained, Except.map]
    · simp only [settle, drained, settle_nil]

section

variable {coarse : Offer σ} {fine : Offer τ} {project : τ → σ}

/-- The fine device does what the coarse one does, as far as that can see. -/
def Projects (coarse : Offer σ) (fine : Offer τ) (project : τ → σ) : Prop :=
  ∀ data state, coarse data (project state) = (fine data state).map project

theorem Projects.once (projects : Projects coarse fine project) (data : Bytes) (state : τ) :
    coarse.once data (project state) =
      ((fine.once data state).1, project (fine.once data state).2) := by
  rw [Offer.once, projects, Response.first_map, Offer.once]

theorem Projects.patient (projects : Projects coarse fine project) (data : Bytes) (state : τ) :
    coarse.patient data (project state) =
      ((fine.patient data state).1, project (fine.patient data state).2) := by
  rw [Offer.patient, projects, Response.last_map, Offer.patient]

theorem drain_project (projects : Projects coarse fine project) (pending : Bytes) (state : τ) :
    drain coarse pending (project state) =
      ((drain fine pending state).1, (drain fine pending state).2.1,
        project (drain fine pending state).2.2) := by
  fun_induction drain fine pending state with
  | case1 state => rw [drain_nil]
  | case2 state byte rest failure after offered =>
      have same := projects.patient (byte :: rest) state
      rw [offered] at same
      simp only [drain, same]
  | case3 state byte rest after offered =>
      have same := projects.patient (byte :: rest) state
      rw [offered] at same
      simp only [drain, same]
  | case4 state byte rest taken after offered ih =>
      have same := projects.patient (byte :: rest) state
      rw [offered] at same
      rw [drain]
      simp only [same, ih]

theorem write_project (projects : Projects coarse fine project) (data pending : Bytes) (state : τ) :
    write coarse data pending (project state) =
      ((write fine data pending state).1, (write fine data pending state).2.1,
        project (write fine data pending state).2.2) := by
  have drained := drain_project projects pending state
  unfold write
  by_cases roomy : data.length < capacity - pending.length
  · simp only [roomy, if_true]
  · simp only [roomy, if_false]
    by_cases tight : capacity - pending.length < data.length
    · cases flushed : drain fine pending state with
      | mk answer rest =>
          rw [flushed] at drained
          simp only [tight, if_true, drained]
          cases answer with
          | error failure => rfl
          | ok done =>
              by_cases direct : capacity ≤ data.length
              · simp only [direct, if_true, projects.once data]
              · simp only [direct, if_false]
    · simp only [tight, if_false]
      by_cases direct : capacity ≤ data.length
      · simp only [direct, if_true, projects.once data]
      · simp only [direct, if_false]

theorem serveAll_project (projects : Projects coarse fine project) (requests : List Request)
    (pending : Bytes) (state : τ) :
    serveAll coarse requests pending (project state) =
      ((serveAll fine requests pending state).1, (serveAll fine requests pending state).2.1,
        project (serveAll fine requests pending state).2.2) := by
  induction requests generalizing pending state with
  | nil => rfl
  | cons request rest ih =>
      cases request with
      | write data => simp only [serveAll, serve, write_project projects, ih]
      | flush => simp only [serveAll, serve, drain_project projects, ih]

theorem settle_project (projects : Projects coarse fine project) (attempts : Nat) (pending : Bytes)
    (state : τ) :
    settle coarse attempts pending (project state) =
      ((settle fine attempts pending state).1, (settle fine attempts pending state).2.1,
        project (settle fine attempts pending state).2.2) := by
  induction attempts generalizing pending state with
  | zero => rfl
  | succ attempts ih => simp only [settle, drain_project projects, ih]

end

end Buffered

/-- A descriptor as a device that remembers all that was taken from it. -/
def traced (fd : Nat) : Offer (World × Bytes) := .steady fun data state =>
  match state.1.write fd data with
  | .ok (taken, after) => (.ok taken, (after, state.2 ++ data.take taken))
  | .error failure => (.error failure, state)

theorem projects_traced (fd : Nat) : Buffered.Projects (offerTo fd) (traced fd) Prod.fst := by
  intro data state
  simp only [offerTo, traced, Offer.steady, push, Response.map]
  cases state.1.write fd data with
  | error failure => rfl
  | ok result => rfl

/-- A write that goes through takes all that it is given. -/
theorem taken_of_write {world after : World} {fd taken : Nat} {data : Bytes}
    (written : world.write fd data = .ok (taken, after)) : taken = data.length := by
  unfold World.write at written
  repeat' split at written
  all_goals cases written
  all_goals first | rfl | exact (congrArg List.length ‹data = []›).symm

theorem honest_traced (fd : Nat) : Buffered.Honest (traced fd) Prod.snd := by
  intro data state someData
  simp only [traced, Offer.steady, Buffered.FairResponse]
  cases written : state.1.write fd data with
  | error failure => rfl
  | ok result =>
      obtain ⟨taken, after⟩ := result
      have all := taken_of_write written
      have positive := List.length_pos_iff.mpr someData
      refine ⟨by omega, by omega, rfl⟩

end SessionStreams.Boundary
