import SessionStreams.Proofs.Buffering
import SessionStreams.Proofs.Replies

set_option autoImplicit false

namespace SessionStreams.Boundary

theorem length_le_of_worldRead {world after : World} {fd count : Nat} {data : Bytes}
    (finished : world.read fd count = .ok (data, after)) : data.length ≤ count := by
  unfold World.read at finished
  repeat' split at finished
  all_goals cases finished
  · exact Nat.zero_le count
  · exact Nat.le_of_eq List.length_replicate
  · rw [World.filePart_eq]
    exact List.length_take_le _ _
  · exact Nat.zero_le count
  · exact Nat.zero_le count
  · exact List.length_take_le _ _

theorem Reader.length_le_of_read {reader after : Reader} {count : Nat} {world other : World}
    {data : Bytes} (finished : reader.read count world = .ok (data, after, other)) :
    data.length ≤ count := by
  unfold read at finished
  cases reader with
  | bytes rest =>
      cases finished
      exact List.length_take_le _ _
  | descriptor fd =>
      simp only at finished
      split at finished
      · cases finished
      · next reached =>
          cases finished
          exact length_le_of_worldRead reached

theorem taken_of_push {fd taken : Nat} {data : Bytes} {world : World}
    (offered : (push fd data world).1 = .ok taken) : taken = data.length := by
  unfold push at offered
  split at offered
  · next written =>
      cases offered
      exact taken_of_write written
  · cases offered

/-- A buffer over a descriptor takes all that it is given, or nothing. -/
theorem taken_of_buffered {fd taken : Nat} {data pending : Bytes} {world : World}
    (finished : (Buffered.write (offerTo fd) data pending world).1 = .ok taken) :
    taken = data.length := by
  unfold Buffered.write at finished
  simp only at finished
  split at finished
  · exact (Except.ok.inj finished).symm
  · split at finished
    · cases finished
    · split at finished
      · exact taken_of_push finished
      · exact (Except.ok.inj finished).symm

theorem Writer.taken_le_of_write {writer : Writer} {data : Bytes} {world : World} {taken : Nat}
    (finished : (writer.write data world).1 = .ok taken) : taken ≤ data.length := by
  cases writer with
  | buffered fd pending => exact Nat.le_of_eq (taken_of_buffered finished)
  | growing sink => exact Nat.le_of_eq (Except.ok.inj finished).symm
  | fixed region length position =>
      rw [← Except.ok.inj finished]
      exact List.length_take_le' _ _

/-- A call of an entry point with an error slot, with all its other arguments. -/
inductive Call where
  | buildContext (config : Nat)
  | openReader (path : Terminated)
  | readerOverDescriptor (fd : Int)
  | readerOverBytes (data : Loan)
  | read (reader : Nat) (room : Room)
  | openWriter (path : Terminated)
  | writerOverDescriptor (fd : Int)
  | writerOverMemory (region : Region)
  | write (writer : Nat) (data : Loan)
  | flush (writer : Nat)
deriving DecidableEq

/-- What such a call returns. -/
inductive Result where
  | handle (id : Option Nat)
  | bytes (count : Int) (data : Bytes)
  | count (count : Int)
  | status (status : Status)
deriving DecidableEq

/-- No handle, a negative count, or a status that does not report success. -/
def Result.Failed : Result → Prop
  | .handle id => id = none
  | .bytes number _ => number < 0
  | .count number => number < 0
  | .status code => code ≠ .success

def Result.count? : Result → Option Int
  | .bytes number _ => some number
  | .count number => some number
  | _ => none

/-- How many bytes the caller's buffer is said to have. -/
def Loan.length : Loan → Nat
  | .null count => count
  | .bytes data => data.length

def Room.length : Room → Nat
  | .null count => count
  | .space count => count

namespace Call

/-- The handle that is passed names a live object. -/
def Ready (call : Call) (boundary : Boundary) : Prop :=
  match call with
  | .buildContext config => (boundary.configs.get? config).isSome
  | .read reader _ => (boundary.readers.get? reader).isSome
  | .write writer _ => (boundary.writers.get? writer).isSome
  | .flush writer => (boundary.writers.get? writer).isSome
  | _ => True

/-- The length of the buffer that is passed. -/
def length : Call → Nat
  | .read _ room => room.length
  | .write _ data => data.length
  | _ => 0

def pack {α : Type} (wrap : α → Result) (called : Outcome (Reply α)) : Outcome (Reply Result) := do
  let reply ← called
  .done ⟨wrap reply.result, reply.slot, reply.after⟩

def make (call : Call) (slot : ErrorSlot) (boundary : Boundary) : Outcome (Reply Result) :=
  match call with
  | .buildContext config => pack .handle (boundary.buildContext slot (some config))
  | .openReader path => pack .handle (boundary.openReader slot (some path))
  | .readerOverDescriptor fd => pack .handle (boundary.readerOverDescriptor slot fd)
  | .readerOverBytes data => pack .handle (boundary.readerOverBytes slot data)
  | .read reader room =>
      pack (fun result => .bytes result.1 result.2) (boundary.read slot (some reader) room)
  | .openWriter path => pack .handle (boundary.openWriter slot (some path))
  | .writerOverDescriptor fd => pack .handle (boundary.writerOverDescriptor slot fd)
  | .writerOverMemory region => pack .handle (boundary.writerOverMemory slot region)
  | .write writer data => pack .count (boundary.write slot (some writer) data)
  | .flush writer => pack .status (boundary.flush slot (some writer))

/-- What the call returns if it fails. -/
def sentinel : Call → Fault → Result
  | .read _ _, _ => .bytes (-1) []
  | .write _ _, _ => .count (-1)
  | .flush _, fault => .status fault.status
  | _, _ => .handle none

/-- A result that does not tell of failure, and counts no more than there is room for. -/
structure Passes (call : Call) (result : Result) : Prop where
  succeeded : ¬ result.Failed
  counted : ∀ number, result.count? = some number → 0 ≤ number ∧ number ≤ call.length

theorem pack_conclude {α β : Type} (wrap : α → Result) (slot : ErrorSlot) (succeeded : β → α)
    (failed : Fault → α) (attempt : Except Fault β × Boundary) :
    pack wrap (.done (conclude slot succeeded failed attempt)) =
      .done (conclude slot (fun result => result) (fun fault => wrap (failed fault))
        (attempt.1.map fun value => wrap (succeeded value), attempt.2)) := by
  obtain ⟨answer, after⟩ := attempt
  cases answer <;> rfl

theorem failed_sentinel (call : Call) (fault : Fault) : (call.sentinel fault).Failed := by
  cases call with
  | read reader room => exact Int.negSucc_lt_zero 0
  | write writer data => exact Int.negSucc_lt_zero 0
  | flush writer => exact fault.status_ne_success
  | _ => rfl

/-- What is tried does not depend on the slot: it only takes the error, if there is one. -/
structure Tries (call : Call) (boundary : Boundary) (attempt : Except Fault Result × Boundary) :
    Prop where
  concludes : ∀ slot, call.make slot boundary =
    .done (conclude slot (fun result => result) call.sentinel attempt)
  passes : ∀ result, attempt.1 = .ok result → call.Passes result

theorem tries_of_conclude {α β : Type} {call : Call} {boundary : Boundary} {wrap : α → Result}
    {succeeded : β → α} {failed : Fault → α} {attempt : Except Fault β × Boundary}
    (made : ∀ slot, call.make slot boundary =
      pack wrap (.done (conclude slot succeeded failed attempt)))
    (refused : ∀ fault, wrap (failed fault) = call.sentinel fault)
    (passes : ∀ value, attempt.1 = .ok value → call.Passes (wrap (succeeded value))) :
    ∃ tried, call.Tries boundary tried := by
  refine ⟨(attempt.1.map fun value => wrap (succeeded value), attempt.2), ?_, ?_⟩
  · intro slot
    rw [made, pack_conclude, funext refused]
  · intro result tried
    cases answer : attempt.1 with
    | error fault =>
        rw [answer] at tried
        cases tried
    | ok value =>
        rw [answer] at tried
        cases tried
        exact passes value answer

theorem passes_handle (call : Call) (id : Nat) : call.Passes (.handle (some id)) := by
  refine ⟨Option.some_ne_none id, ?_⟩
  intro number counted
  cases counted

/-- A call that makes something returns a handle, or none. -/
theorem tries_of_handle {call : Call} {boundary : Boundary} {attempt : Except Fault Nat × Boundary}
    (made : ∀ slot, call.make slot boundary = pack .handle (.done (concludeHandle slot attempt)))
    (refused : ∀ fault, .handle none = call.sentinel fault) :
    ∃ tried, call.Tries boundary tried :=
  tries_of_conclude made refused fun id _ => passes_handle call id

theorem passes_natCast {call : Call} {result : Result} {number : Nat}
    (succeeded : ¬ result.Failed) (counts : result.count? = some (number : Int))
    (bounded : number ≤ call.length) : call.Passes result := by
  refine ⟨succeeded, ?_⟩
  intro other counted
  rw [counts] at counted
  cases counted
  exact ⟨Int.natCast_nonneg _, Int.ofNat_le.mpr bounded⟩

theorem tries_buildContext {boundary : Boundary} {id : Nat} {config : Config}
    (live : boundary.configs.get? id = some config) :
    ∃ attempt, (Call.buildContext id).Tries boundary attempt := by
  have made (slot : ErrorSlot) : (Call.buildContext id).make slot boundary =
      pack .handle (.done (concludeHandle slot
        (config.start { boundary with configs := boundary.configs.release id }))) := by
    simp only [make, Boundary.buildContext, Outcome.require, live, Outcome.live, Outcome.done_bind]
  exact tries_of_handle made fun _ => rfl

theorem length_le_of_tryRead {boundary : Boundary} {id : Nat} {reader : Reader} {room : Room}
    {data : Bytes} (tried : (boundary.tryRead id reader room).1 = .ok data) :
    data.length ≤ room.length := by
  unfold tryRead at tried
  split at tried
  · cases tried
  · next count viewed =>
      have same : count ≤ room.length := by
        unfold Room.view at viewed
        split at viewed <;> cases viewed <;> exact Nat.le_refl _
      split at tried
      · cases tried
      · next finished =>
          cases tried
          exact Nat.le_trans (Reader.length_le_of_read finished) same

theorem tries_read {boundary : Boundary} {id : Nat} {reader : Reader}
    (live : boundary.readers.get? id = some reader) (room : Room) :
    ∃ attempt, (Call.read id room).Tries boundary attempt := by
  have made (slot : ErrorSlot) : (Call.read id room).make slot boundary =
      pack (fun result => .bytes result.1 result.2) (.done (conclude slot
        (fun data => ((data.length : Int), data)) (fun _ => (-1, []))
          (boundary.tryRead id reader room))) := by
    simp only [make, Boundary.read, Outcome.require, live, Outcome.live, Outcome.done_bind]
  refine tries_of_conclude made (fun _ => rfl) ?_
  intro data tried
  exact passes_natCast (Int.not_lt.mpr (Int.natCast_nonneg _)) rfl (length_le_of_tryRead tried)

theorem taken_le_of_tryWrite {boundary : Boundary} {id : Nat} {writer : Writer} {data : Loan}
    {taken : Nat} (tried : (boundary.tryWrite id writer data).1 = .ok taken) :
    taken ≤ data.length := by
  unfold tryWrite at tried
  split at tried
  · cases tried
  · next bytes viewed =>
      have same : bytes.length ≤ data.length := by
        unfold Loan.view at viewed
        split at viewed <;> cases viewed <;> exact Nat.le_refl _
      cases answer : (writer.write bytes boundary.world).1 with
      | error failure =>
          simp [answer] at tried
      | ok count =>
          simp only [answer, mapError_ok, Except.ok.injEq] at tried
          subst tried
          exact Nat.le_trans (Writer.taken_le_of_write answer) same

theorem tries_write {boundary : Boundary} {id : Nat} {writer : Writer}
    (live : boundary.writers.get? id = some writer) (data : Loan) :
    ∃ attempt, (Call.write id data).Tries boundary attempt := by
  have made (slot : ErrorSlot) : (Call.write id data).make slot boundary =
      pack .count (.done (conclude slot (fun (taken : Nat) => (taken : Int)) (fun _ => -1)
        (boundary.tryWrite id writer data))) := by
    simp only [make, Boundary.write, Outcome.require, live, Outcome.live, Outcome.done_bind]
  refine tries_of_conclude made (fun _ => rfl) ?_
  intro taken tried
  exact passes_natCast (Int.not_lt.mpr (Int.natCast_nonneg _)) rfl (taken_le_of_tryWrite tried)

theorem tries_flush {boundary : Boundary} {id : Nat} {writer : Writer}
    (live : boundary.writers.get? id = some writer) :
    ∃ attempt, (Call.flush id).Tries boundary attempt := by
  have made (slot : ErrorSlot) : (Call.flush id).make slot boundary =
      pack .status (.done (conclude slot (fun _ => .success) Fault.status
        (boundary.tryFlush id writer))) := by
    simp only [make, Boundary.flush, Outcome.require, live, Outcome.live, Outcome.done_bind]
  refine tries_of_conclude made (fun _ => rfl) ?_
  intro done _
  refine ⟨not_not_intro rfl, ?_⟩
  intro number counted
  cases counted

theorem exists_tries {call : Call} {boundary : Boundary} (ready : call.Ready boundary) :
    ∃ attempt, call.Tries boundary attempt := by
  cases call with
  | openReader path => exact tries_of_handle (fun _ => rfl) fun _ => rfl
  | readerOverDescriptor fd => exact tries_of_handle (fun _ => rfl) fun _ => rfl
  | readerOverBytes data => exact tries_of_handle (fun _ => rfl) fun _ => rfl
  | openWriter path => exact tries_of_handle (fun _ => rfl) fun _ => rfl
  | writerOverDescriptor fd => exact tries_of_handle (fun _ => rfl) fun _ => rfl
  | writerOverMemory region => exact tries_of_handle (fun _ => rfl) fun _ => rfl
  | buildContext id =>
      obtain ⟨config, live⟩ := Option.isSome_iff_exists.mp ready
      exact tries_buildContext live
  | read id room =>
      obtain ⟨reader, live⟩ := Option.isSome_iff_exists.mp ready
      exact tries_read live room
  | write id data =>
      obtain ⟨writer, live⟩ := Option.isSome_iff_exists.mp ready
      exact tries_write live data
  | flush id =>
      obtain ⟨writer, live⟩ := Option.isSome_iff_exists.mp ready
      exact tries_flush live

/-- What a call comes to: what it returns, the error that it stores, if any, and what it leaves
behind. -/
structure Settles (call : Call) (boundary : Boundary) (result : Result) (stored : Option Fault)
    (after : Boundary) : Prop where
  /-- A slot takes the error, and without an error it keeps what it held. -/
  slotted : ∀ previous, call.make (.holding previous) boundary =
    .done ⟨result, .holding (stored.or previous), after⟩
  /-- Without a slot nothing but the error is lost. -/
  slotless : call.make .absent boundary = .done ⟨result, .absent, after⟩
  failed_iff : result.Failed ↔ stored.isSome
  counted : ∀ number, result.count? = some number → ¬ result.Failed →
    0 ≤ number ∧ number ≤ call.length
  /-- A status that tells of failure is that of the error. -/
  status : ∀ code fault, result = .status code → stored = some fault →
    errorStatus (some fault) = .done code

theorem Tries.settles {call : Call} {boundary : Boundary}
    {attempt : Except Fault Result × Boundary} (tries : call.Tries boundary attempt) :
    ∃ result stored after, call.Settles boundary result stored after := by
  obtain ⟨answer, after⟩ := attempt
  cases answer with
  | ok result =>
      have passes := tries.passes result rfl
      refine ⟨result, none, after, fun previous => tries.concludes _, tries.concludes _, ?_, ?_, ?_⟩
      · exact iff_of_false passes.succeeded Bool.false_ne_true
      · exact fun number counts _ => passes.counted number counts
      · intro code fault _ given
        cases given
  | error fault =>
      have failed := call.failed_sentinel fault
      refine ⟨call.sentinel fault, some fault, after, fun previous => tries.concludes _,
        tries.concludes _, iff_of_true failed rfl, ?_, ?_⟩
      · exact fun number _ succeeded => absurd failed succeeded
      · intro code other shown given
        cases given
        cases call with
        | flush id =>
            cases shown
            rfl
        | _ => cases shown

end Call

/-- A call shows failure in its result just if it stores an error; it leaves the slot alone
otherwise, and without a slot it returns the same and does the same. -/
theorem failed_iff_stored (boundary : Boundary) (call : Call) (ready : call.Ready boundary) :
    ∃ result stored after, call.Settles boundary result stored after := by
  obtain ⟨attempt, tries⟩ := Call.exists_tries ready
  exact tries.settles

/-- A writer with a byte to flush to a device that is full. -/
def overfull : Boundary where
  world := {
    workingDirectory := []
    homeVariable := []
    temporaryVariable := []
    tree := .empty
    descriptors := ⟨[some { target := .device .full, writable := true }]⟩ }
  writers := ⟨[some (.buffered 0 [0x2A])]⟩

theorem failed_iff_stored_overfull :
    (Call.flush 0).Ready overfull ∧
      ∃ result stored after, (Call.flush 0).Settles overfull result stored after :=
  ⟨rfl, failed_iff_stored overfull (.flush 0) rfl⟩

end SessionStreams.Boundary
