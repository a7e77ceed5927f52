import SessionStreams.Host.Holdings

set_option autoImplicit false

/- Replies from behind the boundary, as the host takes them. Main statements: a stored error comes
over with its status and its message (`ofFault_eq`), so a call on a live handle answers just what
was tried behind the boundary (`examine_conclude`, `read_eq`, `write_eq`, `flushOpen_eq`). -/

namespace SessionStreams.Boundary

theorem Fault.status_ne_success (fault : Fault) : fault.status ≠ .success := by
  unfold Fault.status
  split
  · exact Status.noConfusion
  · exact Status.noConfusion
  · split <;> exact Status.noConfusion

theorem Fault.zero_notMem_message (fault : Fault) : 0 ∉ Text.encode fault.message := by
  intro inside
  have listed := Text.mem_of_mem_encode (by decide) inside
  simp only [Fault.message, String.toList_ofList, List.mem_filter] at listed
  exact absurd listed.2 (by decide)

theorem copyOut_of_clean (name : String) {bytes : Bytes} (clean : 0 ∉ bytes) :
    ∃ text, copyOut name bytes = .done text ∧ text.bytes = bytes := by
  unfold copyOut
  cases encoded : Terminated.ofBytes? bytes with
  | none => exact absurd ((Terminated.ofBytes?_eq_none_iff bytes).mp encoded) clean
  | some text => exact ⟨text, rfl, Terminated.bytes_ofBytes? encoded⟩

theorem errorText_spec (fault : Fault) :
    ∃ text, errorText (some fault) = .done text ∧ text.text = fault.message := by
  obtain ⟨text, copied, same⟩ := copyOut_of_clean "message" (Fault.zero_notMem_message fault)
  refine ⟨text, ?_, ?_⟩
  · simp only [errorText, Outcome.require, Outcome.done_bind, copied]
  · rw [Terminated.text, same, Text.decodeLossy_encode]

section

variable {boundary : Boundary} {id : Nat} {session : Engine.Session}

theorem contextHome_of_live (live : boundary.contexts.get? id = some session)
    (clean : 0 ∉ session.home) :
    ∃ text, boundary.contextHome (some id) = .done text ∧ text.path = session.home := by
  obtain ⟨text, copied, same⟩ := copyOut_of_clean "home" clean
  refine ⟨text, ?_, same⟩
  simp only [contextHome, Boundary.session, Outcome.require, Outcome.done_bind, live, Outcome.live,
    copied]

theorem contextPolicy_of_live (live : boundary.contexts.get? id = some session) :
    boundary.contextPolicy (some id) = .done (session.policy.code.toNat : Int) := by
  simp only [contextPolicy, Boundary.session, Outcome.require, Outcome.done_bind, live,
    Outcome.live]

theorem contextEphemeral_of_live (live : boundary.contexts.get? id = some session) :
    boundary.contextEphemeral (some id) = .done session.ephemeral := by
  simp only [contextEphemeral, Boundary.session, Outcome.require, Outcome.done_bind, live,
    Outcome.live]

end

end SessionStreams.Boundary

namespace SessionStreams.Host

open Boundary (ErrorSlot Fault Outcome Reply)

/-- The host's copy of a fault. -/
def Error.reporting (fault : Fault) : Error := ⟨.ofStatus fault.status, fault.message⟩

theorem Error.ofFault_eq (fault : Fault) : Error.ofFault fault = .done (.reporting fault) := by
  obtain ⟨text, copied, shown⟩ := Boundary.errorText_spec fault
  simp only [Error.ofFault, Boundary.errorStatus, Boundary.freeError, Outcome.require,
    Outcome.done_bind, copied, shown, Error.reporting]

/-- The answer to a call is what was tried, if the sentinel tells failure from success. -/
theorem examine_conclude {α β : Type} (name : String) {check : α → Option β} {succeeded : β → α}
    (failed : Fault → α) (passes : ∀ result, check (succeeded result) = some result)
    (refuses : ∀ fault, check (failed fault) = none) (attempt : Except Fault β × Boundary) :
    examine name check (Boundary.conclude .empty succeeded failed attempt) =
      .done (attempt.1.mapError .reporting) := by
  obtain ⟨result, after⟩ := attempt
  cases result with
  | ok result => simp only [examine, Boundary.conclude, passes, mapError_ok]
  | error fault =>
      simp only [examine, Boundary.conclude, refuses, ErrorSlot.empty, ErrorSlot.store,
        ErrorSlot.stored, Error.ofFault_eq, Outcome.done_bind, mapError_error]

theorem examine_concludeHandle (name : String) (attempt : Except Fault Nat × Boundary) :
    examine name (fun result => result) (Boundary.concludeHandle .empty attempt) =
      .done (attempt.1.mapError .reporting) := by
  have passes (id : Nat) : (fun result : Option Nat => result) (some id) = some id := rfl
  exact examine_conclude name (fun _ => none) passes (fun _ => rfl) attempt

@[simp] theorem conclude_after {α β : Type} (slot : ErrorSlot) (succeeded : β → α)
    (failed : Fault → α) (attempt : Except Fault β × Boundary) :
    (Boundary.conclude slot succeeded failed attempt).after = attempt.2 := by
  obtain ⟨result, after⟩ := attempt
  cases result <;> rfl

@[simp] theorem concludeHandle_after (slot : ErrorSlot) (attempt : Except Fault Nat × Boundary) :
    (Boundary.concludeHandle slot attempt).after = attempt.2 :=
  conclude_after slot _ _ attempt

theorem bytesRead_length (data : Bytes) : bytesRead ((data.length : Int), data) = some data := by
  simp [bytesRead]

theorem countTaken_natCast (taken : Nat) : countTaken (taken : Int) = some taken := by
  simp [countTaken]

theorem statusPassed_status (fault : Fault) : statusPassed fault.status = none := by
  simp [statusPassed, Fault.status_ne_success]

theorem Reader.read_eq {reader : Reader} {host : Host} {source : Boundary.Reader}
    (opened : reader.closed = false)
    (live : host.boundary.readers.get? reader.handle = some source) (count : Nat) :
    reader.read count host =
      .done ((host.boundary.tryRead reader.handle source (.space count)).1.mapError .reporting,
        { host with
          boundary := (host.boundary.tryRead reader.handle source (.space count)).2 }.note
            (.used (.reader reader.handle))) := by
  have answer := examine_conclude "read" (fun _ => (-1, [])) bytesRead_length (fun _ => rfl)
    (host.boundary.tryRead reader.handle source (.space count))
  simp only [Reader.read, opened, Bool.false_eq_true, ↓reduceIte, Boundary.read, Outcome.require,
    Outcome.done_bind, live, Outcome.live, answer, conclude_after]

theorem Writer.write_eq {writer : Writer} {host : Host} {target : Boundary.Writer}
    (opened : writer.closed = false)
    (live : host.boundary.writers.get? writer.handle = some target) (data : Bytes) :
    writer.write data host =
      .done ((host.boundary.tryWrite writer.handle target (.bytes data)).1.mapError .reporting,
        { host with
          boundary := (host.boundary.tryWrite writer.handle target (.bytes data)).2 }.note
            (.used (.writer writer.handle))) := by
  have answer := examine_conclude "write" (fun _ => -1) countTaken_natCast (fun _ => rfl)
    (host.boundary.tryWrite writer.handle target (.bytes data))
  simp only [Writer.write, opened, Bool.false_eq_true, ↓reduceIte, Boundary.write, Outcome.require,
    Outcome.done_bind, live, Outcome.live, answer, conclude_after]

theorem Writer.flushOpen_eq {writer : Writer} {host : Host} {target : Boundary.Writer}
    (live : host.boundary.writers.get? writer.handle = some target) :
    writer.flushOpen host =
      .done ((host.boundary.tryFlush writer.handle target).1.mapError .reporting,
        { host with boundary := (host.boundary.tryFlush writer.handle target).2 }.note
          (.used (.writer writer.handle))) := by
  have passes (flushed : Unit) :
      statusPassed ((fun _ : Unit => .success) flushed) = some flushed := rfl
  have answer := examine_conclude "flush" Fault.status passes statusPassed_status
    (host.boundary.tryFlush writer.handle target)
  simp only [Writer.flushOpen, Boundary.flush, Outcome.require, Outcome.done_bind, live,
    Outcome.live, answer, conclude_after]

end SessionStreams.Host
