import SessionStreams.Proofs.Dialogues
import SessionStreams.Proofs.Sentinels

set_option autoImplicit false

/- What writers fill that lose nothing: lent memory, which has room for so much, and sinks, which
grow. Main statements: a write takes what there is room for and puts it behind what was accepted
before (`Vessel.write`), so a caller behind the boundary that writes, flushes and frees finds the
accepted bytes in the vessel at any time, and nothing else changed (`Vessel.Filled.keeps`). -/

namespace SessionStreams

namespace Sink

/-- A sink that was given these bytes. Without any it is as it was, which may be nothing at all;
with some its chunk is full, and they are the last in it. -/
def grown (initial : Sink) (given : Bytes) : Sink :=
  if given = [] then initial else full (initial.bytes ++ given)

theorem grown_eq_grow (initial : Sink) (given : Bytes) : initial.grown given = initial.grow given := by
  by_cases nothing : given = []
  · rw [grown, if_pos nothing, nothing, grow_nil]
  · rw [grown, if_neg nothing, grow_eq_full initial nothing]

theorem bytes_grown (initial : Sink) (given : Bytes) :
    (initial.grown given).bytes = initial.bytes ++ given := by
  rw [grown_eq_grow, bytes_grow]

theorem grow_grown (initial : Sink) (given data : Bytes) :
    (initial.grown given).grow data = initial.grown (given ++ data) := by
  rw [grown_eq_grow, grown_eq_grow, grow_grow]

end Sink

namespace Boundary

def Region.length : Region → Nat
  | .null length => length
  | .memory _ length => length

def Region.memory? : Region → Option Nat
  | .null _ => none
  | .memory id _ => some id

/-- The memory that a region is the front of. Without memory there is nothing. -/
def Region.contents? (region : Region) (world : World) : Option Bytes :=
  match region with
  | .null _ => some []
  | .memory id _ => world.memory.get? id

/-- What a writer fills, with what is in it at first. -/
inductive Vessel where
  | lent (region : Region) (content : Bytes) (enough : region.length ≤ content.length)
  | sink (id : Nat) (initial : Sink)

namespace Vessel

/-- What is taken of data, after so many bytes. -/
def takes (vessel : Vessel) (before : Nat) (data : Bytes) : Bytes :=
  match vessel with
  | lent region _ _ => data.take (region.length - before)
  | sink _ _ => data

/-- These bytes were accepted, and all else is as it was. -/
def Holds (vessel : Vessel) (accepted : Bytes) (world : World) : Prop :=
  match vessel with
  | lent region content _ =>
      accepted.length ≤ region.length ∧
        region.contents? world = some (accepted ++ content.drop accepted.length)
  | sink id initial => world.sinks.get? id = some (initial.grown accepted)

/-- The writer that has filled in so many bytes. -/
def writer (vessel : Vessel) (before : Nat) : Writer :=
  match vessel with
  | lent region _ _ => .fixed region.memory? region.length before
  | sink id _ => .growing id

def spots : Vessel → Set Spot
  | lent region _ _ => { spot | ∃ id, region.memory? = some id ∧ spot = .memory id }
  | sink id _ => {.sink id}

variable {vessel : Vessel} {accepted : Bytes} {world after : World}

theorem takes_eq_take (vessel : Vessel) (before : Nat) (data : Bytes) :
    vessel.takes before data = data.take (vessel.takes before data).length := by
  cases vessel with
  | lent region content enough =>
      rw [takes, List.length_take, ← List.take_eq_take_min]
  | sink id initial => exact List.take_length.symm

/-- Nothing is taken of what was left over before. -/
theorem takes_rest (vessel : Vessel) (before : Nat) (data : Bytes) :
    vessel.takes (before + (vessel.takes before data).length)
      (data.drop (vessel.takes before data).length) = [] := by
  cases vessel with
  | lent region content enough =>
      rw [takes, takes, List.length_take, List.take_eq_nil_iff, List.drop_eq_nil_iff]
      omega
  | sink id initial => exact List.drop_length

theorem takes_nil (vessel : Vessel) (before : Nat) : vessel.takes before [] = [] :=
  (vessel.takes_eq_take before []).trans List.take_nil

/-- What is taken in two goes is what is taken at once. -/
theorem takes_append (vessel : Vessel) (first second : Bytes) :
    vessel.takes 0 (first ++ second) =
      vessel.takes 0 first ++ vessel.takes (vessel.takes 0 first).length second := by
  cases vessel with
  | lent region content enough =>
      have room : region.length - 0 - first.length =
          region.length - min (region.length - 0) first.length := by
        omega
      simp only [takes, List.take_append, List.length_take, room]
  | sink id initial => rfl

theorem Holds.leaves (holds : vessel.Holds accepted world)
    (leaves : World.Leaves vessel.spots world after) : vessel.Holds accepted after := by
  cases vessel with
  | lent region content enough =>
      obtain ⟨room, stored⟩ := holds
      refine ⟨room, ?_⟩
      cases region with
      | null length => exact stored
      | memory id length => exact (leaves (.memory id) ⟨id, rfl, rfl⟩).trans stored
  | sink id initial => exact (leaves (.sink id) rfl).trans holds

/-- Data that fits goes behind the bytes before, over what was there. -/
theorem overlay_append_drop {content data : Bytes}
    (fits : accepted.length + data.length ≤ content.length) :
    (accepted ++ content.drop accepted.length).overlay accepted.length data =
      accepted ++ data ++ content.drop (accepted ++ data).length := by
  have same : ((content.drop accepted.length).take data.length).length = data.length := by
    rw [List.length_take, List.length_drop]
    omega
  have split : content.drop accepted.length = (content.drop accepted.length).take data.length ++
      content.drop (accepted ++ data).length := by
    rw [List.length_append, ← List.drop_drop, List.take_append_drop]
  rw [split, ← List.append_assoc]
  exact Bytes.overlay_inside accepted _ _ data same

theorem write (holds : vessel.Holds accepted world) (data : Bytes) :
    ∃ after, (vessel.writer accepted.length).write data world =
        (.ok (vessel.takes accepted.length data).length,
          vessel.writer (accepted ++ vessel.takes accepted.length data).length, after) ∧
      vessel.Holds (accepted ++ vessel.takes accepted.length data) after := by
  cases vessel with
  | lent region content enough =>
      obtain ⟨room, stored⟩ := holds
      have taken : (data.take (region.length - accepted.length)).length ≤
          region.length - accepted.length := List.length_take_le _ _
      simp only [writer, Writer.write, takes, List.length_append]
      generalize data.take (region.length - accepted.length) = part at *
      refine ⟨_, rfl, by rw [List.length_append]; omega, ?_⟩
      cases region with
      | null length =>
          -- Without memory there is no room, and nothing was there to be written over.
          have nothing := congrArg List.length (Option.some.inj stored)
          simp only [Region.length] at room enough taken
          simp only [List.length_nil, List.length_append, List.length_drop] at nothing
          have empty : (accepted ++ part ++ content.drop (accepted ++ part).length).length = 0 := by
            simp only [List.length_append, List.length_drop]
            omega
          rw [List.eq_nil_of_length_eq_zero empty]
          rfl
      | memory id length =>
          have there : world.memory.get? id = some _ := stored
          simp only [Region.contents?, Region.memory?, fill, there]
          rw [Arena.get?_set_self _ there, overlay_append_drop]
          simp only [Region.length] at room enough taken
          omega
  | sink id initial =>
      have there : world.sinks.get? id = some _ := holds
      refine ⟨extend world id data, rfl, ?_⟩
      simp only [extend, there, Holds, takes]
      rw [Arena.get?_set_self _ there, Sink.grow_grown]

/-- A flush has nothing to do. -/
theorem flush (vessel : Vessel) (before : Nat) (world : World) :
    (vessel.writer before).flush world = (.ok (), vessel.writer before, world) := by
  cases vessel <;> rfl

theorem finish (vessel : Vessel) (before : Nat) (world : World) :
    (vessel.writer before).finish world = world := by
  cases vessel <;> rfl

/-- What is lent is either memory or nothing at all. -/
theorem view_lent {region : Region} {content : Bytes} (enough : region.length ≤ content.length)
    (there : region.contents? world = some content) :
    region.view = .ok ((lent region content enough).writer 0) := by
  cases region with
  | memory id length => rfl
  | null length =>
      cases there
      cases length with
      | zero => rfl
      | succ length => exact absurd enough (Nat.not_succ_le_zero length)

theorem holds_lent {region : Region} {content : Bytes} (enough : region.length ≤ content.length)
    (there : region.contents? world = some content) :
    (lent region content enough).Holds [] world :=
  ⟨Nat.zero_le _, there⟩

end Vessel

/-- A call on a writer, with what it returned; a flush reports success. -/
inductive Service where
  | wrote (data : Bytes) (count : Nat)
  | flushed
  | freed
deriving DecidableEq

namespace Service

/-- The call was made with any slot, and with any loan of the data. -/
def Made (id : Nat) (service : Service) (before after : Boundary) : Prop :=
  match service with
  | wrote data count => ∃ slot loan, loan.view = .ok data ∧
      (Call.write id loan).make slot before = .done ⟨.count count, slot, after⟩
  | flushed => ∃ slot, (Call.flush id).make slot before = .done ⟨.status .success, slot, after⟩
  | freed => before.freeWriter (some id) = .done after

def data : Service → Bytes
  | wrote data _ => data
  | _ => []

def accepted : Service → Bytes
  | wrote data count => data.take count
  | _ => []

end Service

/-- All data that was written, as the caller had it. -/
def givenIn (log : List Service) : Bytes := log.flatMap Service.data

/-- All that was accepted. -/
def acceptedIn (log : List Service) : Bytes := log.flatMap Service.accepted

theorem acceptedIn_concat (log : List Service) (service : Service) :
    acceptedIn (log ++ [service]) = acceptedIn log ++ service.accepted := by
  simp only [acceptedIn, List.flatMap_append, List.flatMap_singleton]

namespace Vessel

/-- A call accepts what there is room for after those before. -/
theorem told_concat {vessel : Vessel} {log : List Service} {service : Service}
    (told : acceptedIn log = vessel.takes 0 (givenIn log))
    (taken : service.accepted = vessel.takes (acceptedIn log).length service.data) :
    acceptedIn (log ++ [service]) = vessel.takes 0 (givenIn (log ++ [service])) := by
  have more : givenIn (log ++ [service]) = givenIn log ++ service.data := by
    simp only [givenIn, List.flatMap_append, List.flatMap_singleton]
  rw [acceptedIn_concat, more, takes_append, taken, ← told]

/-- What was accepted is in the vessel, and the writer is there until it is freed. -/
structure Filled (vessel : Vessel) (id : Nat) (log : List Service) (boundary : Boundary) :
    Prop where
  /-- No byte is left out for which there is room. -/
  told : acceptedIn log = vessel.takes 0 (givenIn log)
  holds : vessel.Holds (acceptedIn log) boundary.world
  stream : boundary.writers.get? id =
    if .freed ∈ log then none else some (vessel.writer (acceptedIn log).length)

namespace Filled

variable {vessel : Vessel} {id : Nat} {log : List Service} {boundary after : Boundary}

theorem start (empty : vessel.Holds [] boundary.world)
    (made : boundary.writers.get? id = some (vessel.writer 0)) : vessel.Filled id [] boundary :=
  ⟨(vessel.takes_nil 0).symm, empty, made⟩

theorem live (filled : vessel.Filled id log boundary) (unfreed : .freed ∉ log) :
    boundary.writers.get? id = some (vessel.writer (acceptedIn log).length) := by
  rw [filled.stream, if_neg unfreed]

/-- A write is told what was taken. -/
theorem write (filled : vessel.Filled id log boundary) (unfreed : .freed ∉ log) (data : Bytes) :
    ∃ after, vessel.Filled id
        (log ++ [.wrote data (vessel.takes (acceptedIn log).length data).length]) after ∧
      ∀ slot loan, loan.view = .ok data → (Call.write id loan).make slot boundary =
        .done ⟨.count (vessel.takes (acceptedIn log).length data).length, slot, after⟩ := by
  have live := filled.live unfreed
  obtain ⟨world, written, holds⟩ := Vessel.write filled.holds data
  have same : acceptedIn (log ++ [.wrote data (vessel.takes (acceptedIn log).length data).length]) =
      acceptedIn log ++ vessel.takes (acceptedIn log).length data := by
    rw [acceptedIn_concat, Service.accepted, ← vessel.takes_eq_take]
  refine ⟨{ boundary with world, writers := boundary.writers.set id (vessel.writer
    (acceptedIn log ++ vessel.takes (acceptedIn log).length data).length) }, ⟨?_, ?_, ?_⟩, ?_⟩
  · exact told_concat filled.told (vessel.takes_eq_take _ data).symm
  · rw [same]
    exact holds
  · have still : .freed ∉ log ++ [.wrote data (vessel.takes (acceptedIn log).length data).length] := by
      simp [unfreed]
    rw [if_neg still, same]
    exact Arena.get?_set_self _ live
  · intro slot loan viewed
    simp only [Call.make, Boundary.write, Outcome.require, live, Outcome.live, Outcome.done_bind,
      tryWrite, viewed, written]
    rfl

theorem flush (filled : vessel.Filled id log boundary) (unfreed : .freed ∉ log) :
    vessel.Filled id (log ++ [.flushed]) boundary ∧
      ∀ slot, (Call.flush id).make slot boundary = .done ⟨.status .success, slot, boundary⟩ := by
  have live := filled.live unfreed
  have same : acceptedIn (log ++ [.flushed]) = acceptedIn log :=
    (acceptedIn_concat log .flushed).trans (List.append_nil _)
  have still : .freed ∉ log ++ [.flushed] := by simp [unfreed]
  refine ⟨⟨?_, ?_, ?_⟩, fun slot => ?_⟩
  · exact told_concat filled.told (vessel.takes_nil _).symm
  · rw [same]
    exact filled.holds
  · rw [same, if_neg still]
    exact live
  · simp only [Call.make, Boundary.flush, Outcome.require, live, Outcome.live, Outcome.done_bind,
      tryFlush, vessel.flush, Arena.set_of_get? live]
    rfl

theorem free (filled : vessel.Filled id log boundary) (unfreed : .freed ∉ log) :
    ∃ after, boundary.freeWriter (some id) = .done after ∧ after.world = boundary.world ∧
      vessel.Filled id (log ++ [.freed]) after := by
  have live := filled.live unfreed
  have same : acceptedIn (log ++ [.freed]) = acceptedIn log :=
    (acceptedIn_concat log .freed).trans (List.append_nil _)
  have freed : .freed ∈ log ++ [.freed] := by simp
  refine ⟨{ boundary with writers := boundary.writers.release id }, ?_, rfl, ?_, ?_, ?_⟩
  · simp only [freeWriter, live, Outcome.live, Outcome.done_bind, vessel.finish]
  · exact told_concat filled.told (vessel.takes_nil _).symm
  · rw [same]
    exact filled.holds
  · rw [if_pos freed]
    exact Arena.get?_release_self _ _

/-- Nothing can be called on a writer that was freed. -/
theorem unfreed (filled : vessel.Filled id log boundary) {service : Service}
    (made : service.Made id boundary after) : .freed ∉ log := by
  intro freed
  have gone := filled.stream
  rw [if_pos freed] at gone
  cases service with
  | wrote data count =>
      obtain ⟨slot, loan, viewed, made⟩ := made
      simp only [Call.make, Boundary.write, Outcome.require, gone, Outcome.live, Outcome.done_bind,
        Outcome.undefined_bind, Call.pack] at made
      cases made
  | flushed =>
      obtain ⟨slot, made⟩ := made
      simp only [Call.make, Boundary.flush, Outcome.require, gone, Outcome.live, Outcome.done_bind,
        Outcome.undefined_bind, Call.pack] at made
      cases made
  | freed =>
      simp only [Service.Made, freeWriter, gone, Outcome.live, Outcome.undefined_bind] at made
      cases made

theorem step (filled : vessel.Filled id log boundary) {service : Service}
    (made : service.Made id boundary after) : vessel.Filled id (log ++ [service]) after := by
  have unfreed := filled.unfreed made
  cases service with
  | wrote data count =>
      obtain ⟨slot, loan, viewed, made⟩ := made
      obtain ⟨next, further, called⟩ := filled.write unfreed data
      have same := (called slot loan viewed).symm.trans made
      simp only [Outcome.done.injEq, Reply.mk.injEq, Result.count.injEq, true_and,
        Int.natCast_inj] at same
      obtain ⟨rfl, rfl⟩ := same
      exact further
  | flushed =>
      obtain ⟨slot, made⟩ := made
      obtain ⟨further, called⟩ := filled.flush unfreed
      cases (called slot).symm.trans made
      exact further
  | freed =>
      obtain ⟨next, called, -, further⟩ := filled.free unfreed
      cases called.symm.trans made
      exact further

/-- However a writer is used, what was accepted is in its vessel. -/
theorem keeps {first : Boundary} (start : vessel.Filled id [] first)
    (dialogue : Dialogue (Service.Made id) (Meanwhile Boundary.writers id vessel.spots) first log
      boundary) : vessel.Filled id log boundary := by
  refine dialogue.keeps (vessel.Filled id) start (fun filled made => filled.step made) ?_
  intro log before after filled meanwhile
  exact ⟨filled.told, filled.holds.leaves meanwhile.leaves, meanwhile.stream.trans filled.stream⟩

end Filled

end Vessel

end Boundary

end SessionStreams
