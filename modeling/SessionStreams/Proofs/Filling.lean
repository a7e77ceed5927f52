import SessionStreams.Proofs.Files
import SessionStreams.Proofs.Handles

set_option autoImplicit false

/- Writers behind the boundary that take all they are given, and readers that give all they have.
Main statements: what is written to a writer is added to its medium (`Collects.write`), which holds
just that once the writer is finished (`Collects.finish`); and a read takes the front off what a
reader still has (`read_of_has`). -/

namespace SessionStreams.Boundary

namespace Buffered

variable {σ : Type} {offer : Offer σ} {Taken : Bytes → σ → Prop}

/-- A device that takes all that it is offered. -/
def Takes (offer : Offer σ) (Taken : Bytes → σ → Prop) : Prop :=
  ∀ data taken state, data ≠ [] → Taken taken state →
    ∃ after, offer data state = .answered (.ok data.length) after ∧ Taken (taken ++ data) after

theorem drain_of_takes (takes : Takes offer Taken) (pending : Bytes) {taken : Bytes} {state : σ}
    (start : Taken taken state) :
    ∃ after, drain offer pending state = (.ok (), [], after) ∧ Taken (taken ++ pending) after := by
  cases pending with
  | nil => exact ⟨state, drain_nil offer state, by rw [List.append_nil]; exact start⟩
  | cons byte rest =>
      obtain ⟨after, offered, more⟩ := takes (byte :: rest) taken state (List.cons_ne_nil _ _) start
      refine ⟨after, ?_, more⟩
      rw [List.length_cons] at offered
      simp only [drain, Offer.patient, offered, Response.last, List.drop_length]

theorem write_of_takes (takes : Takes offer Taken) (data pending : Bytes) {taken : Bytes}
    {state : σ} (start : Taken taken state) :
    ∃ delivered kept after, write offer data pending state = (.ok data.length, kept, after) ∧
      Taken delivered after ∧ delivered ++ kept = taken ++ pending ++ data := by
  obtain ⟨drained, flushed, emptied⟩ := drain_of_takes takes pending start
  have direct (kept delivered : Bytes) (now : σ) (ready : Taken delivered now)
      (big : capacity ≤ data.length) :
      ∃ after, offer.once data now = (.ok data.length, after) ∧ Taken (delivered ++ data) after := by
    have someData : data ≠ [] := by
      rintro rfl
      exact absurd big (by decide)
    obtain ⟨after, offered, more⟩ := takes data delivered now someData ready
    exact ⟨after, congrArg Response.first offered, more⟩
  unfold write
  by_cases fits : data.length < capacity - pending.length
  · simp only [fits, if_true]
    exact ⟨taken, _, _, rfl, start, (List.append_assoc _ _ _).symm⟩
  · by_cases tight : capacity - pending.length < data.length
    · simp only [fits, tight, if_true, if_false, flushed]
      by_cases big : capacity ≤ data.length
      · obtain ⟨after, offered, more⟩ := direct [] _ drained emptied big
        simp only [big, if_true, offered]
        exact ⟨_, _, _, rfl, more, List.append_nil _⟩
      · simp only [big, if_false, List.nil_append]
        exact ⟨_, _, _, rfl, emptied, rfl⟩
    · simp only [fits, tight, if_false]
      by_cases big : capacity ≤ data.length
      · have empty : pending = [] := by
          apply List.eq_nil_of_length_eq_zero
          have positive : 0 < capacity := by decide
          omega
        obtain ⟨after, offered, more⟩ := direct pending taken state start big
        simp only [big, if_true, offered]
        refine ⟨_, _, _, rfl, more, ?_⟩
        rw [empty, List.append_nil, List.append_nil]
      · simp only [big, if_false]
        exact ⟨taken, _, _, rfl, start, (List.append_assoc _ _ _).symm⟩

end Buffered

/-- What a writer fills. -/
inductive Medium where
  | file (contents : Nat)
  | memory (id length : Nat)
  | sink (id : Nat)
deriving DecidableEq

namespace Medium

def content? (medium : Medium) (world : World) : Option Bytes :=
  match medium with
  | file contents => (world.files.get? contents).map Array.toList
  | memory id _ => world.memory.get? id
  | sink id => (world.sinks.get? id).map Sink.bytes

/-- Only memory has an end. -/
def Fits (medium : Medium) (count : Nat) : Prop :=
  ∀ id length, medium = memory id length → count ≤ length

end Medium

theorem fileBytes_of_content? {contents : Nat} {world : World} {data : Bytes}
    (content : (Medium.file contents).content? world = some data) :
    world.fileBytes contents = data := by
  rw [Medium.content?] at content
  obtain ⟨stored, there, same⟩ := Option.map_eq_some_iff.mp content
  rw [World.fileBytes, there]
  exact same

/-- A writer has put these bytes into its medium, or has some of them pending. -/
inductive Collects (world : World) : Writer → Medium → Bytes → Prop where
  | buffered {fd contents : Nat} {delivered pending : Bytes}
      (atEnd : world.AtEnd fd contents delivered) :
      Collects world (.buffered fd pending) (.file contents) (delivered ++ pending)
  | fixed {id length : Nat} {content data : Bytes} (there : world.memory.get? id = some content)
      (whole : content.length = length) (front : content.take data.length = data) :
      Collects world (.fixed (some id) length data.length) (.memory id length) data
  | growing {id : Nat} {state : Sink} {data : Bytes} (there : world.sinks.get? id = some state)
      (same : state.bytes = data) : Collects world (.growing id) (.sink id) data

theorem takes_offerTo (fd contents : Nat) :
    Buffered.Takes (offerTo fd) fun delivered (world : World) =>
      world.AtEnd fd contents delivered := by
  intro data delivered world someData atEnd
  obtain ⟨after, written, more⟩ := World.write_of_atEnd atEnd someData
  refine ⟨after, ?_, more⟩
  rw [offerTo, Offer.steady, push, written]

theorem take_overlay {content front : Bytes} (same : content.take front.length = front)
    {data : Bytes} (fits : front.length ≤ content.length) :
    (content.overlay front.length data).take (front ++ data).length = front ++ data := by
  have gap : front.length - content.length = 0 := by omega
  rw [Bytes.overlay, same, gap, List.replicate_zero, List.append_nil]
  exact List.take_left

namespace Collects

variable {world : World} {writer : Writer} {medium : Medium} {data : Bytes}

theorem write (collects : Collects world writer medium data) (more : Bytes)
    (room : medium.Fits (data.length + more.length)) :
    ∃ next after, writer.write more world = (.ok more.length, next, after) ∧
      Collects after next medium (data ++ more) := by
  cases collects with
  | buffered atEnd =>
      rename_i fd contents delivered pending
      obtain ⟨given, kept, after, written, now, same⟩ :=
        Buffered.write_of_takes (takes_offerTo fd contents) more pending atEnd
      refine ⟨.buffered fd kept, after, ?_, ?_⟩
      · simp only [Writer.write, written]
      · rw [← same]
        exact .buffered now
  | fixed there whole front =>
      rename_i id length content
      have fits : data.length + more.length ≤ length := room id length rfl
      have all : more.take (length - data.length) = more :=
        List.take_of_length_le (by omega)
      refine ⟨.fixed (some id) length (data ++ more).length,
        { world with memory := world.memory.set id (content.overlay data.length more) }, ?_, ?_⟩
      · simp only [Writer.write, all, fill, there, List.length_append]
      · refine .fixed (Arena.get?_set_self _ there) ?_ (take_overlay front (by omega))
        rw [Bytes.length_overlay]
        omega
  | growing there same =>
      rename_i id state
      have grown := Arena.get?_set_self (state.grow more) there
      refine ⟨.growing id, { world with sinks := world.sinks.set id (state.grow more) }, ?_,
        .growing grown ?_⟩
      · simp only [Writer.write, extend, there]
      · rw [Sink.bytes_grow, same]

theorem flush (collects : Collects world writer medium data) :
    ∃ next after, writer.flush world = (.ok (), next, after) ∧
      Collects after next medium data := by
  cases collects with
  | buffered atEnd =>
      rename_i fd contents delivered pending
      obtain ⟨after, drained, now⟩ := Buffered.drain_of_takes (takes_offerTo fd contents) pending atEnd
      refine ⟨.buffered fd [], after, ?_, ?_⟩
      · simp only [Writer.flush, drained]
      · rw [← List.append_nil (delivered ++ pending)]
        exact .buffered now
  | fixed there whole front => exact ⟨_, _, rfl, .fixed there whole front⟩
  | growing there same => exact ⟨_, _, rfl, .growing there same⟩

/-- Memory has to be full; all else holds what has been collected. -/
theorem finish (collects : Collects world writer medium data)
    (full : ∀ id length, medium = .memory id length → length ≤ data.length) :
    medium.content? (writer.finish world) = some data := by
  cases collects with
  | buffered atEnd =>
      rename_i fd contents delivered pending
      obtain ⟨after, drained, now⟩ := Buffered.drain_of_takes (takes_offerTo fd contents) pending atEnd
      simp only [Writer.finish, Writer.flush, drained, Buffered.drain_nil, Writer.closeTarget,
        Medium.content?, World.files_close, now.file, Option.map_some]
  | fixed there whole front =>
      rename_i id length content
      have enough : content.length ≤ data.length := whole ▸ full id length rfl
      rw [List.take_of_length_le enough] at front
      exact there.trans (congrArg some front)
  | growing there same =>
      simp only [Writer.finish, Writer.flush, Writer.closeTarget, Medium.content?, there,
        Option.map_some, same]

end Collects

/-- What a reader still has to give. -/
def Reader.Has (reader : Reader) (world : World) (rest : Bytes) : Prop :=
  match reader with
  | .descriptor fd => world.Remains fd rest
  | .bytes data => data = rest

theorem Reader.read_of_has {reader : Reader} {world : World} {rest : Bytes}
    (has : reader.Has world rest) (count : Nat) :
    ∃ next after, reader.read count world = .ok (rest.take count, next, after) ∧
      next.Has after (rest.drop count) := by
  cases reader with
  | descriptor fd =>
      obtain ⟨after, finished, remains⟩ := World.read_of_remains has count
      refine ⟨.descriptor fd, after, ?_, remains⟩
      simp only [read, finished]
  | bytes data =>
      have same : data = rest := has
      subst same
      exact ⟨_, _, rfl, rfl⟩

end SessionStreams.Boundary
