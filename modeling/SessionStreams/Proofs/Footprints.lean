import Mathlib.Data.Set.Insert
import SessionStreams.Proofs.Buffering
import SessionStreams.Proofs.Handles

set_option autoImplicit false

/- Which parts of the world a stream reads and changes. Main statements: an operation changes
nothing but the parts behind its stream (`Reader.within_read`, `Writer.within_write`), and in two
worlds that agree on these parts it gives the same result and leaves worlds that agree on them again
(`Reader.alike_read`, `Writer.alike_write`). -/

namespace SessionStreams

namespace Arena

variable {α : Type}

/-- An arena that has issued as many numbers and holds no object. -/
def blank (arena : Arena α) : Arena α := ⟨List.replicate arena.fresh none⟩

/-- Replaces or releases an object. -/
def put (arena : Arena α) (id : Nat) (object : Option α) : Arena α := ⟨arena.cells.set id object⟩

@[simp] theorem fresh_put (arena : Arena α) (id : Nat) (object : Option α) :
    (arena.put id object).fresh = arena.fresh := by
  simp [put, fresh]

@[simp] theorem blank_put (arena : Arena α) (id : Nat) (object : Option α) :
    (arena.put id object).blank = arena.blank := by
  rw [blank, blank, fresh_put]

@[simp] theorem fresh_blank (arena : Arena α) : arena.blank.fresh = arena.fresh := by
  simp [blank, fresh]

theorem fresh_of_blank {one two : Arena α} (blank : one.blank = two.blank) :
    one.fresh = two.fresh := by
  rw [← fresh_blank one, blank, fresh_blank]

theorem put_some (arena : Arena α) (id : Nat) (object : α) :
    arena.put id (some object) = arena.set id object := rfl

theorem put_none (arena : Arena α) (id : Nat) : arena.put id none = arena.release id := rfl

theorem get?_put (arena : Arena α) (id : Nat) (object : Option α) (other : Nat) :
    (arena.put id object).get? other =
      if other = id then (if id < arena.fresh then object else none) else arena.get? other := by
  cases object with
  | none => rw [put_none, get?_release, ite_self]
  | some object =>
      rw [put_some, get?_set]
      by_cases same : other = id
      · subst same
        by_cases inside : other < arena.fresh
        · simp [inside]
        · simp only [inside, and_false, if_false, if_true]
          apply Option.eq_none_iff_forall_ne_some.mpr
          intro old found
          exact inside (lt_fresh_of_get? found)
      · simp [same]

/-- Arenas that have issued as many numbers and hold the same objects are the same. -/
theorem eq_of_get? {one two : Arena α} (sizes : one.fresh = two.fresh)
    (same : ∀ id, one.get? id = two.get? id) : one = two := by
  obtain ⟨first⟩ := one
  obtain ⟨second⟩ := two
  unfold fresh at sizes
  congr 1
  apply List.ext_getElem sizes
  intro id insideOne insideTwo
  have both := same id
  simpa only [get?, List.getElem?_eq_getElem insideOne, List.getElem?_eq_getElem insideTwo,
    Option.join_some] using both

end Arena

/-- A part of the world that streams act on. -/
inductive Spot where
  | descriptor (fd : Nat)
  | file (contents : Nat)
  | pipe (pipe : Nat)
  | memory (id : Nat)
  | sink (id : Nat)
deriving DecidableEq

abbrev Spot.State : Spot → Type
  | descriptor _ => Descriptor
  | file _ => Array UInt8
  | pipe _ => Pipe
  | memory _ => Bytes
  | sink _ => Sink

/-- What a target stands for behind its descriptor. -/
def Target.spot? : Target → Option Spot
  | .file contents => some (.file contents)
  | .pipeEnd pipe _ => some (.pipe pipe)
  | _ => none

namespace World

def at? (world : World) : (spot : Spot) → Option spot.State
  | .descriptor fd => world.descriptors.get? fd
  | .file contents => world.files.get? contents
  | .pipe pipe => world.pipes.get? pipe
  | .memory id => world.memory.get? id
  | .sink id => world.sinks.get? id

def put (world : World) : (spot : Spot) → Option spot.State → World
  | .descriptor fd, state => { world with descriptors := world.descriptors.put fd state }
  | .file contents, state => { world with files := world.files.put contents state }
  | .pipe pipe, state => { world with pipes := world.pipes.put pipe state }
  | .memory id, state => { world with memory := world.memory.put id state }
  | .sink id, state => { world with sinks := world.sinks.put id state }

/-- There has been such a part. -/
def Issued (world : World) : Spot → Prop
  | .descriptor fd => fd < world.descriptors.fresh
  | .file contents => contents < world.files.fresh
  | .pipe pipe => pipe < world.pipes.fresh
  | .memory id => id < world.memory.fresh
  | .sink id => id < world.sinks.fresh

/-- The world but for the parts that streams act on. -/
def bare (world : World) : World :=
  { world with
    files := world.files.blank
    descriptors := world.descriptors.blank
    pipes := world.pipes.blank
    memory := world.memory.blank
    sinks := world.sinks.blank }

section

variable {world one two : World} {spot other : Spot}

theorem at?_put_ne (apart : other ≠ spot) (state : Option spot.State) :
    (world.put spot state).at? other = world.at? other := by
  cases spot <;> cases other <;> first
    | rfl
    | exact (Arena.get?_put _ _ _ _).trans (if_neg fun same => apart (by rw [same]))

theorem at?_put_self (issued : world.Issued spot) (state : Option spot.State) :
    (world.put spot state).at? spot = state := by
  cases spot <;> exact (Arena.get?_put _ _ _ _).trans ((if_pos rfl).trans (if_pos issued))

theorem at?_put_self_of_not_issued (unissued : ¬ world.Issued spot) (state : Option spot.State) :
    (world.put spot state).at? spot = none := by
  cases spot <;> exact (Arena.get?_put _ _ _ _).trans ((if_pos rfl).trans (if_neg unissued))

theorem bare_put (spot : Spot) (state : Option spot.State) :
    (world.put spot state).bare = world.bare := by
  cases spot <;> simp only [bare, put, Arena.blank_put]

theorem issued_put (state : Option spot.State) :
    (world.put spot state).Issued other ↔ world.Issued other := by
  cases spot <;> cases other <;> simp only [Issued, put, Arena.fresh_put]

/-- A world is what it is without its parts, and its parts. -/
theorem eq_of_at? (bare : one.bare = two.bare) (parts : ∀ spot, one.at? spot = two.at? spot) :
    one = two := by
  obtain ⟨_, _, _, _, _, _, _, _, _, _, _⟩ := one
  obtain ⟨_, _, _, _, _, _, _, _, _, _, _⟩ := two
  unfold World.bare at bare
  injection bare with directory home temporary account tree files descriptors pipes memory sinks drawn
  simp only [World.mk.injEq]
  exact ⟨directory, home, temporary, account, tree,
    Arena.eq_of_get? (Arena.fresh_of_blank files) fun id => parts (.file id),
    Arena.eq_of_get? (Arena.fresh_of_blank descriptors) fun id => parts (.descriptor id),
    Arena.eq_of_get? (Arena.fresh_of_blank pipes) fun id => parts (.pipe id),
    Arena.eq_of_get? (Arena.fresh_of_blank memory) fun id => parts (.memory id),
    Arena.eq_of_get? (Arena.fresh_of_blank sinks) fun id => parts (.sink id), drawn⟩

end

/-- Nothing changes but parts among `changed`. -/
structure Within (changed : Set Spot) (before after : World) : Prop where
  bare : after.bare = before.bare
  stays : ∀ spot, spot ∉ changed → after.at? spot = before.at? spot

/-- The worlds agree on the parts among `parts`. -/
structure Alike (parts : Set Spot) (one two : World) : Prop where
  issued : ∀ spot, one.Issued spot ↔ two.Issued spot
  same : ∀ spot, spot ∈ parts → one.at? spot = two.at? spot

section

variable {changed parts : Set Spot} {world before after one two : World}

theorem Within.refl (changed : Set Spot) (world : World) : Within changed world world :=
  ⟨rfl, fun _ _ => rfl⟩

theorem Within.trans {first second third : World} (one : Within changed first second)
    (two : Within changed second third) : Within changed first third :=
  ⟨two.bare.trans one.bare, fun spot aside => (two.stays spot aside).trans (one.stays spot aside)⟩

theorem Within.mono {more : Set Spot} (within : Within changed before after)
    (fewer : changed ⊆ more) : Within more before after :=
  ⟨within.bare, fun spot aside => within.stays spot fun inside => aside (fewer inside)⟩

theorem Within.keeps (within : Within changed before after) : before.Keeps after := by
  have same := within.bare
  unfold World.bare at same
  injection same with directory home temporary account tree _ _ _ _ _ drawn
  exact ⟨tree, directory, home, temporary, account, drawn⟩

theorem within_put {spot : Spot} (inside : spot ∈ changed) (state : Option spot.State) :
    Within changed world (world.put spot state) := by
  refine ⟨bare_put spot state, fun other aside => at?_put_ne ?_ state⟩
  rintro rfl
  exact aside inside

theorem Alike.put (alike : Alike parts one two) (spot : Spot) (state : Option spot.State) :
    Alike parts (one.put spot state) (two.put spot state) := by
  refine ⟨fun other => ?_, fun other inside => ?_⟩
  · rw [issued_put, issued_put]
    exact alike.issued other
  · by_cases here : other = spot
    · subst here
      by_cases issued : one.Issued other
      · rw [at?_put_self issued, at?_put_self ((alike.issued other).mp issued)]
      · have unissued : ¬ two.Issued other := fun there => issued ((alike.issued other).mpr there)
        rw [at?_put_self_of_not_issued issued, at?_put_self_of_not_issued unissued]
    · rw [at?_put_ne here, at?_put_ne here]
      exact alike.same other inside

end

def target? (world : World) (fd : Nat) : Option Target := (world.descriptors.get? fd).map (·.target)

/-- A descriptor and what it stands for. -/
def behind (world : World) (fd : Nat) : Set Spot :=
  { spot | spot = .descriptor fd ∨ (world.target? fd).bind Target.spot? = some spot }

section

variable {world after one two : World} {fd : Nat} {parts : Set Spot}

theorem descriptor_mem_behind (world : World) (fd : Nat) : .descriptor fd ∈ world.behind fd :=
  Or.inl rfl

theorem spot_mem_behind {descriptor : Descriptor} (found : world.descriptors.get? fd = some descriptor)
    {spot : Spot} (here : descriptor.target.spot? = some spot) : spot ∈ world.behind fd := by
  right
  rw [target?, found]
  exact here

theorem behind_congr (same : after.target? fd = world.target? fd) :
    after.behind fd = world.behind fd := by
  unfold behind
  rw [same]

theorem target?_setOffset {descriptor : Descriptor}
    (found : world.descriptors.get? fd = some descriptor) (offset other : Nat) :
    (world.setOffset fd descriptor offset).target? other = world.target? other := by
  unfold target? setOffset
  by_cases here : other = fd
  · subst here
    rw [Arena.get?_set_self _ found, found]
    rfl
  · rw [Arena.get?_set_ne _ _ here]

theorem setOffset_eq (world : World) (fd : Nat) (descriptor : Descriptor) (offset : Nat) :
    world.setOffset fd descriptor offset =
      world.put (.descriptor fd) (some { descriptor with offset }) := rfl

/-- A read moves the descriptor, or takes from the pipe, and leaves the targets as they are. -/
theorem read_cases {count : Nat} {data : Bytes} (done : world.read fd count = .ok (data, after)) :
    after = world ∨
      (∃ descriptor offset, world.descriptors.get? fd = some descriptor ∧
        after = world.setOffset fd descriptor offset) ∨
      ∃ pipe state, .pipe pipe ∈ world.behind fd ∧ after = world.put (.pipe pipe) state := by
  unfold read at done
  cases found : world.descriptors.get? fd with
  | none => simp [found] at done
  | some descriptor =>
      simp only [found] at done
      split at done
      · cases done
      split at done
      · cases done
      · cases done
        exact Or.inl rfl
      · cases done
        exact Or.inl rfl
      · cases done
        exact Or.inr (Or.inl ⟨_, _, rfl, rfl⟩)
      · next pipe reading target =>
          split at done
          · cases done
          split at done
          · cases done
            exact Or.inl rfl
          split at done
          · split at done
            · cases done
            · cases done
              exact Or.inl rfl
          · cases done
            refine Or.inr (Or.inr ⟨pipe, some _, spot_mem_behind found ?_, rfl⟩)
            rw [target]
            rfl

/-- A write goes to the device, or to the pipe, or to the file and moves the descriptor. -/
theorem write_cases {data : Bytes} {taken : Nat} (done : world.write fd data = .ok (taken, after)) :
    after = world ∨
      (∃ descriptor contents state offset, world.descriptors.get? fd = some descriptor ∧
        .file contents ∈ world.behind fd ∧
        after = (world.put (.file contents) state).setOffset fd descriptor offset) ∨
      ∃ pipe state, .pipe pipe ∈ world.behind fd ∧ after = world.put (.pipe pipe) state := by
  unfold write at done
  cases found : world.descriptors.get? fd with
  | none => simp [found] at done
  | some descriptor =>
      simp only [found] at done
      split at done
      · cases done
      split at done
      · cases done
      · cases done
        exact Or.inl rfl
      · cases done
      · next contents target =>
          split at done
          · cases done
            exact Or.inl rfl
          · cases done
            refine Or.inr (Or.inl ⟨descriptor, contents, some _, _, rfl, spot_mem_behind found ?_, rfl⟩)
            rw [target]
            rfl
      · next pipe reading target =>
          split at done
          · cases done
          split at done
          · cases done
            exact Or.inl rfl
          split at done
          · cases done
          · cases done
            refine Or.inr (Or.inr ⟨pipe, some _, spot_mem_behind found ?_, rfl⟩)
            rw [target]
            rfl

theorem target?_read {count : Nat} {data : Bytes} (done : world.read fd count = .ok (data, after))
    (other : Nat) : after.target? other = world.target? other := by
  rcases read_cases done with rfl | ⟨descriptor, offset, found, rfl⟩ | ⟨pipe, state, -, rfl⟩
  · rfl
  · exact target?_setOffset found offset other
  · rfl

theorem target?_write {data : Bytes} {taken : Nat} (done : world.write fd data = .ok (taken, after))
    (other : Nat) : after.target? other = world.target? other := by
  rcases write_cases done with rfl | ⟨descriptor, contents, state, offset, found, -, rfl⟩ |
    ⟨pipe, state, -, rfl⟩
  · rfl
  · have kept : (world.put (.file contents) state).descriptors.get? fd = some descriptor := found
    exact target?_setOffset kept offset other
  · rfl

end

/-- The parts among `parts` that are not files. -/
def unfiled (parts : Set Spot) : Set Spot := { spot | spot ∈ parts ∧ ∀ contents, spot ≠ .file contents }

theorem unfiled_subset (parts : Set Spot) : unfiled parts ⊆ parts := fun _ inside => inside.1

section

variable {world after one two : World} {fd : Nat} {parts : Set Spot}

theorem pipe_mem_unfiled {pipe : Nat} (inside : .pipe pipe ∈ parts) : .pipe pipe ∈ unfiled parts :=
  ⟨inside, fun _ same => nomatch same⟩

theorem descriptor_mem_unfiled (world : World) (fd : Nat) :
    .descriptor fd ∈ unfiled (world.behind fd) :=
  ⟨descriptor_mem_behind world fd, fun _ same => nomatch same⟩

/-- A read changes no file. -/
theorem within_read {count : Nat} {data : Bytes} (done : world.read fd count = .ok (data, after)) :
    Within (unfiled (world.behind fd)) world after := by
  rcases read_cases done with rfl | ⟨descriptor, offset, found, rfl⟩ | ⟨pipe, state, inside, rfl⟩
  · exact Within.refl _ _
  · exact within_put (descriptor_mem_unfiled world fd) _
  · exact within_put (pipe_mem_unfiled inside) state

theorem within_write {data : Bytes} {taken : Nat} (done : world.write fd data = .ok (taken, after)) :
    Within (world.behind fd) world after := by
  rcases write_cases done with rfl | ⟨descriptor, contents, state, offset, found, inside, rfl⟩ |
    ⟨pipe, state, inside, rfl⟩
  · exact Within.refl _ _
  · have first : Within (world.behind fd) world (world.put (.file contents) state) :=
      within_put inside state
    rw [setOffset_eq]
    exact first.trans (within_put (descriptor_mem_behind world fd) _)
  · exact within_put inside state

theorem close_of_found {descriptor : Descriptor} (found : world.descriptors.get? fd = some descriptor) :
    world.close fd = (world.put (.descriptor fd) none).closePipeEnd descriptor.target := by
  simp only [close, found]
  rfl

theorem within_closePipeEnd (world : World) {target : Target}
    (inside : ∀ spot, target.spot? = some spot → spot ∈ parts) :
    Within (unfiled parts) world (world.closePipeEnd target) := by
  unfold closePipeEnd
  split
  · next pipe reading =>
      split
      · exact Within.refl _ _
      · exact within_put (pipe_mem_unfiled (inside (.pipe pipe) rfl)) (some _)
  · exact Within.refl _ _

/-- Nothing but the descriptor and the end of its pipe is closed. -/
theorem within_close (world : World) (fd : Nat) :
    Within (unfiled (world.behind fd)) world (world.close fd) := by
  cases found : world.descriptors.get? fd with
  | none =>
      simp only [close, found]
      exact Within.refl _ _
  | some descriptor =>
      have released : Within (unfiled (world.behind fd)) world
          (world.put (.descriptor fd) none) :=
        within_put (descriptor_mem_unfiled world fd) none
      rw [close_of_found found]
      exact released.trans (within_closePipeEnd _ fun spot here => spot_mem_behind found here)

/-- Reads of a descriptor in worlds that agree on what is behind it. -/
theorem alike_read (alike : Alike parts one two) (covered : one.behind fd ⊆ parts) (count : Nat) :
    (∃ failure, one.read fd count = .error failure ∧ two.read fd count = .error failure) ∨
      ∃ data first second, one.read fd count = .ok (data, first) ∧
        two.read fd count = .ok (data, second) ∧ Alike parts first second := by
  have same : one.descriptors.get? fd = two.descriptors.get? fd :=
    alike.same (.descriptor fd) (covered (descriptor_mem_behind one fd))
  unfold read
  rw [← same]
  cases found : one.descriptors.get? fd with
  | none => exact Or.inl ⟨_, rfl, rfl⟩
  | some descriptor =>
      have inside (spot : Spot) (here : descriptor.target.spot? = some spot) :
          one.at? spot = two.at? spot := alike.same spot (covered (spot_mem_behind found here))
      dsimp only
      split
      · exact Or.inl ⟨_, rfl, rfl⟩
      split
      · exact Or.inl ⟨_, rfl, rfl⟩
      · exact Or.inr ⟨_, _, _, rfl, rfl, alike⟩
      · exact Or.inr ⟨_, _, _, rfl, rfl, alike⟩
      · next contents target =>
          rw [target] at inside
          have stored : one.files.get? contents = two.files.get? contents :=
            inside (.file contents) rfl
          have part : two.filePart contents descriptor.offset count =
              one.filePart contents descriptor.offset count := by
            unfold filePart
            rw [stored]
          rw [part]
          exact Or.inr ⟨_, _, _, rfl, rfl, alike.put (.descriptor fd) _⟩
      · next pipe reading target =>
          rw [target] at inside
          have state : one.pipes.get? pipe = two.pipes.get? pipe := inside (.pipe pipe) rfl
          rw [← state]
          split
          · exact Or.inl ⟨_, rfl, rfl⟩
          split
          · exact Or.inr ⟨_, _, _, rfl, rfl, alike⟩
          split
          · split
            · exact Or.inl ⟨_, rfl, rfl⟩
            · exact Or.inr ⟨_, _, _, rfl, rfl, alike⟩
          · exact Or.inr ⟨_, _, _, rfl, rfl, alike.put (.pipe pipe) (some _)⟩

/-- Writes to a descriptor in worlds that agree on what is behind it. -/
theorem alike_write (alike : Alike parts one two) (covered : one.behind fd ⊆ parts) (data : Bytes) :
    (∃ failure, one.write fd data = .error failure ∧ two.write fd data = .error failure) ∨
      ∃ taken first second, one.write fd data = .ok (taken, first) ∧
        two.write fd data = .ok (taken, second) ∧ Alike parts first second := by
  have same : one.descriptors.get? fd = two.descriptors.get? fd :=
    alike.same (.descriptor fd) (covered (descriptor_mem_behind one fd))
  unfold write
  rw [← same]
  cases found : one.descriptors.get? fd with
  | none => exact Or.inl ⟨_, rfl, rfl⟩
  | some descriptor =>
      have inside (spot : Spot) (here : descriptor.target.spot? = some spot) :
          one.at? spot = two.at? spot := alike.same spot (covered (spot_mem_behind found here))
      dsimp only
      split
      · exact Or.inl ⟨_, rfl, rfl⟩
      split
      · exact Or.inl ⟨_, rfl, rfl⟩
      · exact Or.inr ⟨_, _, _, rfl, rfl, alike⟩
      · exact Or.inl ⟨_, rfl, rfl⟩
      · next contents target =>
          rw [target] at inside
          have stored : one.files.get? contents = two.files.get? contents :=
            inside (.file contents) rfl
          rw [← stored]
          split
          · exact Or.inr ⟨_, _, _, rfl, rfl, alike⟩
          · exact Or.inr ⟨_, _, _, rfl, rfl,
              (alike.put (.file contents) (some _)).put (.descriptor fd) (some _)⟩
      · next pipe reading target =>
          rw [target] at inside
          have state : one.pipes.get? pipe = two.pipes.get? pipe := inside (.pipe pipe) rfl
          rw [← state]
          split
          · exact Or.inl ⟨_, rfl, rfl⟩
          split
          · exact Or.inr ⟨_, _, _, rfl, rfl, alike⟩
          split
          · exact Or.inl ⟨_, rfl, rfl⟩
          · exact Or.inr ⟨_, _, _, rfl, rfl, alike.put (.pipe pipe) (some _)⟩

theorem alike_closePipeEnd (alike : Alike parts one two) {target : Target}
    (inside : ∀ spot, target.spot? = some spot → spot ∈ parts) :
    Alike parts (one.closePipeEnd target) (two.closePipeEnd target) := by
  unfold closePipeEnd
  split
  · next pipe reading =>
      have state : one.pipes.get? pipe = two.pipes.get? pipe :=
        alike.same (.pipe pipe) (inside (.pipe pipe) rfl)
      rw [← state]
      split
      · exact alike
      · exact alike.put (.pipe pipe) (some _)
  · exact alike

theorem alike_close (alike : Alike parts one two) (covered : one.behind fd ⊆ parts) :
    Alike parts (one.close fd) (two.close fd) := by
  have same : one.descriptors.get? fd = two.descriptors.get? fd :=
    alike.same (.descriptor fd) (covered (descriptor_mem_behind one fd))
  cases found : one.descriptors.get? fd with
  | none =>
      rw [found] at same
      simp only [close, found, ← same]
      exact alike
  | some descriptor =>
      rw [close_of_found found, close_of_found (same.symm.trans found)]
      exact alike_closePipeEnd (alike.put (.descriptor fd) none) fun spot here =>
        covered (spot_mem_behind found here)

end

end World

namespace Boundary

namespace Buffered

variable {σ : Type} {push : Bytes → σ → Except IoFailure Nat × σ} {Matches : σ → σ → Prop}

/-- What two matching states are offered is taken alike, and they match again. -/
def Respects (push : Bytes → σ → Except IoFailure Nat × σ) (Matches : σ → σ → Prop) : Prop :=
  ∀ data one two, Matches one two →
    (push data one).1 = (push data two).1 ∧ Matches (push data one).2 (push data two).2

/-- The device with two matching states. -/
def twin (respects : Respects push Matches) : Offer { pair : σ × σ // Matches pair.1 pair.2 } :=
  .steady fun data pair => ((push data pair.1.1).1,
    ⟨((push data pair.1.1).2, (push data pair.1.2).2), (respects data _ _ pair.2).2⟩)

theorem projects_left (respects : Respects push Matches) :
    Projects (.steady push) (twin respects) fun pair => pair.1.1 := fun _ _ => rfl

theorem projects_right (respects : Respects push Matches) :
    Projects (.steady push) (twin respects) fun pair => pair.1.2 := fun data pair =>
  congrArg (Response.answered · _) (respects data _ _ pair.2).1.symm

theorem drain_matches (respects : Respects push Matches) {one two : σ} (start : Matches one two)
    (pending : Bytes) :
    (drain (.steady push) pending one).1 = (drain (.steady push) pending two).1 ∧
      (drain (.steady push) pending one).2.1 = (drain (.steady push) pending two).2.1 ∧
      Matches (drain (.steady push) pending one).2.2 (drain (.steady push) pending two).2.2 := by
  have drainedOne := drain_project (projects_left respects) pending ⟨(one, two), start⟩
  have drainedTwo := drain_project (projects_right respects) pending ⟨(one, two), start⟩
  rw [drainedOne, drainedTwo]
  exact ⟨rfl, rfl, (drain (twin respects) pending ⟨(one, two), start⟩).2.2.2⟩

theorem write_matches (respects : Respects push Matches) {one two : σ} (start : Matches one two)
    (data pending : Bytes) :
    (write (.steady push) data pending one).1 = (write (.steady push) data pending two).1 ∧
      (write (.steady push) data pending one).2.1 = (write (.steady push) data pending two).2.1 ∧
      Matches (write (.steady push) data pending one).2.2
        (write (.steady push) data pending two).2.2 := by
  have writtenOne := write_project (projects_left respects) data pending ⟨(one, two), start⟩
  have writtenTwo := write_project (projects_right respects) data pending ⟨(one, two), start⟩
  rw [writtenOne, writtenTwo]
  exact ⟨rfl, rfl, (write (twin respects) data pending ⟨(one, two), start⟩).2.2.2⟩

end Buffered

open World (Alike Within unfiled)

section

variable {fd : Nat} {parts : Set Spot}

theorem target?_push (fd : Nat) (data : Bytes) (world : World) (other : Nat) :
    (push fd data world).2.target? other = world.target? other := by
  unfold push
  split
  · next written => exact World.target?_write written other
  · rfl

theorem respects_push (fd : Nat) (parts : Set Spot) :
    Buffered.Respects (push fd) fun one two => Alike parts one two ∧ one.behind fd ⊆ parts := by
  intro data one two matching
  obtain ⟨alike, covered⟩ := matching
  have still : (push fd data one).2.behind fd ⊆ parts := by
    rw [World.behind_congr (target?_push fd data one fd)]
    exact covered
  refine ⟨?_, ?_, still⟩ <;>
    rcases World.alike_write alike covered data with ⟨failure, pushedOne, pushedTwo⟩ |
      ⟨taken, first, second, pushedOne, pushedTwo, further⟩ <;>
    simp only [push, pushedOne, pushedTwo]
  · exact alike
  · exact further

/-- What is behind the descriptor is all that a device changes. -/
def Stays (fd : Nat) (before after : World) : Prop :=
  (∀ other, after.target? other = before.target? other) ∧
    Within (before.behind fd) before after

theorem Stays.refl (fd : Nat) (world : World) : Stays fd world world :=
  ⟨fun _ => rfl, Within.refl _ _⟩

theorem Stays.trans {first second third : World} (one : Stays fd first second)
    (two : Stays fd second third) : Stays fd first third := by
  have same := World.behind_congr (one.1 fd)
  have further := two.2
  rw [same] at further
  exact ⟨fun other => (two.1 other).trans (one.1 other), one.2.trans further⟩

theorem stays_push (fd : Nat) (data : Bytes) (world : World) :
    Stays fd world (push fd data world).2 := by
  refine ⟨target?_push fd data world, ?_⟩
  unfold push
  split
  · next written => exact World.within_write written
  · exact Within.refl _ _

theorem stays_drain (fd : Nat) (pending : Bytes) (world : World) :
    Stays fd world (Buffered.drain (offerTo fd) pending world).2.2 :=
  Buffered.drain_relates (Stays.refl fd) Stays.trans (stays_push fd) pending world

theorem stays_write (fd : Nat) (data pending : Bytes) (world : World) :
    Stays fd world (Buffered.write (offerTo fd) data pending world).2.2 :=
  Buffered.write_relates (Stays.refl fd) Stays.trans (stays_push fd) data pending world

theorem within_fill (world : World) (region : Option Nat) (position : Nat) (data : Bytes) :
    Within { spot | ∃ id, region = some id ∧ spot = .memory id } world
      (fill world region position data) := by
  unfold fill
  split
  · exact Within.refl _ _
  · next id =>
      split
      · exact Within.refl _ _
      · have inside : .memory id ∈
          { spot : Spot | ∃ other, some id = some other ∧ spot = .memory other } :=
          ⟨id, rfl, rfl⟩
        exact World.within_put inside (some _)

theorem alike_fill {one two : World} (alike : Alike parts one two) {region : Option Nat}
    (covered : { spot | ∃ id, region = some id ∧ spot = .memory id } ⊆ parts) (position : Nat)
    (data : Bytes) : Alike parts (fill one region position data) (fill two region position data) := by
  unfold fill
  split
  · exact alike
  · next id =>
      have same : one.memory.get? id = two.memory.get? id :=
        alike.same (.memory id) (covered ⟨id, rfl, rfl⟩)
      rw [← same]
      split
      · exact alike
      · exact alike.put (.memory id) (some _)

theorem within_extend (world : World) (id : Nat) (data : Bytes) :
    Within {.sink id} world (extend world id data) := by
  unfold extend
  split
  · exact Within.refl _ _
  · exact World.within_put (Set.mem_singleton _) (some _)

theorem alike_extend {one two : World} (alike : Alike parts one two) {id : Nat}
    (covered : .sink id ∈ parts) (data : Bytes) :
    Alike parts (extend one id data) (extend two id data) := by
  have same : one.sinks.get? id = two.sinks.get? id := alike.same (.sink id) covered
  unfold extend
  rw [← same]
  split
  · exact alike
  · exact alike.put (.sink id) (some _)

end

/-- The parts of the world that a reader reads from. -/
def Reader.spots (reader : Reader) (world : World) : Set Spot :=
  match reader with
  | .descriptor fd => world.behind fd
  | .bytes _ => ∅

/-- The parts of the world that a writer writes to. -/
def Writer.spots (writer : Writer) (world : World) : Set Spot :=
  match writer with
  | .buffered fd _ => world.behind fd
  | .fixed region _ _ => { spot | ∃ id, region = some id ∧ spot = .memory id }
  | .growing sink => {.sink sink}

section

variable {reader : Reader} {writer : Writer} {world one two : World} {parts : Set Spot}

/-- A read changes no file. -/
theorem Reader.within_read {count : Nat} {data : Bytes} {next : Reader} {after : World}
    (done : reader.read count world = .ok (data, next, after)) :
    Within (unfiled (reader.spots world)) world after := by
  cases reader with
  | descriptor fd =>
      simp only [read] at done
      split at done
      · cases done
      · next finished =>
          cases done
          exact World.within_read finished
  | bytes rest =>
      cases done
      exact Within.refl _ _

theorem Reader.within_finish (reader : Reader) (world : World) :
    Within (unfiled (reader.spots world)) world (reader.finish world) := by
  cases reader with
  | descriptor fd => exact World.within_close world fd
  | bytes rest => exact Within.refl _ _

theorem Reader.alike_read (alike : Alike parts one two) (covered : reader.spots one ⊆ parts)
    (count : Nat) :
    (∃ failure, reader.read count one = .error failure ∧ reader.read count two = .error failure) ∨
      ∃ data next first second, reader.read count one = .ok (data, next, first) ∧
        reader.read count two = .ok (data, next, second) ∧ Alike parts first second := by
  cases reader with
  | descriptor fd =>
      rcases World.alike_read alike covered count with ⟨failure, readOne, readTwo⟩ |
        ⟨data, first, second, readOne, readTwo, further⟩
      · simp only [read, readOne, readTwo]
        exact Or.inl ⟨failure, rfl, rfl⟩
      · simp only [read, readOne, readTwo]
        exact Or.inr ⟨data, _, first, second, rfl, rfl, further⟩
  | bytes rest => exact Or.inr ⟨_, _, one, two, rfl, rfl, alike⟩

theorem Reader.alike_finish (alike : Alike parts one two) (covered : reader.spots one ⊆ parts) :
    Alike parts (reader.finish one) (reader.finish two) := by
  cases reader with
  | descriptor fd => exact World.alike_close alike covered
  | bytes rest => exact alike

theorem Writer.within_write (writer : Writer) (data : Bytes) (world : World) :
    Within (writer.spots world) world (writer.write data world).2.2 := by
  cases writer with
  | buffered fd pending => exact (stays_write fd data pending world).2
  | fixed region length position => exact within_fill world region position _
  | growing sink => exact within_extend world sink data

theorem Writer.within_flush (writer : Writer) (world : World) :
    Within (writer.spots world) world (writer.flush world).2.2 := by
  cases writer with
  | buffered fd pending => exact (stays_drain fd pending world).2
  | fixed region length position => exact Within.refl _ _
  | growing sink => exact Within.refl _ _

theorem Writer.within_finish (writer : Writer) (world : World) :
    Within (writer.spots world) world (writer.finish world) := by
  cases writer with
  | buffered fd pending =>
      have drained := (stays_drain fd pending world).trans (stays_drain fd
        (Buffered.drain (offerTo fd) pending world).2.1
        (Buffered.drain (offerTo fd) pending world).2.2)
      have closed := World.within_close (Buffered.drain (offerTo fd)
        (Buffered.drain (offerTo fd) pending world).2.1
        (Buffered.drain (offerTo fd) pending world).2.2).2.2 fd
      rw [World.behind_congr (drained.1 fd)] at closed
      exact drained.2.trans (closed.mono (World.unfiled_subset _))
  | fixed region length position => exact Within.refl _ _
  | growing sink => exact Within.refl _ _

theorem Writer.alike_write (alike : Alike parts one two) (covered : writer.spots one ⊆ parts)
    (data : Bytes) :
    (writer.write data one).1 = (writer.write data two).1 ∧
      (writer.write data one).2.1 = (writer.write data two).2.1 ∧
      Alike parts (writer.write data one).2.2 (writer.write data two).2.2 := by
  cases writer with
  | buffered fd pending =>
      obtain ⟨answer, answered, further⟩ :=
        Buffered.write_matches (respects_push fd parts) ⟨alike, covered⟩ data pending
      refine ⟨answer, ?_, further.1⟩
      simp only [write, offerTo, answered]
  | fixed region length position => exact ⟨rfl, rfl, alike_fill alike covered position _⟩
  | growing sink => exact ⟨rfl, rfl, alike_extend alike (covered rfl) data⟩

theorem Writer.alike_flush (alike : Alike parts one two) (covered : writer.spots one ⊆ parts) :
    (writer.flush one).1 = (writer.flush two).1 ∧
      (writer.flush one).2.1 = (writer.flush two).2.1 ∧
      Alike parts (writer.flush one).2.2 (writer.flush two).2.2 := by
  cases writer with
  | buffered fd pending =>
      obtain ⟨answer, answered, further⟩ :=
        Buffered.drain_matches (respects_push fd parts) ⟨alike, covered⟩ pending
      refine ⟨answer, ?_, further.1⟩
      simp only [flush, offerTo, answered]
  | fixed region length position => exact ⟨rfl, rfl, alike⟩
  | growing sink => exact ⟨rfl, rfl, alike⟩

theorem Writer.alike_finish (alike : Alike parts one two) (covered : writer.spots one ⊆ parts) :
    Alike parts (writer.finish one) (writer.finish two) := by
  cases writer with
  | buffered fd pending =>
      obtain ⟨-, answered, first⟩ :=
        Buffered.drain_matches (respects_push fd parts) ⟨alike, covered⟩ pending
      obtain ⟨-, -, second⟩ := Buffered.drain_matches (respects_push fd parts) first
        (Buffered.drain (.steady (push fd)) pending one).2.1
      simp only [finish, flush, closeTarget, offerTo, ← answered]
      exact World.alike_close second.1 second.2
  | fixed region length position => exact alike
  | growing sink => exact alike

end

end Boundary

end SessionStreams
