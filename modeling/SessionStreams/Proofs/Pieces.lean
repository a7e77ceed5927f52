import Mathlib.Data.List.Induction
import SessionStreams.Proofs.Dialogues
import SessionStreams.Proofs.Handovers

set_option autoImplicit false

/- Reads that take a source apart. Main statement (`InOrder.served`): whoever answers each read with
the front of what is left has returned the source exactly once, whatever lengths were asked for, and
a loop of reads of one length ends, with the counts that division with remainder tells. -/

namespace SessionStreams

/-- The lengths that were asked for, with what was returned. -/
abbrev Reads := List (Nat × Bytes)

namespace Reads

/-- All that was returned. -/
def returned (reads : Reads) : Bytes := reads.flatMap Prod.snd

theorem returned_append (front back : Reads) :
    returned (front ++ back) = returned front ++ returned back :=
  List.flatMap_append

@[simp] theorem returned_cons (read : Nat × Bytes) (rest : Reads) :
    returned (read :: rest) = read.2 ++ returned rest := List.flatMap_cons

@[simp] theorem returned_nil : returned [] = [] := rfl

/-- Every read returned the front of what was left of the source then. -/
def Exact (source : Bytes) (reads : Reads) : Prop :=
  ∀ earlier count data later, reads = earlier ++ (count, data) :: later →
    data = (source.drop (returned earlier).length).take count

/-- The reads returned the source once, from its start. -/
structure Once (source : Bytes) (reads : Reads) : Prop where
  /-- A read returns the bytes from where the reads before it came to. -/
  exact : ∀ earlier count data later, reads = earlier ++ (count, data) :: later →
    data = (source.drop (returned earlier).length).take
      (min count (source.length - (returned earlier).length))
  /-- Nothing is returned where nothing is asked for, and at the end. -/
  nothing_iff : ∀ earlier count data later, reads = earlier ++ (count, data) :: later →
    (data = [] ↔ count = 0 ∨ (returned earlier).length = source.length)
  /-- The end stays the end. -/
  ended : ∀ earlier count later, reads = earlier ++ (count, []) :: later → count ≠ 0 →
    ∀ read ∈ later, read.2 = []
  whole : returned reads = source.take (min (reads.map Prod.fst).sum source.length)

namespace Exact

variable {source : Bytes} {reads : Reads}

theorem nil (source : Bytes) : Exact source [] := by
  intro earlier count data later split
  cases earlier <;> cases split

theorem concat (exact : Exact source reads) (count : Nat) :
    Exact source (reads ++ [(count, (source.drop (returned reads).length).take count)]) := by
  intro earlier asked data later split
  rcases Host.concat_eq_append_cons split with ⟨-, rfl, same⟩ | ⟨rest, rfl, before⟩
  · cases same
    rfl
  · exact exact earlier asked data rest before

theorem of_append {front back : Reads} (exact : Exact source (front ++ back)) :
    Exact source front := by
  intro earlier count data later split
  refine exact earlier count data (later ++ back) ?_
  rw [split, List.append_assoc, List.cons_append]

theorem whole (exact : Exact source reads) :
    returned reads = source.take (reads.map Prod.fst).sum := by
  induction reads using List.reverseRecOn with
  | nil => exact List.take_zero.symm
  | append_singleton front last ih =>
      obtain ⟨count, data⟩ := last
      have before := ih exact.of_append
      have piece := exact front count data [] rfl
      rw [returned_append, returned_cons, returned_nil, List.append_nil, List.map_append,
        List.map_singleton, List.sum_append_nat, List.sum_singleton]
      rw [before, List.length_take] at piece
      rw [before, piece, List.take_add]
      -- Where the source has ended, nothing is left on either side.
      rcases Nat.le_total (front.map Prod.fst).sum source.length with inside | beyond
      · rw [Nat.min_eq_left inside]
      · rw [Nat.min_eq_right beyond, List.drop_length, List.drop_of_length_le beyond]

/-- The reads before came to the end, if nothing was returned to one that asked for more. -/
theorem eq_nil_iff (exact : Exact source reads) {earlier later : Reads} {count : Nat} {data : Bytes}
    (split : reads = earlier ++ (count, data) :: later) :
    data = [] ↔ count = 0 ∨ (returned earlier).length = source.length := by
  have within : (returned earlier).length ≤ source.length := by
    subst split
    rw [exact.of_append.whole, List.length_take]
    exact Nat.min_le_right _ _
  rw [exact earlier count data later split, List.take_eq_nil_iff, List.drop_eq_nil_iff]
  omega

theorem once (exact : Exact source reads) : Once source reads := by
  refine ⟨fun earlier count data later split => ?_, fun earlier count data later split =>
    exact.eq_nil_iff split, fun earlier count later split nonzero read inside => ?_, ?_⟩
  · rw [exact earlier count data later split, ← List.length_drop, List.take_eq_take_min]
  · obtain ⟨middle, last, rfl⟩ := List.append_of_mem inside
    obtain ⟨asked, data⟩ := read
    have ended : (returned earlier).length = source.length :=
      ((exact.eq_nil_iff split).mp rfl).resolve_left nonzero
    have split : reads = (earlier ++ (count, []) :: middle) ++ (asked, data) :: last := by
      rw [split, List.append_assoc, List.cons_append]
    show data = []
    rw [exact _ asked data last split, returned_append, List.length_append, ended,
      List.drop_of_length_le (Nat.le_add_right _ _), List.take_nil]
  · rw [exact.whole, List.take_eq_take_min]

end Exact

end Reads

/-- Reading with one length until nothing is returned, with how much each read returned. -/
inductive ReadLoop {σ : Type} (Step : Nat × Bytes → σ → σ → Prop) (length : Nat) :
    σ → List Nat → σ → Prop where
  | last {state after : σ} (read : Step (length, []) state after) :
      ReadLoop Step length state [0] after
  | more {state middle after : σ} {data : Bytes} {counts : List Nat}
      (read : Step (length, data) state middle) (nonempty : data ≠ [])
      (rest : ReadLoop Step length middle counts after) :
      ReadLoop Step length state (data.length :: counts) after

/-- As many full reads as there are, one for what is left over, and one that finds the end. -/
def loopCounts (size length : Nat) : List Nat :=
  List.replicate (size / length) length ++ (if size % length = 0 then [] else [size % length]) ++ [0]

theorem loopCounts_zero (length : Nat) : loopCounts 0 length = [0] := by
  simp [loopCounts]

theorem loopCounts_of_pos {size length : Nat} (filled : 0 < size) (positive : 0 < length) :
    loopCounts size length = min length size :: loopCounts (size - length) length := by
  rcases Nat.lt_or_ge size length with short | long
  · have exhausted : size - length = 0 := by omega
    have nonzero : size ≠ 0 := by omega
    rw [exhausted, loopCounts_zero, Nat.min_eq_right short.le, loopCounts, Nat.div_eq_of_lt short,
      Nat.mod_eq_of_lt short, if_neg nonzero]
    rfl
  · rw [Nat.min_eq_left long, loopCounts, loopCounts, Nat.div_eq_sub_div positive long,
      Nat.mod_eq_sub_mod long, List.replicate_succ, List.cons_append, List.cons_append]

example : loopCounts 10 4 = [4, 4, 2, 0] ∧ loopCounts 8 4 = [4, 4, 0] := by decide

/-- Each read is answered with the front of what is left, and nothing in between takes from it. -/
structure InOrder {σ : Type} (Step : Nat × Bytes → σ → σ → Prop) (Between : σ → σ → Prop)
    (Left : Bytes → σ → Prop) : Prop where
  goes : ∀ {rest state}, Left rest state → ∀ count, ∃ after,
    Step (count, rest.take count) state after
  takes : ∀ {rest state after count data}, Left rest state → Step (count, data) state after →
    data = rest.take count ∧ Left (rest.drop count) after
  stays : ∀ {rest state after}, Left rest state → Between state after → Left rest after

/-- What came of some reads of a source, and what will come of more. -/
structure Served {σ : Type} (source : Bytes) (Step : Nat × Bytes → σ → σ → Prop) (reads : Reads)
    (state : σ) : Prop where
  once : reads.Once source
  goes : ∀ count, ∃ data after, Step (count, data) state after
  /-- Loops of reads end, at every length but 0. -/
  loop : ∀ length, 0 < length → ∀ counts, (∃ after, ReadLoop Step length state counts after) ↔
    counts = loopCounts (source.length - reads.returned.length) length

namespace InOrder

variable {σ : Type} {Step : Nat × Bytes → σ → σ → Prop} {Between : σ → σ → Prop}
  {Left : Bytes → σ → Prop} {first state : σ} {source rest : Bytes} {reads : Reads} {length : Nat}

theorem exists_loop (inOrder : InOrder Step Between Left) (positive : 0 < length)
    (offered : Left rest state) :
    ∃ after, ReadLoop Step length state (loopCounts rest.length length) after := by
  induction size : rest.length using Nat.strong_induction_on generalizing rest state with
  | _ number ih =>
      obtain ⟨middle, read⟩ := inOrder.goes offered length
      have further := (inOrder.takes offered read).2
      rcases Nat.eq_zero_or_pos number with rfl | filled
      · rw [List.eq_nil_of_length_eq_zero size, List.take_nil] at read
        exact ⟨middle, loopCounts_zero length ▸ .last read⟩
      · have data : (rest.take length).length = min length number := by rw [List.length_take, size]
        have less : (rest.drop length).length = number - length := by rw [List.length_drop, size]
        obtain ⟨after, loop⟩ := ih (number - length) (by omega) further less
        refine ⟨after, ?_⟩
        rw [loopCounts_of_pos filled positive, ← data]
        refine .more read (List.length_pos_iff.mp ?_) loop
        omega

theorem eq_loopCounts (inOrder : InOrder Step Between Left) (positive : 0 < length)
    {counts : List Nat} {after : σ} (loop : ReadLoop Step length state counts after)
    (offered : Left rest state) : counts = loopCounts rest.length length := by
  induction loop generalizing rest with
  | last read =>
      have nothing := (inOrder.takes offered read).1
      rcases List.take_eq_nil_iff.mp nothing.symm with zero | rfl
      · omega
      · exact (loopCounts_zero length).symm
  | more read nonempty loop ih =>
      obtain ⟨rfl, further⟩ := inOrder.takes offered read
      have positive' : 0 < rest.length := by
        have data := List.length_pos_iff.mpr nonempty
        rw [List.length_take] at data
        omega
      rw [ih further, loopCounts_of_pos positive' positive, List.length_take, List.length_drop]

/-- The reads so far tell what is left. -/
theorem exact (inOrder : InOrder Step Between Left) (offered : Left source first)
    (dialogue : Dialogue Step Between first reads state) :
    reads.Exact source ∧ Left (source.drop reads.returned.length) state := by
  let At (reads : Reads) (state : σ) : Prop :=
    reads.Exact source ∧ Left (source.drop reads.returned.length) state
  refine dialogue.keeps At ⟨.nil source, offered⟩ ?_ fun held changed =>
    ⟨held.1, inOrder.stays held.2 changed⟩
  rintro log state after ⟨count, data⟩ ⟨exact, offered⟩ next
  obtain ⟨rfl, further⟩ := inOrder.takes offered next
  refine ⟨exact.concat count, ?_⟩
  rw [Reads.returned_append, Reads.returned_cons, Reads.returned_nil, List.append_nil,
    List.length_append, World.drop_length_take]
  exact further

/-- Whatever is asked for, the source is returned exactly once. -/
theorem served (inOrder : InOrder Step Between Left) (offered : Left source first)
    (dialogue : Dialogue Step Between first reads state) : Served source Step reads state := by
  obtain ⟨exact, further⟩ := inOrder.exact offered dialogue
  refine ⟨exact.once, fun count => ?_, fun length positive counts => ?_⟩
  · obtain ⟨after, read⟩ := inOrder.goes further count
    exact ⟨_, after, read⟩
  · rw [← List.length_drop]
    constructor
    · rintro ⟨after, loop⟩
      exact inOrder.eq_loopCounts positive loop further
    · rintro rfl
      exact inOrder.exists_loop positive further

end InOrder

end SessionStreams
