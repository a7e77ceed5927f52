import SessionStreams.Proofs.Courses
import SessionStreams.Proofs.Delivery

set_option autoImplicit false

namespace SessionStreams

namespace Host

open Boundary (Destination Outcome Source)

theorem Action.on_of_ending {action : Action} {address : Address}
    (ends : action.ending? = some address) : action.On address := by
  rcases action.kinds with ⟨config, rfl⟩ | ⟨id, asked, rfl, opens⟩ | ⟨other, on⟩
  · cases ends
  · rw [ContextAction.ending?_of_opens opens] at ends
    cases ends
  · rcases on.ending with quiet | also
    · rw [quiet] at ends
      cases ends
    · cases ends.symm.trans also
      exact on

namespace Holdings

variable {held after : Holdings} {address : Address} {action : Action} {answer : Answer} {fd : Nat}

theorem closes?_eq_some_iff : held.closes? action = some fd ↔
    ∃ address, action.ending? = some address ∧ held.descriptor? address = some fd :=
  Option.bind_eq_some_iff

theorem mem_closed_of_retains (retains : World.Retains held.world after.world) :
    fd ∉ (held.step action after).closed :=
  fun closed => closed.2 ((retains.isOpen fd).mpr closed.1)

/-- A refusal closes just what is handed over to a released context. -/
theorem mem_closed_of_refused (disciplined : held.Disciplined action)
    (kept : (∀ fd, ¬ held.Forfeits action fd) → after.world = held.world)
    (closed : ∀ fd, held.Forfeits action fd → after.world = held.world.close fd) :
    fd ∈ (held.step action after).closed ↔ held.Forfeits action fd := by
  constructor
  · rintro ⟨before, gone⟩
    by_contra unforfeited
    by_cases forfeits : ∃ other, held.Forfeits action other
    · obtain ⟨other, forfeited⟩ := forfeits
      rw [closed other forfeited, World.isOpen_close] at gone
      refine gone ⟨before, ?_⟩
      rintro rfl
      exact unforfeited forfeited
    · rw [kept fun other forfeited => forfeits ⟨other, forfeited⟩] at gone
      exact gone before
  · intro forfeited
    refine ⟨(disciplined fd forfeited.given).1, ?_⟩
    rw [closed fd forfeited, World.isOpen_close]
    exact fun both => both.2 rfl

/-- A step closes what belongs to the stream that it ends, and what it hands over to a released
context. -/
theorem closed_step (orderly : held.Orderly) (disciplined : held.Disciplined action)
    (done : held.perform action = .done (answer, after)) :
    fd ∈ (held.step action after).closed ↔
      held.closes? action = some fd ∨ held.Forfeits action fd := by
  obtain ⟨sound, owning⟩ := orderly
  rcases action.kinds with ⟨config, rfl⟩ | ⟨id, asked, rfl, opens⟩ | ⟨address, on⟩
  · obtain ⟨_, _, built, -, retains⟩ := streams_build held config
    cases done.symm.trans built
    refine iff_of_false (mem_closed_of_retains retains) ?_
    rintro (closes | ⟨_, _, same, -⟩)
    · cases closes
    · cases same
  · obtain ⟨_, _, made, opening⟩ := opening_perform sound id opens
    cases done.symm.trans made
    rw [closes?_of_quiet (ContextAction.ending?_of_opens opens)]
    have stays {own sink : Option Nat} (gained : World.Gained held.world
        (Action.context id asked).handsOver? own sink after.world) :
        fd ∉ (held.step (.context id asked) after).closed := by
      obtain ⟨-, -, isOpen, -⟩ := gained_spec gained
      exact fun closed => closed.2 (isOpen fd closed.1)
    have neither (unforfeited : ∀ fd, ¬ held.Forfeits (.context id asked) fd) :
        ¬ (none = some fd ∨ held.Forfeits (.context id asked) fd) := by
      rintro (closes | forfeits)
      · cases closes
      · exact unforfeited fd forfeits
    cases opening with
    | refused unmade same kept closed =>
        rw [mem_closed_of_refused disciplined kept closed]
        exact ⟨Or.inr, fun closes => closes.resolve_left nofun⟩
    | reader unforfeited opens readers opened handle sources writers targets gained =>
        exact iff_of_false (stays gained) (neither unforfeited)
    | writer unforfeited opens writers opened handle targets readers sources collects gained =>
        exact iff_of_false (stays gained) (neither unforfeited)
  · have isOpen := (possession_perform sound on done).isOpen fd
    have unforfeited : ¬ held.Forfeits action fd := not_forfeits_of_none on.handsOver? fd
    constructor
    · intro closed
      left
      by_contra kept
      exact closed.2 (isOpen.mpr ⟨closed.1, kept⟩)
    · rintro (closes | forfeits)
      · obtain ⟨other, -, own⟩ := closes?_eq_some_iff.mp closes
        exact ⟨owning.descriptors.there other fd own, fun still => (isOpen.mp still).2 closes⟩
      · exact absurd forfeits unforfeited

/-- A stream has its descriptor until it is ended, and its sink for no longer than that. -/
theorem belongings_step (sound : Sound held.custody) (known : held.Known address)
    (done : held.perform action = .done (answer, after)) :
    after.descriptor? address =
        (if action.ending? = some address then none else held.descriptor? address) ∧
      (held.sink? address = none → after.sink? address = none) := by
  have aside (quiet : action.ending? ≠ some address)
      (same : held.descriptor? address = after.descriptor? address ∧
        held.collecting? address = after.collecting? address ∧
          held.sink? address = after.sink? address) :
      after.descriptor? address =
          (if action.ending? = some address then none else held.descriptor? address) ∧
        (held.sink? address = none → after.sink? address = none) :=
    ⟨by rw [if_neg quiet, same.1], fun sinkless => same.2.2.symm.trans sinkless⟩
  rcases action.kinds with ⟨config, rfl⟩ | ⟨id, asked, rfl, opens⟩ | ⟨other, on⟩
  · obtain ⟨_, _, built, same, -⟩ := streams_build held config
    cases done.symm.trans built
    exact aside nofun (same.belongings address)
  · obtain ⟨_, _, made, opening⟩ := opening_perform sound id opens
    cases done.symm.trans made
    have quiet : (Action.context id asked).ending? ≠ some address := by
      rw [ContextAction.ending?_of_opens opens]
      exact nofun
    cases opening with
    | refused unmade same kept closed => exact aside quiet (same.belongings address)
    | reader unforfeited opens readers opened handle sources writers targets gained =>
        refine aside quiet (belongings_reader sound readers sources writers targets ?_)
        rintro rfl
        exact Nat.lt_irrefl _ known
    | writer unforfeited opens writers opened handle targets readers sources collects gained =>
        refine aside quiet (belongings_writer sound writers targets readers sources ?_)
        rintro rfl
        exact Nat.lt_irrefl _ known
  · by_cases here : address = other
    · subst here
      obtain ⟨descriptor, -, sink, -, -⟩ := possession_perform sound on done
      refine ⟨?_, fun sinkless => ?_⟩
      · rw [descriptor]
        rcases on.ending with quiet | ends
        · rw [quiet, if_pos rfl, if_neg nofun]
        · rw [ends, if_neg nofun, if_pos rfl]
      · rw [sink, sinkless, ite_self]
    · refine aside ?_ (belongings_aside sound on done here)
      rcases on.ending with quiet | ends
      · rw [quiet]
        exact nofun
      · rw [ends]
        exact fun same => here (Option.some.inj same).symm

end Holdings

/-- A descriptor had been given up when the log started: no stream has one of this number, and no
step closes one, unless one of this number was taken over again. -/
def GivenUp (fd : Nat) (log : List Step) (held : Holdings) : Prop :=
  (∃ step ∈ log, fd ∈ step.taken) ∨
    (∀ address, held.descriptor? address ≠ some fd) ∧ ∀ step ∈ log, fd ∉ step.closed

/-- What becomes of the descriptor `fd` of a stream that is new at the start of the log. -/
structure Tenure (address : Address) (fd : Nat) (log : List Step) (held : Holdings) : Prop where
  known : held.Known address
  collectless : held.sink? address = none
  /-- The stream has it, and no step closes it, before the stream is ended. -/
  has : (∀ step ∈ log, step.action.ending? ≠ some address) →
    held.descriptor? address = some fd ∧ ∀ step ∈ log, fd ∉ step.closed
  /-- The first step that ends the stream closes it, and no step before that. From then on, the
  stream has no descriptor, and its actions close nothing. -/
  ended : ∀ front last back, log = front ++ last :: back →
    (∀ step ∈ front, step.action.ending? ≠ some address) → last.action.ending? = some address →
      fd ∈ last.closed ∧ (∀ step ∈ front, fd ∉ step.closed) ∧ held.descriptor? address = none ∧
      (∀ step ∈ back, step.action.ending? = some address → step.closed = ∅) ∧
      GivenUp fd back held

theorem concat_eq_append_cons {α : Type} {log front back : List α} {new last : α}
    (same : log ++ [new] = front ++ last :: back) :
    (back = [] ∧ front = log ∧ last = new) ∨
      ∃ rest, back = rest ++ [new] ∧ log = front ++ last :: rest := by
  rcases List.eq_nil_or_concat back with rfl | ⟨rest, final, rfl⟩
  · obtain ⟨fronts, lasts⟩ := List.append_inj' same rfl
    exact Or.inl ⟨rfl, fronts.symm, (List.singleton_inj.mp lasts).symm⟩
  · rw [List.concat_eq_append, ← List.cons_append, ← List.append_assoc] at same
    obtain ⟨fronts, lasts⟩ := List.append_inj' same rfl
    refine Or.inr ⟨rest, ?_, fronts⟩
    rw [List.concat_eq_append, List.singleton_inj.mp lasts]

section

variable {address : Address} {fd : Nat} {log : List Step} {held after : Holdings} {action : Action}
  {answer : Answer}

theorem Holdings.descriptor?_inWorld (held : Holdings) (world : World) (address : Address) :
    (held.inWorld world).descriptor? address = held.descriptor? address := by
  cases address <;> rfl

theorem GivenUp.inWorld (givenUp : GivenUp fd log held) (world : World) :
    GivenUp fd log (held.inWorld world) := by
  unfold GivenUp
  simp only [Holdings.descriptor?_inWorld]
  exact givenUp

theorem GivenUp.step (givenUp : GivenUp fd log held) (orderly : held.Orderly)
    (disciplined : held.Disciplined action) (done : held.perform action = .done (answer, after)) :
    GivenUp fd (log ++ [held.step action after]) after := by
  rcases givenUp with ⟨step, inside, taken⟩ | ⟨nobody, idle⟩
  · exact Or.inl ⟨step, List.mem_append_left _ inside, taken⟩
  by_cases taken : fd ∈ (held.step action after).taken
  · exact Or.inl ⟨_, List.mem_append_right _ (List.mem_singleton.mpr rfl), taken⟩
  refine Or.inr ⟨fun other own => taken (Or.inr ⟨other, nobody other, own⟩), fun step inside => ?_⟩
  rcases List.mem_append.mp inside with old | new
  · exact idle step old
  · obtain rfl := List.mem_singleton.mp new
    rw [Holdings.closed_step orderly disciplined done]
    rintro (closes | forfeits)
    · obtain ⟨other, -, own⟩ := Holdings.closes?_eq_some_iff.mp closes
      exact nobody other own
    · exact taken (Or.inl forfeits.given)

namespace Tenure

theorem start (known : held.Known address) (collectless : held.sink? address = none)
    (own : held.descriptor? address = some fd) : Tenure address fd [] held := by
  refine ⟨known, collectless, fun _ => ⟨own, nofun⟩, fun front last back same => ?_⟩
  cases front <;> cases same

theorem inWorld (tenure : Tenure address fd log held) (world : World) :
    Tenure address fd log (held.inWorld world) := by
  have same := held.descriptor?_inWorld world
  have sink : (held.inWorld world).sink? address = held.sink? address := by
    cases address <;> rfl
  refine ⟨?_, sink.trans tenure.collectless, fun unended => ?_, fun front last back split => ?_⟩
  · have known := tenure.known
    cases address <;> exact known
  · rw [same]
    exact tenure.has unended
  · intro unended ends
    obtain ⟨closed, earlier, gone, idle, givenUp⟩ := tenure.ended front last back split unended ends
    exact ⟨closed, earlier, (same address).trans gone, idle, givenUp.inWorld world⟩

/-- A step closes nothing that belongs to a stream that it does not end. -/
theorem notMem_closed (orderly : held.Orderly) (disciplined : held.Disciplined action)
    (done : held.perform action = .done (answer, after)) (own : held.descriptor? address = some fd)
    (unended : action.ending? ≠ some address) : fd ∉ (held.step action after).closed := by
  rw [Holdings.closed_step orderly disciplined done]
  rintro (closes | forfeits)
  · obtain ⟨other, ends, also⟩ := Holdings.closes?_eq_some_iff.mp closes
    cases orderly.owning.descriptors.sole other address fd also own
    exact unended ends
  · exact (disciplined fd forfeits.given).2 address own

theorem step (tenure : Tenure address fd log held) (orderly : held.Orderly)
    (disciplined : held.Disciplined action) (done : held.perform action = .done (answer, after)) :
    Tenure address fd (log ++ [held.step action after]) after := by
  obtain ⟨known, collectless, has, ended⟩ := tenure
  obtain ⟨descriptor, sink⟩ := Holdings.belongings_step orderly.sound known done
  obtain ⟨_, _, also, performed⟩ := Holdings.perform_spec orderly.sound action
  cases done.symm.trans also
  refine ⟨performed.known known, sink collectless, fun unended => ?_, ?_⟩
  · simp only [List.mem_append, List.mem_singleton] at unended
    obtain ⟨own, earlier⟩ := has fun step inside => unended step (Or.inl inside)
    have quiet : action.ending? ≠ some address := unended _ (Or.inr rfl)
    refine ⟨by rw [descriptor, if_neg quiet, own], fun step inside => ?_⟩
    rcases List.mem_append.mp inside with old | new
    · exact earlier step old
    · rw [List.mem_singleton.mp new]
      exact notMem_closed orderly disciplined done own quiet
  · intro front last back split unended ends
    rcases concat_eq_append_cons split with ⟨rfl, rfl, rfl⟩ | ⟨rest, rfl, older⟩
    · -- The step that ends the stream.
      obtain ⟨own, earlier⟩ := has unended
      have ends : action.ending? = some address := ends
      have on := Action.on_of_ending ends
      have gone : after.descriptor? address = none := by rw [descriptor, if_pos ends]
      refine ⟨?_, earlier, gone, nofun, Or.inr ⟨fun other owned => ?_, nofun⟩⟩
      · exact (Holdings.closed_step orderly disciplined done).mpr
          (Or.inl (Holdings.closes?_eq_some_iff.mpr ⟨address, ends, own⟩))
      · by_cases here : other = address
        · rw [here, gone] at owned
          cases owned
        · have before := (Holdings.belongings_aside orderly.sound on done here).1.trans owned
          exact here (orderly.owning.descriptors.sole other address fd before own)
    · -- A step after that.
      obtain ⟨closed, earlier, gone, idle, givenUp⟩ := ended front last rest older unended ends
      refine ⟨closed, earlier, by rw [descriptor, gone, ite_self], fun step inside ends => ?_,
        givenUp.step orderly disciplined done⟩
      rcases List.mem_append.mp inside with old | new
      · exact idle step old ends
      · obtain rfl := List.mem_singleton.mp new
        have ends : action.ending? = some address := ends
        refine Set.eq_empty_iff_forall_notMem.mpr fun number => ?_
        rw [Holdings.closed_step orderly disciplined done, Holdings.closes?_of_ends ends, gone]
        rintro (closes | forfeits)
        · cases closes
        · exact Holdings.not_forfeits_of_none (Action.on_of_ending ends).handsOver? _ forfeits

end Tenure

end

section

variable {first held : Holdings} {log : List Step} {address : Address} {fd : Nat}

theorem Course.tenure (course : Course first log held) (orderly : first.Orderly)
    (start : Tenure address fd [] first) : Tenure address fd log held := by
  induction course with
  | start => exact start
  | act earlier disciplined done ih => exact ih.step (earlier.orderly orderly) disciplined done
  | change earlier spares ih => exact ih.inWorld _

theorem Course.givenUp (course : Course first log held) (orderly : first.Orderly)
    (start : GivenUp fd [] first) : GivenUp fd log held := by
  induction course with
  | start => exact start
  | act earlier disciplined done ih => exact ih.step (earlier.orderly orderly) disciplined done
  | change earlier spares ih => exact ih.inWorld _

end

namespace Holdings

variable {held : Holdings} {id fd : Nat}

/-- A writer that has a descriptor buffers, and collects nothing. -/
theorem exists_pending (sound : Sound held.custody)
    (own : held.descriptor? (.writer id) = some fd) (collectless : held.sink? (.writer id) = none) :
    ∃ pending, held.Buffers id fd pending := by
  cases found : held.writers.get? id with
  | none => simp only [descriptor?, found, Option.bind_none, reduceCtorEq] at own
  | some writer =>
      simp only [sink?, found, Option.bind_some] at collectless
      cases closed : writer.closed with
      | true => simp only [descriptor?, found, Option.bind_some, closed, if_true, reduceCtorEq] at own
      | false =>
          obtain ⟨target, live⟩ := Writer.exists_target sound closed (claim?_writer found)
          rw [descriptor?_writer found closed live] at own
          obtain ⟨handle, share, _, _⟩ := writer
          cases closed
          cases collectless
          cases target with
          | buffered number pending =>
              cases own
              exact ⟨pending, handle, share, found, live⟩
          | _ => cases own

/-- A writer without a sink cannot be harvested, but it is flushed and closed by that. -/
theorem perform_harvest (sound : Sound held.custody) {pending : Bytes}
    (buffers : held.Buffers id fd pending) :
    ∃ tree after, held.perform (.writer id .harvest) =
        .done (.failed ⟨.invalidOperation, "Writer does not collect data"⟩, after) ∧
      after.world = { (Boundary.Writer.buffered fd pending).finish held.world with tree } := by
  obtain ⟨handle, share, found, live⟩ := buffers
  obtain ⟨tree, contexts, shares, ledger, parted⟩ :=
    exists_parted (held.host.withoutWriter handle (.buffered fd pending)) share
  refine ⟨tree, _, perform_endWriter sound rfl found rfl live, ?_⟩
  simp only [parted]
  rfl

/-- A stream over a descriptor that was handed over. -/
theorem perform_handed_made {share : Nat} (bare : held.contexts.get? id = some { share })
    {handed : Handed} (given : handed.number = fd) {action : ContextAction}
    (takes : action = .readerOverDescriptor handed ∨ action = .writerOverDescriptor handed) :
    ∃ new address opened, held.perform (.context id action) = .done (.made new, opened) ∧
      action.opening? new = some address ∧ opened.world = held.world ∧
      Tenure address fd [] opened := by
  rcases takes with rfl | rfl
  · have attempt := Source.attempt_descriptor given held.host.boundary
    refine ⟨_, .reader _, _, perform_source_made bare attempt, rfl, rfl, .start ?_ rfl ?_⟩
    · show held.readers.fresh < (held.readers.alloc _).fresh
      rw [Arena.fresh_alloc]
      exact Nat.lt_succ_self _
    · have live := Arena.get?_alloc_self held.host.boundary.readers (.descriptor fd)
      exact (descriptor?_reader (Arena.get?_alloc_self held.readers _) rfl live).trans rfl
  · have attempt := Destination.attempt_descriptor given held.host.boundary
    have there := Arena.get?_alloc_self held.writers
      { handle := held.host.boundary.writers.fresh, share }
    have fallible : Destination.descriptor handed ≠ .growing := nofun
    refine ⟨_, .writer _, _, perform_destination_made bare fallible attempt, rfl, rfl,
      .start ?_ ?_ ?_⟩
    · show held.writers.fresh < (held.writers.alloc _).fresh
      rw [Arena.fresh_alloc]
      exact Nat.lt_succ_self _
    · simp only [sink?, there, Option.bind_some]
    · have live := Arena.get?_alloc_self held.host.boundary.writers (.buffered fd [])
      exact (descriptor?_writer there rfl live).trans rfl

section

variable {context : Context} (found : held.contexts.get? id = some context)

include found

/-- A descriptor that is handed over to a released context is closed at once if it is owned. The
bare number of one changes nothing. -/
theorem perform_handed_forfeited (orderly : held.Orderly) (released : context.released = true)
    {handed : Handed} {action : ContextAction}
    (takes : action = .readerOverDescriptor handed ∨ action = .writerOverDescriptor handed)
    (disciplined : held.Disciplined (.context id action)) :
    ∃ opened, held.perform (.context id action) =
        .done (.failed (.released "Context"), opened) ∧
      (∀ fd, fd ∈ (held.step (.context id action) opened).closed ↔ handed = .owned fd) ∧
      (∀ fd, handed = .owned fd → GivenUp fd [] opened) ∧
      ∀ number, handed = .raw number → opened = held := by
  have given : (Action.context id action).handed? = some handed := by
    rcases takes with rfl | rfl <;> rfl
  have quiet : (Action.context id action).ending? = none := by
    rcases takes with rfl | rfl <;> rfl
  have performed := perform_handed_of_released found released takes
  refine ⟨_, performed, fun fd => ?_, fun fd owned => ?_, fun number raw => ?_⟩
  · rw [closed_step orderly disciplined performed, closes?_of_quiet quiet]
    constructor
    · rintro (closes | ⟨-, -, -, -, -, same⟩)
      · cases closes
      · exact Option.some.inj (given.symm.trans same)
    · rintro rfl
      exact Or.inr ⟨id, context, rfl, found, released, given⟩
  · subst owned
    have forfeits : held.Forfeits (.context id action) fd :=
      ⟨id, context, rfl, found, released, given⟩
    refine Or.inr ⟨fun address own => ?_, fun _ inside => absurd inside List.not_mem_nil⟩
    rw [← ((sameStreams_mapWorld held _).belongings address).1] at own
    exact (disciplined fd forfeits.given).2 address own
  · subst raw
    rfl

/-- A negative descriptor is refused, and nothing happens to the world. -/
theorem perform_handed_of_negative (sound : Sound held.custody)
    (unreleased : context.released = false) {handed : Handed} (negative : handed.number < 0)
    {action : ContextAction}
    (takes : action = .readerOverDescriptor handed ∨ action = .writerOverDescriptor handed) :
    ∃ answer after, held.perform (.context id action) = .done (answer, after) ∧
      answer.Fails .invalidArgument ∧ after.world = held.world := by
  have opens : action.opening? 0 ≠ none := by
    rcases takes with rfl | rfl <;> exact Option.some_ne_none _
  have outlook : action.outlook context.released = .fails .invalidArgument := by
    rcases takes with rfl | rfl <;>
      simp only [ContextAction.outlook, outlookOfDescriptor, Outlook.unlessEnded, unreleased,
        Bool.false_eq_true, if_false, negative, if_true]
  obtain ⟨answer, after, performed, fails⟩ := ends_context sound found action
  rw [outlook] at fails
  obtain ⟨_, _, also, opening⟩ := opening_perform sound id opens
  cases performed.symm.trans also
  refine ⟨answer, after, performed, fails, ?_⟩
  obtain ⟨error, rfl, -⟩ := fails
  cases opening with
  | refused unmade same kept closed =>
      exact kept fun fd => not_forfeits_of_unreleased found unreleased action fd

/-- What comes of a descriptor that is handed over to a context. -/
theorem perform_handed (orderly : held.Orderly) {handed : Handed} {action : ContextAction}
    (takes : action = .readerOverDescriptor handed ∨ action = .writerOverDescriptor handed)
    (disciplined : held.Disciplined (.context id action)) :
    ∃ answer opened, held.perform (.context id action) = .done (answer, opened) ∧
      (context.released = true → answer.Fails .invalidOperation ∧
        (∀ fd, fd ∈ (held.step (.context id action) opened).closed ↔ handed = .owned fd) ∧
        (∀ fd, handed = .owned fd → GivenUp fd [] opened) ∧
        ∀ number, handed = .raw number → opened = held) ∧
      (context.released = false → handed.number < 0 →
        answer.Fails .invalidArgument ∧ opened.world = held.world) ∧
      (context.released = false → ∀ fd : Nat, handed.number = fd → opened.world = held.world ∧
        ∃ new address, answer = .made new ∧ action.opening? new = some address ∧
          Tenure address fd [] opened) := by
  cases released : context.released with
  | true =>
      obtain ⟨opened, performed, forfeited⟩ :=
        perform_handed_forfeited found orderly released takes disciplined
      exact ⟨_, opened, performed, fun _ => ⟨fails_released "Context", forfeited⟩,
        fun unreleased => Bool.noConfusion unreleased, fun unreleased => Bool.noConfusion unreleased⟩
  | false =>
      by_cases negative : handed.number < 0
      · obtain ⟨answer, opened, performed, refused⟩ :=
          perform_handed_of_negative found orderly.sound released negative takes
        refine ⟨answer, opened, performed, fun unreleased => Bool.noConfusion unreleased,
          fun _ _ => refused, fun _ fd same => ?_⟩
        omega
      · obtain ⟨fd, given⟩ := Int.eq_ofNat_of_zero_le (not_lt.mp negative)
        have bare : held.contexts.get? id = some { share := context.share } := by
          obtain ⟨share, _⟩ := context
          cases released
          exact found
        obtain ⟨new, address, opened, performed, opens, kept, start⟩ :=
          perform_handed_made bare given takes
        refine ⟨_, opened, performed, fun unreleased => Bool.noConfusion unreleased,
          fun _ less => absurd less negative, fun _ number same => ?_⟩
        cases Int.ofNat.inj (given.symm.trans same)
        exact ⟨kept, new, address, rfl, opens, start⟩

end

end Holdings

/-- A world in which one descriptor is open. -/
def oneDevice : World :=
  { World.empty with descriptors := ⟨[some { target := .device .null, readable := true }]⟩ }

end Host

end SessionStreams
