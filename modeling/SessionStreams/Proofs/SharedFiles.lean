import SessionStreams.Proofs.Answers
import SessionStreams.Proofs.Delivery
import SessionStreams.World.Files

set_option autoImplicit false

namespace SessionStreams

/-- A read of a file continues where its descriptor stands. -/
theorem World.read_file {world : World} {fd contents offset : Nat}
    (found : world.descriptors.get? fd =
      some { target := .file contents, offset, readable := true }) (count : Nat) :
    world.read fd count = .ok (((world.fileBytes contents).drop offset).take count,
      world.setOffset fd { target := .file contents, offset, readable := true }
        (offset + (((world.fileBytes contents).drop offset).take count).length)) := by
  simp only [read, found, filePart_eq, Bool.not_true, Bool.false_eq_true, if_false]

namespace Host

open Boundary (Outcome offerTo)

/-- The bytes that a reader gave in an action. -/
def Action.obtained (action : Action) (reader : Nat) (answer : Answer) : Bytes :=
  match action, answer with
  | .reader id (.read _), .bytes data => if id = reader then data else []
  | _, _ => []

/-- All bytes that a reader gave. -/
def obtainedBy (reader : Nat) (log : List (Action × Answer)) : Bytes :=
  log.flatMap fun entry => entry.1.obtained reader entry.2

theorem obtainedBy_concat (reader : Nat) (log : List (Action × Answer)) (action : Action)
    (answer : Answer) :
    obtainedBy reader (log ++ [(action, answer)]) =
      obtainedBy reader log ++ action.obtained reader answer := by
  simp only [obtainedBy, List.flatMap_append, List.flatMap_singleton]

/-- A reader was opened. -/
def Joined (log : List (Action × Answer)) (reader : Nat) : Prop :=
  ∃ context, OpenedWith log context (.reader reader)

theorem joined_concat (log : List (Action × Answer)) (action : Action) (answer : Answer)
    (reader : Nat) :
    Joined (log ++ [(action, answer)]) reader ↔
      Joined log reader ∨ ∃ context, action.opens? answer = some (context, .reader reader) := by
  simp only [Joined, openedWith_concat, exists_or]

/-- What takes part in the use of a file: the writer, readers that are opened on its path, and their
reads. -/
def Uses (writer : Nat) (path : Path) (log : List (Action × Answer)) (action : Action) : Prop :=
  (∃ request, action = .writer writer request) ∨
    (∃ context, action = .context context (.openReader path)) ∨
    ∃ reader count, action = .reader reader (.read count) ∧ Joined log reader

/-- The course of the use of a file, with what was done and answered. -/
inductive Sharing (writer : Nat) (path : Path) (opened : Holdings) :
    List (Action × Answer) → Holdings → Prop where
  | opened : Sharing writer path opened [] opened
  | act {log : List (Action × Answer)} {held after : Holdings} {action : Action} {answer : Answer}
      (earlier : Sharing writer path opened log held) (uses : Uses writer path log action)
      (done : held.perform action = .done (answer, after)) :
      Sharing writer path opened (log ++ [(action, answer)]) after

/-- An entry after which nothing is pending: the writer was flushed, or ended. -/
def Flushes (writer : Nat) (entry : Action × Answer) : Prop :=
  entry = (.writer writer .flush, .nothing) ∨ entry.1.ends? entry.2 = some (.writer writer)

theorem not_flushes {writer : Nat} {action : Action} (other : action ≠ .writer writer .flush)
    (quiet : action.ending? = none) (answer : Answer) : ¬ Flushes writer (action, answer) := by
  rintro (equal | ends)
  · exact other (Prod.mk.inj equal).1
  · rw [Action.ends?_of_quiet quiet] at ends
    cases ends

/-- The writer was flushed or ended, and did not write since. -/
def Flushed (writer : Nat) (log : List (Action × Answer)) : Prop :=
  ∃ earlier entry later, log = earlier ++ entry :: later ∧ Flushes writer entry ∧
    ∀ other ∈ later, ∀ data, other.1 ≠ .writer writer (.write data)

theorem flushed_concat {writer : Nat} {log : List (Action × Answer)} {entry : Action × Answer} :
    Flushed writer (log ++ [entry]) ↔
      Flushes writer entry ∨
        Flushed writer log ∧ ∀ data, entry.1 ≠ .writer writer (.write data) := by
  constructor
  · rintro ⟨earlier, flushing, later, split, flushes, quiet⟩
    rcases List.eq_nil_or_concat later with rfl | ⟨front, last, rfl⟩
    · obtain ⟨-, same⟩ := List.append_inj' split rfl
      rw [List.cons.inj same |>.1]
      exact Or.inl flushes
    · rw [List.concat_eq_append, ← List.cons_append, ← List.append_assoc] at split
      obtain ⟨rfl, same⟩ := List.append_inj' split rfl
      obtain rfl := (List.cons.inj same).1
      rw [List.concat_eq_append] at quiet
      refine Or.inr ⟨⟨earlier, flushing, front, rfl, flushes, fun other inside => ?_⟩, ?_⟩
      · exact quiet other (List.mem_append_left _ inside)
      · exact quiet entry (List.mem_append_right _ List.mem_cons_self)
  · rintro (flushes | ⟨⟨earlier, flushing, later, rfl, flushes, quiet⟩, silent⟩)
    · exact ⟨log, entry, [], rfl, flushes, fun _ inside => nomatch inside⟩
    · refine ⟨earlier, flushing, later ++ [entry], by simp, flushes, ?_⟩
      intro other inside
      rcases List.mem_append.mp inside with before | last
      · exact quiet other before
      · rw [List.mem_singleton.mp last]
        exact silent

/-- An open reader over a descriptor that stands behind these bytes of a file. -/
structure HasRead (held : Holdings) (contents reader fd : Nat) (obtained : Bytes) : Prop where
  stream : ∃ handle share, held.readers.get? reader = some { handle, share } ∧
    held.host.boundary.readers.get? handle = some (.descriptor fd)
  descriptor : held.world.descriptors.get? fd =
    some { target := .file contents, offset := obtained.length, readable := true }

theorem HasRead.mono {held after : Holdings} {contents reader fd : Nat} {obtained : Bytes}
    (has : HasRead held contents reader fd obtained)
    (objects : ∀ object, held.readers.get? reader = some object →
      after.readers.get? reader = some object)
    (sources : ∀ handle, held.host.boundary.readers.get? handle = some (.descriptor fd) →
      after.host.boundary.readers.get? handle = some (.descriptor fd))
    (descriptors : after.world.descriptors.get? fd = held.world.descriptors.get? fd) :
    HasRead after contents reader fd obtained := by
  obtain ⟨handle, share, found, live⟩ := has.stream
  exact ⟨⟨handle, share, objects _ found, sources _ live⟩, descriptors.trans has.descriptor⟩

/-- Where a writer's bytes are while it is in use, and after it has ended. -/
inductive Writes (opened : Holdings) (writer fd contents : Nat) (log : List (Action × Answer))
    (delivered : Bytes) (held : Holdings) : Prop where
  | flowing {pending : Bytes} (buffers : held.Buffers writer fd pending)
      (atEnd : held.world.AtEnd fd contents delivered)
      (same : held.writers.get? writer = opened.writers.get? writer)
      (balanced : delivered ++ pending = acceptedBy writer log)
      (clean : Flushed writer log → pending = [])
  | ended (past : held.WriterOver writer) (all : delivered = acceptedBy writer log)

/-- What another does leaves the writer as it is. -/
theorem Writes.skip {opened held after : Holdings} {writer fd contents : Nat}
    {log : List (Action × Answer)} {delivered : Bytes} {action : Action} {answer : Answer}
    (writes : Writes opened writer fd contents log delivered held)
    (unaccepted : action.accepted writer answer = []) (still : ¬ Flushes writer (action, answer))
    (objects : after.writers = held.writers)
    (targets : after.host.boundary.writers = held.host.boundary.writers)
    (stays : held.world.AtEnd fd contents delivered → after.world.AtEnd fd contents delivered) :
    Writes opened writer fd contents (log ++ [(action, answer)]) delivered after := by
  have accepted : acceptedBy writer (log ++ [(action, answer)]) = acceptedBy writer log := by
    rw [acceptedBy_concat, unaccepted, List.append_nil]
  cases writes with
  | flowing buffers atEnd same balanced clean =>
      refine .flowing ⟨?_⟩ (stays atEnd) ?_ (balanced.trans accepted.symm) fun flushed => ?_
      · rw [objects, targets]
        exact buffers.stream
      · rw [objects]
        exact same
      · exact clean ((flushed_concat.mp flushed).resolve_left still).1
  | ended past all =>
      refine .ended ?_ (all.trans accepted.symm)
      rw [Holdings.WriterOver, objects]
      exact past

/-- A file with these bytes, its writer and its readers, each with a descriptor of its own. -/
structure Visible (opened : Holdings) (path : Path) (writer fd contents : Nat)
    (descriptorOf : Nat → Nat) (log : List (Action × Answer)) (delivered : Bytes)
    (held : Holdings) : Prop where
  sound : Sound held.custody
  contexts : held.contexts = opened.contexts
  stands : held.world.stat path = .ok (.leaf (.file contents))
  file : held.world.files.get? contents = some delivered.toArray
  writes : Writes opened writer fd contents log delivered held
  reads : ∀ reader, Joined log reader →
    HasRead held contents reader (descriptorOf reader) (obtainedBy reader log) ∧
      obtainedBy reader log <+: delivered
  apart : ∀ one two, Joined log one → Joined log two → descriptorOf one = descriptorOf two →
    one = two
  unread : ∀ reader, held.readers.fresh ≤ reader → obtainedBy reader log = []

namespace Visible

variable {opened held after : Holdings} {path : Path} {writer fd contents : Nat}
  {descriptorOf : Nat → Nat} {log : List (Action × Answer)} {delivered : Bytes}

theorem apart_of_writes {world : World} {data obtained : Bytes} {other : Nat}
    (atEnd : world.AtEnd fd contents data)
    (reading : world.descriptors.get? other =
      some { target := .file contents, offset := obtained.length, readable := true }) :
    other ≠ fd := by
  rintro rfl
  have both := Option.some.inj (atEnd.descriptor.symm.trans reading)
  have writable := congrArg Descriptor.writable both
  cases writable

/-- What the writer does to the file leaves the readers where they are. -/
theorem kept_of_stays {world next : World} {data obtained : Bytes} {other : Nat}
    (stays : Boundary.Stays fd world next) (atEnd : world.AtEnd fd contents data)
    (reading : world.descriptors.get? other =
      some { target := .file contents, offset := obtained.length, readable := true }) :
    next.descriptors.get? other = world.descriptors.get? other := by
  apply stays.2.stays (.descriptor other)
  rintro (same | behind)
  · exact apart_of_writes atEnd reading (Spot.descriptor.inj same)
  · rw [World.target?, atEnd.descriptor] at behind
    cases behind

/-- A step that opens nothing and reads nothing, and leaves the readers where they are. -/
theorem extend (visible : Visible opened path writer fd contents descriptorOf log delivered held)
    {action : Action} {answer : Answer} {further : Bytes}
    (done : held.perform action = .done (answer, after)) (aside : Holdings.Aside held after)
    (keeps : held.world.Keeps after.world) (grows : delivered <+: further)
    (file : after.world.files.get? contents = some further.toArray)
    (writes : Writes opened writer fd contents (log ++ [(action, answer)]) further after)
    (closed : ∀ new, action.opening? new = none) (silent : ∀ reader, action.obtained reader answer = [])
    (descriptors : ∀ reader, Joined log reader →
      after.world.descriptors.get? (descriptorOf reader) =
        held.world.descriptors.get? (descriptorOf reader)) :
    Visible opened path writer fd contents descriptorOf (log ++ [(action, answer)]) further after := by
  have joined (reader : Nat) : Joined (log ++ [(action, answer)]) reader ↔ Joined log reader := by
    rw [joined_concat, Action.opens?_of_closed closed answer]
    simp
  have same (reader : Nat) :
      obtainedBy reader (log ++ [(action, answer)]) = obtainedBy reader log := by
    rw [obtainedBy_concat, silent reader, List.append_nil]
  refine ⟨Holdings.sound_perform visible.sound done, aside.contexts.trans visible.contexts, ?_, file,
    writes, ?_, ?_, ?_⟩
  · rw [keeps.stat]
    exact visible.stands
  · intro reader member
    obtain ⟨has, front⟩ := visible.reads reader ((joined reader).mp member)
    rw [same]
    refine ⟨has.mono ?_ ?_ (descriptors reader ((joined reader).mp member)), front.trans grows⟩
    · rw [aside.readers]
      exact fun _ found => found
    · rw [aside.sources]
      exact fun _ live => live
  · intro one two first second
    exact visible.apart one two ((joined one).mp first) ((joined two).mp second)
  · intro reader fresh
    rw [aside.readers] at fresh
    rw [same]
    exact visible.unread reader fresh

/-- What the writer does adds to the file. -/
theorem request (visible : Visible opened path writer fd contents descriptorOf log delivered held)
    {context handle share : Nat} (keeper : opened.contexts.get? context = some { share })
    (own : opened.writers.get? writer = some { handle, share }) {action : WriterAction}
    {answer : Answer} (done : held.perform (.writer writer action) = .done (answer, after)) :
    ∃ further, Visible opened path writer fd contents descriptorOf
      (log ++ [(.writer writer action, answer)]) further after := by
  have takes := Boundary.takes_offerTo fd contents
  have silent (reader : Nat) (answer : Answer) :
      (Action.writer writer action).obtained reader answer = [] := rfl
  cases visible.writes with
  | ended past all =>
      obtain ⟨other, next, performed, uncounted, host, aside, still⟩ :=
        Holdings.perform_over past action
      obtain ⟨rfl, rfl⟩ := Prod.mk.inj (Outcome.done.inj (performed.symm.trans done))
      have world : next.world = held.world := by rw [Holdings.world, host]
      refine ⟨delivered, visible.extend done aside ?_ List.prefix_rfl ?_ (.ended still ?_)
        (fun _ => rfl) (fun reader => silent reader _) fun reader member => ?_⟩
      · rw [world]
        exact World.Keeps.refl _
      · rw [world]
        exact visible.file
      · rw [acceptedBy_concat, Action.accepted_of_not_count uncounted, List.append_nil]
        exact all
      · rw [world]
  | @flowing pending buffers atEnd same balanced clean =>
      -- Each way to end the writer delivers what is pending, and the context keeps the session.
      have finishing (ends : (Action.writer writer action).ending? = some (.writer writer)) :
          ∃ further, Visible opened path writer fd contents descriptorOf
            (log ++ [(.writer writer action, answer)]) further after := by
        obtain ⟨other, final, next, performed, heard, uncounted, reached, stays, finished⟩ :=
          buffers.finish visible.sound takes atEnd ends
        obtain ⟨rfl, rfl⟩ := Prod.mk.inj (Outcome.done.inj (performed.symm.trans done))
        obtain ⟨tree, world⟩ := finished.world
        have mine : held.custody.Holds (.writer writer) share :=
          Custody.holds_of_claim (Holdings.claim?_writer (same.trans own))
        have others : held.custody.Holds (.context context) share := by
          rw [← visible.contexts] at keeper
          exact Custody.holds_of_claim (Holdings.claim?_context keeper)
        have standing := finished.tree (.context context) share Address.noConfusion mine others
        have shut := World.keeps_close final fd
        have kept := stays.2.keeps
        refine ⟨delivered ++ pending, visible.extend done finished.toAside ?_
          (List.prefix_append _ _) ?_ (.ended finished.past ?_) (fun _ => ?_)
          (fun reader => silent reader _) fun reader member => ?_⟩
        · rw [world] at standing ⊢
          exact ⟨standing.trans kept.tree, shut.workingDirectory.trans kept.workingDirectory,
            shut.homeVariable.trans kept.homeVariable,
            shut.temporaryVariable.trans kept.temporaryVariable,
            shut.accountHome.trans kept.accountHome, shut.drawn.trans kept.drawn⟩
        · rw [world]
          show (final.close fd).files.get? contents = _
          rw [World.files_close]
          exact reached.file
        · rw [acceptedBy_concat, Action.accepted_of_not_count uncounted, List.append_nil]
          exact balanced
        · rfl
        · have reading := (visible.reads reader member).1.descriptor
          rw [world]
          show (final.close fd).descriptors.get? _ = _
          rw [← kept_of_stays stays atEnd reading]
          have aside : Spot.descriptor (descriptorOf reader) ∉ World.unfiled (final.behind fd) := by
            rintro ⟨same | behind, -⟩
            · exact apart_of_writes atEnd reading (Spot.descriptor.inj same)
            · rw [World.target?, reached.descriptor] at behind
              cases behind
          exact (World.within_close final fd).stays (.descriptor (descriptorOf reader)) aside
      cases action with
      | write data =>
          obtain ⟨further, buffered, next, performed, still, taken, whole, grows, stays, aside, kept⟩ :=
            buffers.write takes atEnd data
          obtain ⟨rfl, rfl⟩ := Prod.mk.inj (Outcome.done.inj (performed.symm.trans done))
          refine ⟨further, visible.extend done aside stays.2.keeps grows taken.file ?_
            (fun _ => rfl) (fun reader => silent reader _) fun reader member => ?_⟩
          · refine .flowing still taken ?_ ?_ ?_
            · rw [kept]
              exact same
            · rw [acceptedBy_concat, Action.accepted_write, ← balanced, whole]
            · intro flushed
              rcases flushed_concat.mp flushed with (equal | ends) | ⟨-, quiet⟩
              · cases equal
              · rw [Action.ends?_of_quiet rfl] at ends
                cases ends
              · exact absurd rfl (quiet data)
          · exact kept_of_stays stays atEnd (visible.reads reader member).1.descriptor
      | flush =>
          obtain ⟨next, performed, still, taken, stays, aside, kept⟩ := buffers.flush takes atEnd
          obtain ⟨rfl, rfl⟩ := Prod.mk.inj (Outcome.done.inj (performed.symm.trans done))
          refine ⟨delivered ++ pending, visible.extend done aside stays.2.keeps
            (List.prefix_append _ _) taken.file ?_ (fun _ => rfl) (fun reader => silent reader _)
            fun reader member => ?_⟩
          · refine .flowing still taken ?_ ?_ fun _ => rfl
            · rw [kept]
              exact same
            · have nothing : (Action.writer writer .flush).accepted writer .nothing = [] := rfl
              rw [acceptedBy_concat, nothing, List.append_nil, List.append_nil]
              exact balanced
          · exact kept_of_stays stays atEnd (visible.reads reader member).1.descriptor
      | close => exact finishing rfl
      | drop => exact finishing rfl
      | harvest => exact finishing rfl

/-- An attempt to open a reader on the path makes one, unless its context cannot. -/
theorem openReader_cases
    (visible : Visible opened path writer fd contents descriptorOf log delivered held)
    (clean : 0 ∉ path) (context : Nat) :
    (∃ answer, held.perform (.context context (.openReader path)) = .done (answer, held) ∧
      ∀ new, answer ≠ .made new) ∨
    ∃ share, held.perform (.context context (.openReader path)) =
      .done (.made held.readers.fresh, { held with
        host := { held.host.hold share with
          boundary := { held.host.boundary with
            world := (held.world.addDescriptor { target := .file contents, readable := true }).2
            readers := held.host.boundary.readers.alloc
              (.descriptor held.world.descriptors.fresh) } }.note
                (.acquired (.reader held.host.boundary.readers.fresh) share)
        readers := held.readers.alloc { handle := held.host.boundary.readers.fresh, share } }) := by
  obtain ⟨text, given, same⟩ := pathArgument_of_clean clean
  cases found : held.contexts.get? context with
  | none =>
      refine Or.inl ⟨.absent, ?_, fun _ => Answer.noConfusion⟩
      simp only [Holdings.perform, found]
  | some object =>
      obtain ⟨share, released⟩ := object
      cases released with
      | true =>
          refine Or.inl ⟨.failed (.released "Context"), ?_, fun _ => Answer.noConfusion⟩
          simp only [Holdings.perform, found, Holdings.performOnContext, Reader.ofPath, given,
            Context.holding, if_true, Outcome.done_bind, Holdings.keepReader]
      | false =>
          have attempt : (Boundary.Source.file text).attempt held.host.boundary =
              (.ok held.host.boundary.readers.fresh, { held.host.boundary with
                world := (held.world.addDescriptor { target := .file contents, readable := true }).2
                readers := held.host.boundary.readers.alloc
                  (.descriptor held.world.descriptors.fresh) }) := by
            simp only [Boundary.Source.attempt, Boundary.tryOpenReader, same,
              World.openForReading, visible.stands, World.targetOf, World.addDescriptor,
              Boundary.addReader]
          have made := Holdings.perform_source_made found attempt
          simp only [Boundary.Source.action, same] at made
          exact Or.inr ⟨share, made⟩

/-- A reader that is opened starts at the front, with a descriptor of its own. -/
theorem openReader
    (visible : Visible opened path writer fd contents descriptorOf log delivered held)
    (clean : 0 ∉ path) {context : Nat} {answer : Answer}
    (done : held.perform (.context context (.openReader path)) = .done (answer, after)) :
    ∃ descriptorOf, Visible opened path writer fd contents descriptorOf
      (log ++ [(.context context (.openReader path), answer)]) delivered after := by
  have quiet : (Action.context context (.openReader path)).ending? = none := rfl
  have same (reader : Nat) :
      obtainedBy reader (log ++ [(.context context (.openReader path), answer)]) =
        obtainedBy reader log := by
    rw [obtainedBy_concat]
    exact List.append_nil _
  have sound := Holdings.sound_perform visible.sound done
  rcases visible.openReader_cases clean context with ⟨refusal, performed, unmade⟩ | ⟨share, performed⟩
  · obtain ⟨rfl, rfl⟩ := Prod.mk.inj (Outcome.done.inj (performed.symm.trans done))
    have joined (reader : Nat) :
        Joined (log ++ [(.context context (.openReader path), refusal)]) reader ↔
          Joined log reader := by
      have unopened : (Action.context context (.openReader path)).opens? refusal = none := by
        cases refusal <;> first | rfl | exact absurd rfl (unmade _)
      rw [joined_concat, unopened]
      simp
    refine ⟨descriptorOf, sound, visible.contexts, visible.stands, visible.file, ?_, ?_, ?_, ?_⟩
    · exact visible.writes.skip rfl (not_flushes Action.noConfusion quiet _) rfl rfl id
    · intro reader member
      rw [same]
      exact visible.reads reader ((joined reader).mp member)
    · intro one two first second
      exact visible.apart one two ((joined one).mp first) ((joined two).mp second)
    · intro reader fresh
      rw [same]
      exact visible.unread reader fresh
  · obtain ⟨rfl, rfl⟩ := Prod.mk.inj (Outcome.done.inj (performed.symm.trans done))
    have joined (reader : Nat) :
        Joined (log ++ [(.context context (.openReader path), .made held.readers.fresh)]) reader ↔
          Joined log reader ∨ reader = held.readers.fresh := by
      have opens : (Action.context context (.openReader path)).opens? (.made held.readers.fresh) =
          some (context, .reader held.readers.fresh) := rfl
      rw [joined_concat, opens]
      simp [eq_comm]
    have old (reader : Nat) (member : Joined log reader) :
        reader ≠ held.readers.fresh ∧ descriptorOf reader < held.world.descriptors.fresh := by
      obtain ⟨⟨handle, other, found, -⟩, reading⟩ := (visible.reads reader member).1
      exact ⟨Nat.ne_of_lt (Arena.lt_fresh_of_get? found), Arena.lt_fresh_of_get? reading⟩
    refine ⟨Function.update descriptorOf held.readers.fresh held.world.descriptors.fresh, sound,
      visible.contexts, ?_, visible.file, ?_, ?_, ?_, ?_⟩
    · have keeps : held.world.Keeps
          (held.world.addDescriptor { target := .file contents, readable := true }).2 :=
        ⟨rfl, rfl, rfl, rfl, rfl, rfl⟩
      exact (keeps.stat path).trans visible.stands
    · refine visible.writes.skip rfl (not_flushes Action.noConfusion quiet _) rfl rfl fun atEnd => ?_
      exact ⟨Arena.get?_alloc_of_get? _ atEnd.descriptor, atEnd.file⟩
    · intro reader member
      rw [same]
      rcases (joined reader).mp member with before | rfl
      · obtain ⟨has, front⟩ := visible.reads reader before
        rw [Function.update_of_ne (old reader before).1]
        refine ⟨has.mono (fun _ found => Arena.get?_alloc_of_get? _ found)
          (fun _ live => Arena.get?_alloc_of_get? _ live) ?_, front⟩
        exact (Arena.get?_alloc_of_get? _ has.descriptor).trans has.descriptor.symm
      · rw [Function.update_self, visible.unread _ (Nat.le_refl _)]
        refine ⟨⟨⟨_, share, Arena.get?_alloc_self _ _, Arena.get?_alloc_self _ _⟩,
          Arena.get?_alloc_self _ _⟩, List.nil_prefix⟩
    · intro one two first second equal
      rcases (joined one).mp first with before | rfl
      · rcases (joined two).mp second with also | rfl
        · rw [Function.update_of_ne (old one before).1, Function.update_of_ne (old two also).1] at equal
          exact visible.apart one two before also equal
        · rw [Function.update_of_ne (old one before).1, Function.update_self] at equal
          exact absurd equal (Nat.ne_of_lt (old one before).2)
      · rcases (joined two).mp second with also | rfl
        · rw [Function.update_self, Function.update_of_ne (old two also).1] at equal
          exact absurd equal.symm (Nat.ne_of_lt (old two also).2)
        · rfl
    · intro reader fresh
      rw [Arena.fresh_alloc] at fresh
      rw [same]
      exact visible.unread reader (by omega)

/-- A read continues with what has reached the file. -/
theorem read (visible : Visible opened path writer fd contents descriptorOf log delivered held)
    {reader : Nat} (joined : Joined log reader) (count : Nat) :
    ∃ after, held.perform (.reader reader (.read count)) =
        .done (.bytes ((delivered.drop (obtainedBy reader log).length).take count), after) ∧
      Visible opened path writer fd contents descriptorOf (log ++ [(.reader reader (.read count),
        .bytes ((delivered.drop (obtainedBy reader log).length).take count))]) delivered after := by
  obtain ⟨has, front⟩ := visible.reads reader joined
  obtain ⟨handle, share, found, live⟩ := has.stream
  have bytes : held.world.fileBytes contents = delivered := by
    rw [World.fileBytes, visible.file]
  have reads := World.read_file has.descriptor count
  rw [bytes] at reads
  have performed := Holdings.perform_read found rfl live count
  simp only [Boundary.Reader.read, reads] at performed
  refine ⟨_, performed, ?_⟩
  generalize data : (delivered.drop (obtainedBy reader log).length).take count = part at *
  have piece : obtainedBy reader log ++ part <+: delivered := by
    obtain ⟨rest, rfl⟩ := front
    rw [List.drop_left] at data
    subst data
    exact (List.prefix_append_right_inj _).mpr (List.take_prefix _ _)
  have members (other : Nat) :
      Joined (log ++ [(.reader reader (.read count), .bytes part)]) other ↔ Joined log other := by
    rw [joined_concat, Action.opens?_of_closed (fun _ => rfl)]
    simp
  have others {other : Nat} (different : other ≠ reader) :
      obtainedBy other (log ++ [(.reader reader (.read count), .bytes part)]) =
        obtainedBy other log := by
    rw [obtainedBy_concat, Action.obtained, if_neg different.symm, List.append_nil]
  have mine : obtainedBy reader (log ++ [(.reader reader (.read count), .bytes part)]) =
      obtainedBy reader log ++ part := by
    rw [obtainedBy_concat, Action.obtained, if_pos rfl]
  refine ⟨Holdings.sound_perform visible.sound performed, visible.contexts, ?_, visible.file, ?_, ?_,
    ?_, ?_⟩
  · have keeps : held.world.Keeps (held.world.setOffset (descriptorOf reader)
        { target := .file contents, offset := (obtainedBy reader log).length, readable := true }
        ((obtainedBy reader log).length + part.length)) := ⟨rfl, rfl, rfl, rfl, rfl, rfl⟩
    exact (keeps.stat path).trans visible.stands
  · refine visible.writes.skip rfl (not_flushes Action.noConfusion rfl _) rfl rfl fun atEnd => ?_
    have aside := apart_of_writes atEnd has.descriptor
    exact ⟨(Arena.get?_set_ne _ _ aside.symm).trans atEnd.descriptor, visible.file⟩
  · intro other member
    obtain ⟨theirs, ahead⟩ := visible.reads other ((members other).mp member)
    by_cases same : other = reader
    · subst same
      rw [mine]
      refine ⟨⟨⟨handle, share, found, Arena.get?_set_self _ live⟩, ?_⟩, piece⟩
      rw [List.length_append]
      exact Arena.get?_set_self _ has.descriptor
    · rw [others same]
      have apart : descriptorOf other ≠ descriptorOf reader := fun equal =>
        same (visible.apart _ _ ((members other).mp member) joined equal)
      obtain ⟨handle', share', found', live'⟩ := theirs.stream
      refine ⟨⟨⟨handle', share', found', ?_⟩, ?_⟩, ahead⟩
      · by_cases equal : handle' = handle
        · subst equal
          exact absurd (Option.some.inj (live'.symm.trans live))
            (fun both => apart (Boundary.Reader.descriptor.inj both))
        · exact (Arena.get?_set_ne _ _ equal).trans live'
      · exact (Arena.get?_set_ne _ _ apart).trans theirs.descriptor
  · intro one two first second
    exact visible.apart one two ((members one).mp first) ((members two).mp second)
  · intro other fresh
    have different : other ≠ reader :=
      fun equal => absurd (Arena.lt_fresh_of_get? found) (Nat.not_lt.mpr (equal ▸ fresh))
    rw [others different]
    exact visible.unread other fresh

/-- A reader that goes on reading until nothing is left has all that reached the file. -/
theorem readAll (visible : Visible opened path writer fd contents descriptorOf log delivered held)
    {reader : Nat} (joined : Joined log reader) {sizes : List Nat}
    (positive : ∀ size ∈ sizes, 0 < size) :
    ∃ answers after,
      held.run (sizes.map fun size => .reader reader (.read size)) = .done (answers, after) ∧
      let all := log ++ (sizes.map fun size => Action.reader reader (.read size)).zip answers
      Visible opened path writer fd contents descriptorOf all delivered after ∧
      obtainedBy reader log <+: obtainedBy reader all ∧ obtainedBy reader all <+: delivered ∧
      (.bytes [] ∈ answers → obtainedBy reader all = delivered) ∧
      (delivered.length < (obtainedBy reader log).length + sizes.length → .bytes [] ∈ answers) := by
  induction sizes generalizing log held with
  | nil =>
      refine ⟨[], held, rfl, ?_⟩
      rw [List.map_nil, List.zip_nil_left, List.append_nil]
      have upTo := (visible.reads reader joined).2
      have within := upTo.length_le
      exact ⟨visible, List.prefix_rfl, upTo, fun inside => (nomatch inside), fun short => by
        simp only [List.length_nil] at short
        omega⟩
  | cons size sizes ih =>
      obtain ⟨middle, first, next⟩ := visible.read joined size
      generalize part : (delivered.drop (obtainedBy reader log).length).take size = data at *
      have member := (joined_concat log (.reader reader (.read size)) (.bytes data) reader).mpr
        (Or.inl joined)
      have further := obtainedBy_concat reader log (.reader reader (.read size)) (.bytes data)
      rw [Action.obtained, if_pos rfl] at further
      obtain ⟨answers, after, rest, final, grown, upTo, done, enough⟩ :=
        ih next member fun size inside => positive size (List.mem_cons_of_mem _ inside)
      simp only [List.append_assoc, List.singleton_append] at final grown upTo done
      rw [further] at grown enough
      refine ⟨.bytes data :: answers, after, ?_, final, ?_, upTo, ?_, ?_⟩
      · simp only [List.map_cons, Holdings.run, first, rest, Outcome.done_bind]
      · exact (List.prefix_append _ _).trans grown
      · intro inside
        rcases List.mem_cons.mp inside with empty | later
        · -- A read of nothing was at the end already, and there is nothing beyond it.
          obtain rfl := Answer.bytes.inj empty
          have least := positive size List.mem_cons_self
          have nothing := congrArg List.length part
          simp only [List.length_take, List.length_drop, List.length_nil] at nothing
          have more := grown.length_le
          rw [List.append_nil] at more
          exact upTo.eq_of_length_le (by omega)
        · exact done later
      · intro short
        by_cases empty : data = []
        · rw [empty]
          exact List.mem_cons_self
        · refine List.mem_cons_of_mem _ (enough ?_)
          have positive := List.length_pos_iff.mpr empty
          simp only [List.length_append, List.length_cons] at short ⊢
          omega

/-- What takes part performs, and the file stays visible. -/
theorem step (visible : Visible opened path writer fd contents descriptorOf log delivered held)
    (clean : 0 ∉ path) {context handle share : Nat}
    (keeper : opened.contexts.get? context = some { share })
    (own : opened.writers.get? writer = some { handle, share }) {action : Action} {answer : Answer}
    (uses : Uses writer path log action) (done : held.perform action = .done (answer, after)) :
    ∃ descriptorOf delivered, Visible opened path writer fd contents descriptorOf
      (log ++ [(action, answer)]) delivered after := by
  rcases uses with ⟨request, rfl⟩ | ⟨other, rfl⟩ | ⟨reader, count, rfl, joined⟩
  · exact ⟨descriptorOf, visible.request keeper own done⟩
  · obtain ⟨descriptorOf, next⟩ := visible.openReader clean done
    exact ⟨descriptorOf, delivered, next⟩
  · obtain ⟨_, performed, next⟩ := visible.read joined count
    obtain ⟨rfl, rfl⟩ := Prod.mk.inj (Outcome.done.inj (performed.symm.trans done))
    exact ⟨descriptorOf, delivered, next⟩

/-- What a reader has obtained, and will obtain. -/
theorem follows (visible : Visible opened path writer fd contents descriptorOf log delivered held)
    {reader : Nat} (joined : Joined log reader) :
    obtainedBy reader log <+: delivered ∧
      (∀ count, ∃ data next, held.perform (.reader reader (.read count)) = .done (.bytes data, next) ∧
        data.length = min count (delivered.length - (obtainedBy reader log).length) ∧
        obtainedBy reader log ++ data <+: delivered) := by
  have front := (visible.reads reader joined).2
  refine ⟨front, fun count => ?_⟩
  obtain ⟨next, performed, after⟩ := visible.read joined count
  refine ⟨_, next, performed, ?_, ?_⟩
  · rw [List.length_take, List.length_drop]
  · have ahead := (after.reads reader ((joined_concat _ _ _ _).mpr (Or.inl joined))).2
    rw [obtainedBy_concat, Action.obtained, if_pos rfl] at ahead
    exact ahead

/-- After a flush, and after the end, all that was accepted has reached the file. -/
theorem delivered_of_flushed
    (visible : Visible opened path writer fd contents descriptorOf log delivered held)
    (flushed : Flushed writer log) : delivered = acceptedBy writer log := by
  cases visible.writes with
  | flowing buffers atEnd same balanced clean =>
      rw [← balanced, clean flushed, List.append_nil]
  | ended past all => exact all

theorem readable (visible : Visible opened path writer fd contents descriptorOf log delivered held) :
    held.world.contents? path = some delivered := by
  rw [World.contents?, visible.stands]
  show some (World.fileBytes held.world contents) = _
  rw [World.fileBytes, visible.file]

theorem front (visible : Visible opened path writer fd contents descriptorOf log delivered held) :
    delivered <+: acceptedBy writer log := by
  cases visible.writes with
  | flowing buffers atEnd same balanced clean =>
      rw [← balanced]
      exact List.prefix_append _ _
  | ended past all =>
      rw [all]

end Visible

theorem Sharing.visible {writer fd contents context handle share : Nat} {path : Path}
    {opened held : Holdings} {log : List (Action × Answer)}
    (sharing : Sharing writer path opened log held) (clean : 0 ∉ path)
    (keeper : opened.contexts.get? context = some { share })
    (own : opened.writers.get? writer = some { handle, share })
    (first : Visible opened path writer fd contents (fun _ => 0) [] [] opened) :
    ∃ descriptorOf delivered,
      Visible opened path writer fd contents descriptorOf log delivered held := by
  induction sharing with
  | opened => exact ⟨_, _, first⟩
  | act earlier uses done ih =>
      obtain ⟨descriptorOf, delivered, visible⟩ := ih
      exact visible.step clean keeper own uses done

/-- Readers of a file that is being written see a growing front part of it, which becomes all that
was accepted. -/
theorem readers_follow (world : World) (earlier : List Action) :
    ∃ answers held, (Holdings.start world).run earlier = .done (answers, held) ∧
    ∀ context object, held.contexts.get? context = some object → object.released = false →
    ∀ now path, World.Creatable now path →
    ∃ writer opened, (held.inWorld now).perform (.context context (.openWriter path)) =
      .done (.made writer, opened) ∧
    ∀ log after, Sharing writer path opened log after →
      (∀ action, Uses writer path log action →
        ∃ answer next, after.perform action = .done (answer, next)) ∧
      ∃ delivered, after.world.contents? path = some delivered ∧
        delivered <+: acceptedBy writer log ∧
        (Flushed writer log → delivered = acceptedBy writer log) ∧
        ∀ reader, Joined log reader →
          obtainedBy reader log <+: delivered ∧
          (∀ count, ∃ data next,
            after.perform (.reader reader (.read count)) = .done (.bytes data, next) ∧
            data.length = min count (delivered.length - (obtainedBy reader log).length) ∧
            obtainedBy reader log ++ data <+: delivered) ∧
          (Flushed writer log → ∀ sizes : List Nat, (∀ size ∈ sizes, 0 < size) →
            ∃ answers next,
              after.run (sizes.map fun size => .reader reader (.read size)) =
                .done (answers, next) ∧
              let all := log ++ (sizes.map fun size => Action.reader reader (.read size)).zip answers
              (.bytes [] ∈ answers → obtainedBy reader all = acceptedBy writer log) ∧
              ((acceptedBy writer log).length < (obtainedBy reader log).length + sizes.length →
                .bytes [] ∈ answers)) := by
  obtain ⟨answers, held, ran, sound⟩ := Holdings.run_sound world earlier
  refine ⟨answers, held, ran, ?_⟩
  intro context object found unreleased now path creatable
  have bare : (held.inWorld now).contexts.get? context = some { share := object.share } := by
    obtain ⟨share, _⟩ := object
    cases unreleased
    exact found
  obtain ⟨text, given, rfl⟩ := pathArgument_of_clean creatable.zero_notMem
  obtain ⟨next, contents, made, stands, atEnd⟩ := World.openForWriting_of_creatable creatable
  have fallible : Boundary.Destination.file text ≠ .growing := Boundary.Destination.noConfusion
  have attempt : (Boundary.Destination.file text).attempt (held.inWorld now).host.boundary =
      (.ok held.host.boundary.writers.fresh, { held.host.boundary with
        world := next
        writers := held.host.boundary.writers.alloc (.buffered now.descriptors.fresh []) }) := by
    show Boundary.tryOpenWriter _ text.path = _
    have there : (held.inWorld now).host.boundary.world.openForWriting text.path .truncate =
        .ok (now.descriptors.fresh, next) := made
    simp only [Boundary.tryOpenWriter, there]
    rfl
  obtain ⟨writer, opened, performed, buffers, own, same, contexts, -⟩ :=
    Holdings.exists_buffers bare fallible attempt (Arena.get?_alloc_self _ _)
  have start := Holdings.sound_perform (Holdings.sound_inWorld sound now) performed
  have arrived : opened.world = next := by
    rw [Holdings.world, same]
  have nobody (reader : Nat) : ¬ Joined [] reader := by
    rintro ⟨context, opened⟩
    exact not_openedWith_nil context _ opened
  have first : Visible opened text.path writer now.descriptors.fresh contents (fun _ => 0) [] []
      opened := by
    refine ⟨start, rfl, ?_, ?_, .flowing buffers ?_ rfl rfl fun _ => rfl, ?_, ?_, fun _ _ => rfl⟩
    · rw [arrived]
      exact stands
    · rw [arrived]
      exact atEnd.file
    · rw [arrived]
      exact atEnd
    · exact fun reader joined => absurd joined (nobody reader)
    · exact fun one _ joined => absurd joined (nobody one)
  have keeper : opened.contexts.get? context = some { share := object.share } := by
    rw [contexts]
    exact bare
  refine ⟨writer, opened, performed, ?_⟩
  intro log after sharing
  obtain ⟨descriptorOf, delivered, visible⟩ :=
    sharing.visible creatable.zero_notMem keeper own first
  refine ⟨?_, delivered, visible.readable, visible.front, visible.delivered_of_flushed, ?_⟩
  · intro action _
    obtain ⟨answer, next, done, -⟩ := Holdings.perform_spec visible.sound action
    exact ⟨answer, next, done⟩
  · intro reader joined
    obtain ⟨front, each⟩ := visible.follows joined
    refine ⟨front, each, ?_⟩
    intro flushed sizes positive
    obtain ⟨answers, last, ran, -, -, -, complete, enough⟩ := visible.readAll joined positive
    rw [visible.delivered_of_flushed flushed] at complete enough
    exact ⟨answers, last, ran, complete, enough⟩

/-- A new file holds the front of what was accepted. -/
theorem readers_follow_new_file :
    ∃ held, (Holdings.start .empty).run [.build { home := some [Path.slash] }] =
        .done ([.made 0], held) ∧
      ∃ writer opened, (held.inWorld .empty).perform (.context 0 (.openWriter (Text.encode "f"))) =
          .done (.made writer, opened) ∧
      ∃ answer after, opened.perform (.writer writer (.write [1, 2])) = .done (answer, after) ∧
        ∃ delivered, after.world.contents? (Text.encode "f") = some delivered ∧
          delivered <+: acceptedBy writer [(.writer writer (.write [1, 2]), answer)] := by
  obtain ⟨held, ran, found, -⟩ := Holdings.run_build_root .empty
  obtain ⟨_, _, also, follow⟩ := readers_follow .empty [.build { home := some [Path.slash] }]
  cases ran.symm.trans also
  have creatable : World.empty.Creatable (Text.encode "f") :=
    ⟨[], .empty, Text.encode "f", rfl, rfl, by decide, nofun⟩
  obtain ⟨writer, opened, made, sharing⟩ := follow 0 _ found rfl .empty _ creatable
  have uses : Uses writer (Text.encode "f") [] (.writer writer (.write [1, 2])) := Or.inl ⟨_, rfl⟩
  obtain ⟨answer, after, done⟩ := (sharing [] opened .opened).1 _ uses
  obtain ⟨-, delivered, stands, front, -⟩ := sharing _ _ (.act .opened uses done)
  exact ⟨held, ran, writer, opened, made, answer, after, done, delivered, stands, front⟩

end Host

end SessionStreams
