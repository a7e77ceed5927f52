import SessionStreams.Proofs.Failures
import SessionStreams.Proofs.Reach

set_option autoImplicit false

/- What an action on an object has to do with everything else that is held. Such an action changes
nothing but its object, the stream behind it and the parts of the world that the stream reaches,
besides the session that it may end (`acted_perform`); and it answers and does the same wherever
these are the same (`agree_perform`). -/

namespace SessionStreams

namespace Boundary.Writer

theorem within_serve (writer : Writer) (request : Request) (world : World) :
    World.Within (writer.spots world) world (writer.serve request world).2.2 := by
  cases request with
  | write data => exact writer.within_write data world
  | flush => exact writer.within_flush world

theorem alike_serve {writer : Writer} {parts : Set Spot} {one two : World}
    (alike : World.Alike parts one two) (covered : writer.spots one ⊆ parts) (request : Request) :
    (writer.serve request one).1 = (writer.serve request two).1 ∧
      (writer.serve request one).2.1 = (writer.serve request two).2.1 ∧
      World.Alike parts (writer.serve request one).2.2 (writer.serve request two).2.2 := by
  cases request with
  | write data => exact alike_write alike covered data
  | flush =>
      obtain ⟨answer, target, further⟩ := alike_flush alike covered
      refine ⟨?_, target, further⟩
      simp only [serve, answer]

end Boundary.Writer

namespace Host

open Boundary (Outcome Request)

/-- An action on an object that makes no new one. -/
structure Action.On (action : Action) (address : Address) : Prop where
  address : action.address? = some address
  closed : ∀ new, action.opening? new = none

/-- The object of an action is the one that the action may end. -/
theorem Action.On.ending {action : Action} {address : Address} (on : action.On address) :
    action.ending? = none ∨ action.ending? = some address := by
  obtain ⟨same, -⟩ := on
  cases action with
  | build config => exact Or.inl rfl
  | context id action =>
      obtain rfl := Option.some.inj same
      cases action <;> first | exact Or.inl rfl | exact Or.inr rfl
  | reader id action =>
      obtain rfl := Option.some.inj same
      cases action <;> first | exact Or.inl rfl | exact Or.inr rfl
  | writer id action =>
      obtain rfl := Option.some.inj same
      cases action <;> first | exact Or.inl rfl | exact Or.inr rfl

namespace Holdings

/-- The share that an action gives up. -/
def gives (held : Holdings) (action : Action) : Option Nat :=
  (action.ending?.bind held.custody.claim?).map (·.share)

/-- What is left when a share was given up. -/
def remaining (held : Holdings) : Option Nat → Holdings
  | none => held
  | some share => { held with host := held.host.parted share }

theorem confined_remaining (held : Holdings) (share : Option Nat) :
    Confined ∅ held (held.remaining share) := by
  cases share with
  | none => exact Confined.refl _ _
  | some share => exact confined_parted ∅ held share

theorem sessions_remaining_congr {one two : Holdings} (same : one.host.sessions = two.host.sessions)
    (directory : one.world.workingDirectory = two.world.workingDirectory) (share : Option Nat) :
    (one.remaining share).host.sessions = (two.remaining share).host.sessions := by
  cases share with
  | none => exact same
  | some share => exact sessions_parted_congr same directory share

/-- An action on an object was confined to it, besides the share that it gave up. -/
structure Acted (held : Holdings) (action : Action) (address : Address) (after : Holdings) :
    Prop where
  confined : Confined (held.changes address) held after
  sessions : after.host.sessions = (held.remaining (held.gives action)).host.sessions

end Holdings

/-- What a context tells of its session, if that is what is asked. -/
def ContextAction.told? (action : ContextAction) (record : Engine.Session) : Option Answer :=
  match action with
  | .home => some (.path record.home)
  | .policy => some (.policy record.policy)
  | .ephemeral => some (.flag record.ephemeral)
  | _ => none

theorem ContextAction.asks_or_ends {action : ContextAction} {id : Nat} {address : Address}
    (on : (Action.context id action).On address) :
    ((Action.context id action).ending? = none ∧
      ∀ record, ∃ answer, action.told? record = some answer) ∨
        (Action.context id action).ending? = some (.context id) := by
  cases action <;>
    first
    | exact Or.inl ⟨rfl, fun _ => ⟨_, rfl⟩⟩
    | exact Or.inr rfl
    | exact nomatch on.closed 0

namespace Holdings

variable {held : Holdings} {id : Nat}

theorem perform_ask {context : Context} {state : Share} {record : Engine.Session}
    (found : held.contexts.get? id = some context) (unreleased : context.released = false)
    (shared : held.host.shares.get? context.share = some state)
    (live : held.host.boundary.contexts.get? state.session = some record)
    (clean : 0 ∉ record.home) {action : ContextAction} {answer : Answer}
    (told : action.told? record = some answer) :
    held.perform (.context id action) = .done (answer,
      { held with host := held.host.note (.used (.context state.session)) }) := by
  cases action with
  | home =>
      cases told
      simp only [perform, found, performOnContext, Context.home_of_live unreleased shared live clean,
        Outcome.done_bind]
      rfl
  | policy =>
      cases told
      simp only [perform, found, performOnContext, Context.policy_of_live unreleased shared live,
        Outcome.done_bind]
      rfl
  | ephemeral =>
      cases told
      simp only [perform, found, performOnContext, Context.ephemeral_of_live unreleased shared live,
        Outcome.done_bind]
      rfl
  | _ => cases told

theorem perform_ask_of_released {context : Context} (found : held.contexts.get? id = some context)
    (released : context.released = true) {action : ContextAction} {record : Engine.Session}
    {answer : Answer} (told : action.told? record = some answer) :
    held.perform (.context id action) = .done (.failed (.released "Context"), held) := by
  cases action with
  | home => simp only [perform, found, performOnContext, Context.home,
      Context.ask_of_released released, Outcome.done_bind]; rfl
  | policy => simp only [perform, found, performOnContext, Context.policy,
      Context.ask_of_released released, Outcome.done_bind]; rfl
  | ephemeral => simp only [perform, found, performOnContext, Context.ephemeral,
      Context.ask_of_released released, Outcome.done_bind]; rfl
  | _ => cases told

section

variable {after : Holdings} {address : Address}

theorem object_mem_changes (held : Holdings) (address : Address) :
    .object address ∈ held.changes address :=
  ⟨Or.inl rfl, fun _ _ _ => Part.noConfusion⟩

theorem handle_mem_changes {handle : Handle} (owned : held.custody.Owns address handle) :
    .handle handle ∈ held.changes address :=
  ⟨Or.inr (Or.inl ⟨handle, owned, rfl⟩), fun _ _ _ => Part.noConfusion⟩

theorem spot_mem_changes {spot : Spot} (inside : spot ∈ held.spots address)
    (kept : ∀ id contents, address = .reader id → spot ≠ .file contents) :
    .spot spot ∈ held.changes address :=
  ⟨Or.inr (Or.inr ⟨spot, inside, rfl⟩), fun id contents reads same =>
    kept id contents reads (Part.spot.inj same)⟩

theorem owns_reader {reader : Reader} (found : held.readers.get? id = some reader)
    (opened : reader.closed = false) :
    held.custody.Owns (.reader id) (.reader reader.handle) :=
  Custody.owns_of_claim ((claim?_reader found).trans (Reader.claim?_of_open opened))

theorem owns_writer {writer : Writer} (found : held.writers.get? id = some writer)
    (opened : writer.closed = false) :
    held.custody.Owns (.writer id) (.writer writer.handle) :=
  Custody.owns_of_claim ((claim?_writer found).trans (Writer.claim?_of_open opened))

theorem gives_of_vacant {action : Action} (on : action.On address)
    (vacant : held.custody.claim? address = none) : held.gives action = none := by
  rcases on.ending with quiet | ends
  · rw [gives, quiet]
    rfl
  · rw [gives, ends, Option.bind_some, vacant]
    rfl

theorem gives_of_quiet {action : Action} (quiet : action.ending? = none) :
    held.gives action = none := by
  rw [gives, quiet]
  rfl

theorem gives_of_ends {action : Action} (ends : action.ending? = some address) {claim : Claim}
    (found : held.custody.claim? address = some claim) : held.gives action = some claim.share := by
  rw [gives, ends, Option.bind_some, found]
  rfl

/-- An action that gives up no share leaves the sessions alone. -/
theorem Acted.of_kept {action : Action} (kept : held.gives action = none)
    (confined : Confined (held.changes address) held after)
    (same : after.host.sessions = held.host.sessions) : held.Acted action address after :=
  ⟨confined, by rw [kept]; exact same⟩

theorem acted_context (sound : Sound held.custody) {action : ContextAction} {answer : Answer}
    (on : (Action.context id action).On (.context id))
    (done : held.perform (.context id action) = .done (answer, after)) :
    held.Acted (.context id action) (.context id) after := by
  have mine := object_mem_changes held (.context id)
  have rest (ends : (Action.context id action).ending? = some (.context id)) (context : Context) :
      Confined (held.changes (.context id)) held
        { held with contexts := action.rest held.contexts id context } := by
    cases action <;> first | (cases ends; done) | exact confined_put held mine _
  cases found : held.contexts.get? id with
  | none =>
      simp only [perform, found] at done
      cases done
      refine .of_kept (gives_of_vacant on ?_) (Confined.refl _ _) rfl
      simp only [custody, claim?, found, Option.bind_none]
  | some context =>
      have claim := claim?_context found
      cases released : context.released with
      | true =>
          rw [Context.claim?, released] at claim
          have kept := gives_of_vacant on claim
          rcases ContextAction.asks_or_ends on with ⟨quiet, asks⟩ | ends
          · obtain ⟨told, asked⟩ := asks ⟨[], default, false, none⟩
            rw [perform_ask_of_released found released asked] at done
            cases done
            exact .of_kept kept (Confined.refl _ _) rfl
          · rw [perform_endContext_of_released ends found released] at done
            cases done
            exact .of_kept kept (rest ends context) rfl
      | false =>
          rw [Context.claim?, released] at claim
          rcases ContextAction.asks_or_ends on with ⟨quiet, asks⟩ | ends
          · obtain ⟨state, record, shared, live, clean⟩ := exists_session found sound released
            obtain ⟨told, asked⟩ := asks record
            rw [perform_ask found released shared live clean asked] at done
            cases done
            exact .of_kept (gives_of_quiet quiet) (confined_note _ held _) rfl
          · rw [perform_endContext sound ends found released] at done
            cases done
            refine ⟨(rest ends context).trans (confined_parted _ _ context.share), ?_⟩
            rw [gives_of_ends ends claim]
            rfl

theorem spots_reader {reader : Reader} {source : Boundary.Reader}
    (found : held.readers.get? id = some reader) (opened : reader.closed = false)
    (live : held.host.boundary.readers.get? reader.handle = some source) :
    held.spots (.reader id) = source.spots held.world := by
  ext spot
  constructor
  · rintro ⟨other, stream, there, -, standing, inside⟩
    obtain rfl := Option.some.inj (there.symm.trans found)
    obtain rfl := Option.some.inj (standing.symm.trans live)
    exact inside
  · exact fun inside => ⟨reader, source, found, opened, live, inside⟩

theorem acted_reader (sound : Sound held.custody) {action : ReaderAction} {answer : Answer}
    (on : (Action.reader id action).On (.reader id))
    (done : held.perform (.reader id action) = .done (answer, after)) :
    held.Acted (.reader id action) (.reader id) after := by
  have mine := object_mem_changes held (.reader id)
  have rest (ends : (Action.reader id action).ending? = some (.reader id)) (reader : Reader)
      (middle : Holdings) (readers : middle.readers = held.readers) :
      Confined (held.changes (.reader id)) middle
        { middle with readers := action.rest held.readers id reader } := by
    rw [← readers]
    cases action <;> first | (cases ends; done) | exact confined_put middle mine _
  cases found : held.readers.get? id with
  | none =>
      simp only [perform, found] at done
      cases done
      refine .of_kept (gives_of_vacant on ?_) (Confined.refl _ _) rfl
      simp only [custody, claim?, found, Option.bind_none]
  | some reader =>
      have claim := claim?_reader found
      cases closed : reader.closed with
      | true =>
          rw [Reader.claim?, closed] at claim
          have kept := gives_of_vacant on claim
          rcases on.ending with quiet | ends
          · obtain ⟨count, rfl⟩ := ReaderAction.exists_read quiet
            rw [perform_read_of_closed found closed] at done
            cases done
            exact .of_kept kept (Confined.refl _ _) rfl
          · rw [perform_endReader_of_closed ends found closed] at done
            cases done
            exact .of_kept kept (rest ends reader held rfl) rfl
      | false =>
          obtain ⟨source, live⟩ := Reader.exists_source sound closed claim
          rw [Reader.claim?_of_open closed] at claim
          have owned := handle_mem_changes (owns_reader found closed)
          have reach := spots_reader found closed live
          have inside (spot : Spot) (here : spot ∈ World.unfiled (source.spots held.world)) :
              .spot spot ∈ held.changes (.reader id) :=
            spot_mem_changes (reach ▸ here.1) fun _ contents _ => here.2 contents
          rcases on.ending with quiet | ends
          · have kept : held.gives _ = none := gives_of_quiet quiet
            obtain ⟨count, rfl⟩ := ReaderAction.exists_read quiet
            rw [perform_read found closed live] at done
            cases reads : source.read count held.world with
            | error failure =>
                rw [reads] at done
                cases done
                exact .of_kept kept (confined_note _ held _) rfl
            | ok outcome =>
                obtain ⟨data, next, world⟩ := outcome
                rw [reads] at done
                cases done
                have within := Boundary.Reader.within_read reads
                have entered := confined_inWorld within inside
                have set := confined_put (held.inWorld world) owned (some next)
                refine .of_kept kept ((entered.trans set).trans (confined_note _ _ _)) ?_
                exact congrArg (·, _) within.keeps.tree
          · rw [perform_endReader sound ends found closed live] at done
            cases done
            have within := Boundary.Reader.within_finish source held.world
            have entered := confined_inWorld within inside
            have freed := confined_put (held.inWorld (source.finish held.world)) owned none
            have noted := confined_note (held.changes (.reader id))
              ((held.inWorld (source.finish held.world)).put (.handle (.reader reader.handle)) none)
              (.freed (.reader reader.handle))
            have ended := (entered.trans freed).trans noted
            refine ⟨(ended.trans (rest ends reader _ rfl)).trans
              (confined_parted _ _ reader.share), ?_⟩
            rw [gives_of_ends ends claim]
            refine sessions_parted_congr ?_ within.keeps.workingDirectory reader.share
            exact congrArg (·, _) within.keeps.tree

theorem spots_writer {writer : Writer} {target : Boundary.Writer}
    (found : held.writers.get? id = some writer) (opened : writer.closed = false)
    (live : held.host.boundary.writers.get? writer.handle = some target) {spot : Spot}
    (inside : spot ∈ target.spots held.world) : spot ∈ held.spots (.writer id) :=
  ⟨writer, found, Or.inr ⟨opened, target, live, inside⟩⟩

theorem spot_mem_changes_writer {spot : Spot} (inside : spot ∈ held.spots (.writer id)) :
    .spot spot ∈ held.changes (.writer id) :=
  spot_mem_changes inside fun _ _ => Address.noConfusion

theorem acted_writer (sound : Sound held.custody) {action : WriterAction} {answer : Answer}
    (on : (Action.writer id action).On (.writer id))
    (done : held.perform (.writer id action) = .done (answer, after)) :
    held.Acted (.writer id action) (.writer id) after := by
  have mine := object_mem_changes held (.writer id)
  have rest (ends : (Action.writer id action).ending? = some (.writer id)) (writer : Writer)
      (middle : Holdings) (writers : middle.writers = held.writers) :
      Confined (held.changes (.writer id)) middle
        { middle with writers := action.rest held.writers id writer } := by
    rw [← writers]
    cases action <;> first | (cases ends; done) | exact confined_put middle mine _
  cases found : held.writers.get? id with
  | none =>
      simp only [perform, found] at done
      cases done
      refine .of_kept (gives_of_vacant on ?_) (Confined.refl _ _) rfl
      simp only [custody, claim?, found, Option.bind_none]
  | some writer =>
      have claim := claim?_writer found
      have discarded (middle : Holdings) : Confined (held.changes (.writer id)) middle
          (middle.inWorld (discard (action.discards writer) middle.world)) := by
        cases gone : action.discards writer with
        | none => exact Confined.refl _ _
        | some sink =>
            have collects : writer.sink = some sink := by
              cases action <;> first | exact gone | cases gone
            exact confined_put middle
              (spot_mem_changes_writer ⟨writer, found, Or.inl ⟨sink, collects, rfl⟩⟩) none
      cases closed : writer.closed with
      | true =>
          rw [Writer.claim?, closed] at claim
          have kept := gives_of_vacant on claim
          rcases on.ending with quiet | ends
          · obtain ⟨request, rfl⟩ := WriterAction.exists_request quiet
            rw [perform_request_of_closed found closed] at done
            cases done
            exact .of_kept kept (Confined.refl _ _) rfl
          · rw [perform_endWriter_of_closed ends found closed] at done
            cases done
            refine .of_kept kept ((discarded held).trans (rest ends writer _ rfl)) ?_
            cases action.discards writer <;> rfl
      | false =>
          obtain ⟨target, live⟩ := Writer.exists_target sound closed claim
          rw [Writer.claim?_of_open closed] at claim
          have owned := handle_mem_changes (owns_writer found closed)
          have inside (spot : Spot) (here : spot ∈ target.spots held.world) :
              .spot spot ∈ held.changes (.writer id) :=
            spot_mem_changes_writer (spots_writer found closed live here)
          rcases on.ending with quiet | ends
          · have kept : held.gives _ = none := gives_of_quiet quiet
            obtain ⟨request, rfl⟩ := WriterAction.exists_request quiet
            obtain ⟨handle, share, _, sink⟩ := writer
            cases closed
            rw [perform_request request found live] at done
            cases done
            have within := target.within_serve request held.world
            have entered := confined_inWorld within inside
            have set := confined_put (held.inWorld (target.serve request held.world).2.2) owned
              (some (target.serve request held.world).2.1)
            refine .of_kept kept ((entered.trans set).trans (confined_note _ _ _)) ?_
            exact congrArg (·, _) within.keeps.tree
          · rw [perform_endWriter sound ends found closed live] at done
            cases done
            have within := target.within_finish held.world
            have entered := confined_inWorld within inside
            have freed := confined_put (held.inWorld (target.finish held.world)) owned none
            have noted := (confined_note (held.changes (.writer id))
              ((held.inWorld (target.finish held.world)).put (.handle (.writer writer.handle)) none)
              (.used (.writer writer.handle))).trans
                (confined_note _ _ (.freed (.writer writer.handle)))
            have ended := ((entered.trans freed).trans noted).trans
              (confined_parted _ _ writer.share)
            refine ⟨(ended.trans (discarded _)).trans (rest ends writer _ rfl), ?_⟩
            rw [gives_of_ends ends claim]
            have same : (held.host.withoutWriter writer.handle target).sessions =
                held.host.sessions := congrArg (·, _) within.keeps.tree
            refine Eq.trans ?_
              (sessions_parted_congr same within.keeps.workingDirectory writer.share)
            cases action.discards writer <;> rfl

/-- An action on an object changes nothing beside it, but for the session that it may end. -/
theorem acted_perform (sound : Sound held.custody) {action : Action} {answer : Answer}
    (on : action.On address) (done : held.perform action = .done (answer, after)) :
    held.Acted action address after := by
  obtain ⟨same, -⟩ := id on
  cases action with
  | build config => cases same
  | context id action =>
      cases same
      exact acted_context sound on done
  | reader id action =>
      cases same
      exact acted_reader sound on done
  | writer id action =>
      cases same
      exact acted_writer sound on done

/-- The session of an object. -/
def record? (held : Holdings) (address : Address) : Option Engine.Session :=
  (held.custody.claim? address).bind fun claim =>
    (held.host.shares.get? claim.share).bind fun state =>
      held.host.boundary.contexts.get? state.session

variable {one two : Holdings} {parts : Set Part}

theorem agree_context (soundOne : Sound one.custody) (soundTwo : Sound two.custody)
    {action : ContextAction} (on : (Action.context id action).On (.context id))
    (agree : Agree parts one two) (covered : one.uses (.context id) ⊆ parts)
    (records : one.record? (.context id) = two.record? (.context id)) :
    ∃ answer first second, one.perform (.context id action) = .done (answer, first) ∧
      two.perform (.context id action) = .done (answer, second) ∧ Agree parts first second := by
  have object : one.contexts.get? id = two.contexts.get? id :=
    agree.same (.object (.context id)) (covered (object_mem_changes one _).1)
  have rest (ends : (Action.context id action).ending? = some (.context id)) (context : Context) :
      Agree parts { one with contexts := action.rest one.contexts id context }
        { two with contexts := action.rest two.contexts id context } := by
    cases action <;> first | (cases ends; done) | exact agree.put (.object (.context id)) _
  cases found : one.contexts.get? id with
  | none =>
      have also := object.symm.trans found
      simp only [perform, found, also]
      exact ⟨.absent, one, two, rfl, rfl, agree⟩
  | some context =>
      have also := object.symm.trans found
      cases released : context.released with
      | true =>
          rcases ContextAction.asks_or_ends on with ⟨quiet, asks⟩ | ends
          · obtain ⟨told, asked⟩ := asks ⟨[], default, false, none⟩
            exact ⟨_, one, two, perform_ask_of_released found released asked,
              perform_ask_of_released also released asked, agree⟩
          · exact ⟨_, _, _, perform_endContext_of_released ends found released,
              perform_endContext_of_released ends also released, rest ends context⟩
      | false =>
          rcases ContextAction.asks_or_ends on with ⟨quiet, asks⟩ | ends
          · obtain ⟨state, record, shared, live, clean⟩ := exists_session found soundOne released
            obtain ⟨other, theirs, alsoShared, alsoLive, -⟩ :=
              exists_session also soundTwo released
            have same : record = theirs := by
              simp only [record?, claim?_context found, claim?_context also, Context.claim?, released,
                Bool.false_eq_true, if_false, Option.bind_some, shared, alsoShared, live,
                alsoLive] at records
              exact Option.some.inj records
            subst same
            obtain ⟨told, asked⟩ := asks record
            exact ⟨told, _, _, perform_ask found released shared live clean asked,
              perform_ask also released alsoShared alsoLive clean asked, agree.note _ _⟩
          · exact ⟨_, _, _, perform_endContext soundOne ends found released,
              perform_endContext soundTwo ends also released,
              (rest ends context).parted context.share context.share⟩

theorem agree_reader (soundOne : Sound one.custody) (soundTwo : Sound two.custody)
    {action : ReaderAction} (on : (Action.reader id action).On (.reader id))
    (agree : Agree parts one two) (covered : one.uses (.reader id) ⊆ parts) :
    ∃ answer first second, one.perform (.reader id action) = .done (answer, first) ∧
      two.perform (.reader id action) = .done (answer, second) ∧ Agree parts first second := by
  have object : one.readers.get? id = two.readers.get? id :=
    agree.same (.object (.reader id)) (covered (object_mem_changes one _).1)
  have rest (ends : (Action.reader id action).ending? = some (.reader id)) (reader : Reader)
      {first second : Holdings} (agree : Agree parts first second) :
      Agree parts { first with readers := action.rest first.readers id reader }
        { second with readers := action.rest second.readers id reader } := by
    cases action <;> first | (cases ends; done) | exact agree.put (.object (.reader id)) _
  cases found : one.readers.get? id with
  | none =>
      have also := object.symm.trans found
      simp only [perform, found, also]
      exact ⟨.absent, one, two, rfl, rfl, agree⟩
  | some reader =>
      have also := object.symm.trans found
      cases closed : reader.closed with
      | true =>
          rcases on.ending with quiet | ends
          · obtain ⟨count, rfl⟩ := ReaderAction.exists_read quiet
            exact ⟨_, _, _, perform_read_of_closed found closed count,
              perform_read_of_closed also closed count, agree⟩
          · exact ⟨_, _, _, perform_endReader_of_closed ends found closed,
              perform_endReader_of_closed ends also closed, rest ends reader agree⟩
      | false =>
          obtain ⟨source, live⟩ := Reader.exists_source soundOne closed (claim?_reader found)
          have stream : one.host.boundary.readers.get? reader.handle =
              two.host.boundary.readers.get? reader.handle :=
            agree.same (.handle (.reader reader.handle))
              (covered (handle_mem_changes (owns_reader found closed)).1)
          have alsoLive := stream.symm.trans live
          have within (spot : Spot) (here : spot ∈ source.spots one.world) : .spot spot ∈ parts := by
            rw [← spots_reader found closed live] at here
            exact covered (Or.inr (Or.inr ⟨spot, here, rfl⟩))
          have alike : World.Alike { spot | Part.spot spot ∈ parts } one.world two.world :=
            agree.world fun _ here => here
          rcases on.ending with quiet | ends
          · obtain ⟨count, rfl⟩ := ReaderAction.exists_read quiet
            have readOne := perform_read found closed live count
            have readTwo := perform_read also closed alsoLive count
            rcases Boundary.Reader.alike_read alike within count with
              ⟨failure, first, second⟩ | ⟨data, next, before, later, first, second, further⟩
            · rw [first] at readOne
              rw [second] at readTwo
              exact ⟨_, _, _, readOne, readTwo, agree.note _ _⟩
            · rw [first] at readOne
              rw [second] at readTwo
              have entered := agree.inWorld further (Boundary.Reader.within_read first).bare
                (Boundary.Reader.within_read second).bare
              exact ⟨_, _, _, readOne, readTwo,
                (entered.put (.handle (.reader reader.handle)) (some next)).note _ _⟩
          · have further := Boundary.Reader.alike_finish alike within
            have entered := agree.inWorld further (source.within_finish one.world).bare
              (source.within_finish two.world).bare
            have freed := (entered.put (.handle (.reader reader.handle)) none).note
              (.freed (.reader reader.handle)) (.freed (.reader reader.handle))
            exact ⟨_, _, _, perform_endReader soundOne ends found closed live,
              perform_endReader soundTwo ends also closed alsoLive,
              (rest ends reader freed).parted reader.share reader.share⟩

theorem agree_writer (soundOne : Sound one.custody) (soundTwo : Sound two.custody)
    {action : WriterAction} (on : (Action.writer id action).On (.writer id))
    (agree : Agree parts one two) (covered : one.uses (.writer id) ⊆ parts) :
    ∃ answer first second, one.perform (.writer id action) = .done (answer, first) ∧
      two.perform (.writer id action) = .done (answer, second) ∧ Agree parts first second := by
  have object : one.writers.get? id = two.writers.get? id :=
    agree.same (.object (.writer id)) (covered (object_mem_changes one _).1)
  have rest (ends : (Action.writer id action).ending? = some (.writer id)) (writer : Writer)
      {first second : Holdings} (agree : Agree parts first second) :
      Agree parts { first with writers := action.rest first.writers id writer }
        { second with writers := action.rest second.writers id writer } := by
    cases action <;> first | (cases ends; done) | exact agree.put (.object (.writer id)) _
  have discarded (writer : Writer) {first second : Holdings} (agree : Agree parts first second) :
      Agree parts (first.inWorld (discard (action.discards writer) first.world))
        (second.inWorld (discard (action.discards writer) second.world)) := by
    cases action.discards writer with
    | none => exact agree
    | some sink => exact agree.put (.spot (.sink sink)) none
  cases found : one.writers.get? id with
  | none =>
      have also := object.symm.trans found
      simp only [perform, found, also]
      exact ⟨.absent, one, two, rfl, rfl, agree⟩
  | some writer =>
      have also := object.symm.trans found
      have farewell {first second : Holdings} (agree : Agree parts first second) :
          action.farewell writer first.host = action.farewell writer second.host := by
        cases action with
        | harvest =>
            cases sink : writer.sink with
            | none => simp only [WriterAction.farewell, sink]
            | some number =>
                have same : first.world.sinks.get? number = second.world.sinks.get? number :=
                  agree.same (.spot (.sink number)) (covered
                    (Or.inr (Or.inr ⟨_, ⟨writer, found, Or.inl ⟨number, sink, rfl⟩⟩, rfl⟩)))
                simp only [WriterAction.farewell, sink, Writer.collected, same]
        | _ => rfl
      cases closed : writer.closed with
      | true =>
          rcases on.ending with quiet | ends
          · obtain ⟨request, rfl⟩ := WriterAction.exists_request quiet
            exact ⟨_, _, _, perform_request_of_closed found closed request,
              perform_request_of_closed also closed request, agree⟩
          · have ended := perform_endWriter_of_closed ends also closed
            rw [← farewell agree] at ended
            exact ⟨_, _, _, perform_endWriter_of_closed ends found closed, ended,
              rest ends writer (discarded writer agree)⟩
      | false =>
          obtain ⟨target, live⟩ := Writer.exists_target soundOne closed (claim?_writer found)
          have stream : one.host.boundary.writers.get? writer.handle =
              two.host.boundary.writers.get? writer.handle :=
            agree.same (.handle (.writer writer.handle))
              (covered (handle_mem_changes (owns_writer found closed)).1)
          have alsoLive := stream.symm.trans live
          have within (spot : Spot) (here : spot ∈ target.spots one.world) : .spot spot ∈ parts :=
            covered (Or.inr (Or.inr ⟨spot, spots_writer found closed live here, rfl⟩))
          have alike : World.Alike { spot | Part.spot spot ∈ parts } one.world two.world :=
            agree.world fun _ here => here
          rcases on.ending with quiet | ends
          · obtain ⟨request, rfl⟩ := WriterAction.exists_request quiet
            obtain ⟨handle, share, _, sink⟩ := writer
            cases closed
            have servedOne := perform_request request found live
            have servedTwo := perform_request request also alsoLive
            obtain ⟨answer, next, further⟩ := Boundary.Writer.alike_serve alike within request
            rw [← next] at servedTwo
            rw [← answer] at servedTwo
            have entered := agree.inWorld further (target.within_serve request one.world).bare
              (target.within_serve request two.world).bare
            exact ⟨_, _, _, servedOne, servedTwo, (entered.put (.handle (.writer handle))
              (some (target.serve request one.world).2.1)).note _ _⟩
          · have further := Boundary.Writer.alike_finish alike within
            have entered := agree.inWorld further (target.within_finish one.world).bare
              (target.within_finish two.world).bare
            have freed := ((entered.put (.handle (.writer writer.handle)) none).note
              (.used (.writer writer.handle)) (.used (.writer writer.handle))).note
                (.freed (.writer writer.handle)) (.freed (.writer writer.handle))
            have ended := freed.parted writer.share writer.share
            have performed := perform_endWriter soundTwo ends also closed alsoLive
            have told : action.farewell writer
                  ((one.host.withoutWriter writer.handle target).parted writer.share) =
                action.farewell writer
                  ((two.host.withoutWriter writer.handle target).parted writer.share) := by
              have both := farewell ended
              exact both
            rw [← told] at performed
            exact ⟨_, _, _, perform_endWriter soundOne ends found closed live, performed,
              rest ends writer (discarded writer ended)⟩

/-- An action goes by its object, by the stream behind it and what that reaches, and by the session
that a context is asked about. -/
theorem agree_perform (soundOne : Sound one.custody) (soundTwo : Sound two.custody)
    {action : Action} (on : action.On address) (agree : Agree parts one two)
    (covered : one.uses address ⊆ parts) (records : one.record? address = two.record? address) :
    ∃ answer first second, one.perform action = .done (answer, first) ∧
      two.perform action = .done (answer, second) ∧ Agree parts first second := by
  obtain ⟨same, -⟩ := id on
  cases action with
  | build config => cases same
  | context id action =>
      cases same
      exact agree_context soundOne soundTwo on agree covered records
  | reader id action =>
      cases same
      exact agree_reader soundOne soundTwo on agree covered
  | writer id action =>
      cases same
      exact agree_writer soundOne soundTwo on agree covered

end

end Holdings

end Host

end SessionStreams
