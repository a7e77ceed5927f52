import SessionStreams.Proofs.Answers

set_option autoImplicit false

/- Actions as custody sees them. Every action on sound holdings is performed (`perform_spec`): a
chain of moves, or the start of a session, that changes the claims of at most the object that the
action ends or opens. So every run goes through (`run_spec`). -/

namespace SessionStreams

/-- A world with nothing in it but the root. -/
def World.empty : World where
  workingDirectory := []
  homeVariable := [Path.slash]
  temporaryVariable := [Path.slash]
  tree := .empty

theorem World.makeDirectories_root (world : World) :
    world.makeDirectories [Path.slash] = (.ok (), world) := by
  rw [makeDirectories]
  rfl

namespace Host

open Boundary (Outcome)

/-- The object that an action closes, releases or gives up. -/
def Action.ending? : Action → Option Address
  | .context id .release => some (.context id)
  | .context id .drop => some (.context id)
  | .reader id .close => some (.reader id)
  | .reader id .drop => some (.reader id)
  | .writer id .close => some (.writer id)
  | .writer id .drop => some (.writer id)
  | .writer id .harvest => some (.writer id)
  | _ => none

/-- The address of a stream that is made with a new number. -/
def ContextAction.opening? : ContextAction → Nat → Option Address
  | .openReader _, new => some (.reader new)
  | .readerOverDescriptor _, new => some (.reader new)
  | .readerOverBytes _, new => some (.reader new)
  | .openWriter _, new => some (.writer new)
  | .writerOverDescriptor _, new => some (.writer new)
  | .writerOverMemory _, new => some (.writer new)
  | .allocatingWriter, new => some (.writer new)
  | _, _ => none

def Action.opening? : Action → Nat → Option (Nat × Address)
  | .context id action, new => (action.opening? new).map (id, ·)
  | _, _ => none

/-- The object that an action has ended; none if the object was not there. -/
def Action.ends? (action : Action) (answer : Answer) : Option Address :=
  if answer = .absent then none else action.ending?

/-- The stream that an action has opened, after the number of the context that it was opened with;
none if the answer does not say that it was made. -/
def Action.opens? (action : Action) : Answer → Option (Nat × Address)
  | .made new => action.opening? new
  | _ => none

theorem Action.ends?_of_quiet {action : Action} (quiet : action.ending? = none) (answer : Answer) :
    action.ends? answer = none := by
  rw [ends?, quiet, ite_self]

theorem Action.opens?_of_closed {action : Action} (closed : ∀ new, action.opening? new = none)
    (answer : Answer) : action.opens? answer = none := by
  cases answer with
  | made new => exact closed new
  | _ => rfl

namespace Holdings

def claim? (held : Holdings) : Address → Option Claim
  | .context id => (held.contexts.get? id).bind Context.claim?
  | .reader id => (held.readers.get? id).bind Reader.claim?
  | .writer id => (held.writers.get? id).bind Writer.claim?

def custody (held : Holdings) : Custody := ⟨held.host, held.claim?⟩

/-- Addresses that were given out at some time. -/
def Known (held : Holdings) : Address → Prop
  | .context id => id < held.contexts.fresh
  | .reader id => id < held.readers.fresh
  | .writer id => id < held.writers.fresh

@[simp] theorem host_custody (held : Holdings) : held.custody.host = held.host := rfl

theorem claim?_of_unknown {held : Holdings} {address : Address} (unknown : ¬ held.Known address) :
    held.custody.claim? address = none := by
  cases address with
  | context id =>
      cases found : held.contexts.get? id with
      | none => simp [custody, claim?, found]
      | some context => exact absurd (Arena.lt_fresh_of_get? found) unknown
  | reader id =>
      cases found : held.readers.get? id with
      | none => simp [custody, claim?, found]
      | some reader => exact absurd (Arena.lt_fresh_of_get? found) unknown
  | writer id =>
      cases found : held.writers.get? id with
      | none => simp [custody, claim?, found]
      | some writer => exact absurd (Arena.lt_fresh_of_get? found) unknown

/-- Holdings in which one address has been given out or has come to another claim. -/
structure Renewed (held after : Holdings) (address : Address) (claim : Option Claim) : Prop where
  custody : after.custody = held.custody.put address claim after.host
  known : ∀ other, after.Known other ↔ other = address ∨ held.Known other

end Holdings

/-- One place of an arena has been filled anew, or emptied. -/
structure Refilled {α : Type} (before after : Arena α) (id : Nat) (object : Option α) : Prop where
  lookup : ∀ other, after.get? other = if other = id then object else before.get? other
  fresh : ∀ other, other < after.fresh ↔ other = id ∨ other < before.fresh

namespace Refilled

variable {α : Type} {arena : Arena α} {id : Nat}

theorem alloc (arena : Arena α) (object : α) :
    Refilled arena (arena.alloc object) arena.fresh (some object) := by
  refine ⟨fun other => Arena.get?_alloc arena object other, ?_⟩
  intro other
  rw [Arena.fresh_alloc]
  omega

theorem set {old : α} (found : arena.get? id = some old) (object : α) :
    Refilled arena (arena.set id object) id (some object) := by
  have inside := Arena.lt_fresh_of_get? found
  refine ⟨?_, ?_⟩
  · intro other
    rw [Arena.get?_set]
    by_cases here : other = id <;> simp [here, inside]
  · intro other
    rw [Arena.fresh_set]
    omega

theorem release {old : α} (found : arena.get? id = some old) :
    Refilled arena (arena.release id) id none := by
  have inside := Arena.lt_fresh_of_get? found
  refine ⟨fun other => Arena.get?_release arena id other, ?_⟩
  intro other
  rw [Arena.fresh_release]
  omega

end Refilled

namespace Holdings

variable (held : Holdings) (host : Host) {id : Nat}

theorem renewed_contexts {contexts : Arena Context} {context : Option Context}
    (refilled : Refilled held.contexts contexts id context) :
    Renewed held { held with host, contexts } (.context id) (context.bind Context.claim?) := by
  refine ⟨congrArg (Custody.mk host) (funext fun address => ?_), ?_⟩
  · rw [Function.update_apply]
    cases address with
    | reader other => simp [claim?, custody]
    | writer other => simp [claim?, custody]
    | context other =>
        simp only [claim?, custody, refilled.lookup, Address.context.injEq]
        split <;> rfl
  · intro address
    cases address with
    | reader other => simp [Known]
    | writer other => simp [Known]
    | context other => simp only [Known, refilled.fresh, Address.context.injEq]

theorem renewed_readers {readers : Arena Reader} {reader : Option Reader}
    (refilled : Refilled held.readers readers id reader) :
    Renewed held { held with host, readers } (.reader id) (reader.bind Reader.claim?) := by
  refine ⟨congrArg (Custody.mk host) (funext fun address => ?_), ?_⟩
  · rw [Function.update_apply]
    cases address with
    | context other => simp [claim?, custody]
    | writer other => simp [claim?, custody]
    | reader other =>
        simp only [claim?, custody, refilled.lookup, Address.reader.injEq]
        split <;> rfl
  · intro address
    cases address with
    | context other => simp [Known]
    | writer other => simp [Known]
    | reader other => simp only [Known, refilled.fresh, Address.reader.injEq]

theorem renewed_writers {writers : Arena Writer} {writer : Option Writer}
    (refilled : Refilled held.writers writers id writer) :
    Renewed held { held with host, writers } (.writer id) (writer.bind Writer.claim?) := by
  refine ⟨congrArg (Custody.mk host) (funext fun address => ?_), ?_⟩
  · rw [Function.update_apply]
    cases address with
    | context other => simp [claim?, custody]
    | reader other => simp [claim?, custody]
    | writer other =>
        simp only [claim?, custody, refilled.lookup, Address.writer.injEq]
        split <;> rfl
  · intro address
    cases address with
    | context other => simp [Known]
    | reader other => simp [Known]
    | writer other => simp only [Known, refilled.fresh, Address.writer.injEq]

end Holdings

/-- What an action does: all objects stay as they are, a stream is opened, an object is ended, or a
session begins. -/
inductive Performed (held : Holdings) (action : Action) (answer : Answer) : Holdings → Prop where
  | kept {host : Host} (stays : action.ends? answer = none)
      (unopened : action.opens? answer = none)
      (moves : Moves held.custody { held.custody with host }) :
      Performed held action answer { held with host }
  | opened {context share : Nat} {address : Address} {handle : Handle} {after : Holdings}
      (stays : action.ends? answer = none)
      (opens : action.opens? answer = some (context, address))
      (given : held.custody.claim? (.context context) = some { share })
      (fresh : ¬ held.Known address)
      (renewed : held.Renewed after address (some { share, handle := some handle }))
      (moves : Moves held.custody after.custody) : Performed held action answer after
  | ended {address : Address} {after : Holdings} (ends : action.ends? answer = some address)
      (unopened : action.opens? answer = none) (renewed : held.Renewed after address none)
      (ebbs : Ebbs held.custody after.custody) :
      Performed held action answer after
  | began {config : Config} {claim : Option Claim} {after : Holdings}
      (build : action = .build config) (made : answer = .made held.contexts.fresh)
      (renewed : held.Renewed after (.context held.contexts.fresh) claim)
      (began : Began (config.settings held.host.boundary.world) (.context held.contexts.fresh)
        held.custody after.custody) :
      Performed held action answer after

namespace Holdings

variable {held : Holdings}

theorem performed_keepHost {α : Type} {action : Action} (quiet : action.ending? = none)
    (closed : ∀ new, action.opening? new = none) (succeeded : α → Answer)
    {result : Except Error α × Host}
    (moves : Moves held.custody { held.custody with host := result.2 }) :
    Performed held action (held.keepHost succeeded result).1 (held.keepHost succeeded result).2 :=
  .kept (Action.ends?_of_quiet quiet _) (Action.opens?_of_closed closed _) moves

theorem performed_ended {action : Action} {answer : Answer} {after : Holdings} {address : Address}
    (ends : action.ends? answer = some address) (closed : ∀ new, action.opening? new = none)
    (renewed : Renewed held after address none)
    (ebbs : Ebbs held.custody (held.custody.put address none after.host)) :
    Performed held action answer after := by
  rw [← renewed.custody] at ebbs
  exact .ended ends (Action.opens?_of_closed closed answer) renewed ebbs

theorem performed_opened {id share new : Nat} {action : ContextAction} {after : Holdings}
    {address : Address} {handle : Handle} (opens : action.opening? new = some address)
    (quiet : (Action.context id action).ending? = none)
    (given : held.custody.claim? (.context id) = some { share }) (fresh : ¬ held.Known address)
    (renewed : Renewed held after address (some { share, handle := some handle }))
    (moves : Moves held.custody
      (held.custody.put address (some { share, handle := some handle }) after.host)) :
    Performed held (.context id action) (.made new) after := by
  have opened : (Action.context id action).opens? (.made new) = some (id, address) := by
    simp only [Action.opens?, Action.opening?, opens, Option.map_some]
  rw [← renewed.custody] at moves
  exact .opened (Action.ends?_of_quiet quiet _) opened given fresh renewed moves

theorem performed_keepReader {id : Nat} {action : ContextAction}
    (opens : ∀ new, action.opening? new = some (.reader new))
    (quiet : (Action.context id action).ending? = none) {result : Except Error Reader × Host}
    (constructed : Constructed Reader.claim? held.custody (.context id)
      (.reader held.readers.fresh) result) :
    Performed held (.context id action) (held.keepReader result).1 (held.keepReader result).2 := by
  obtain ⟨answer, host⟩ := result
  cases constructed with
  | refused moves => exact .kept (Action.ends?_of_quiet quiet _) rfl moves
  | made given claimed moves =>
      rename_i reader share handle
      have renewed := renewed_readers held host (Refilled.alloc held.readers reader)
      rw [Option.bind_some, claimed] at renewed
      rw [claimed] at moves
      exact performed_opened (opens _) quiet given (Nat.lt_irrefl _) renewed moves

theorem performed_keepWriter {id : Nat} {action : ContextAction}
    (opens : ∀ new, action.opening? new = some (.writer new))
    (quiet : (Action.context id action).ending? = none) {result : Except Error Writer × Host}
    (constructed : Constructed Writer.claim? held.custody (.context id)
      (.writer held.writers.fresh) result) :
    Performed held (.context id action) (held.keepWriter result).1 (held.keepWriter result).2 := by
  obtain ⟨answer, host⟩ := result
  cases constructed with
  | refused moves => exact .kept (Action.ends?_of_quiet quiet _) rfl moves
  | made given claimed moves =>
      rename_i writer share handle
      have renewed := renewed_writers held host (Refilled.alloc held.writers writer)
      rw [Option.bind_some, claimed] at renewed
      rw [claimed] at moves
      exact performed_opened (opens _) quiet given (Nat.lt_irrefl _) renewed moves

theorem performOnContext_spec (sound : Sound held.custody) {id : Nat} {context : Context}
    (found : held.contexts.get? id = some context) (action : ContextAction) :
    ∃ answer after, held.performOnContext id context action = .done (answer, after) ∧
      Performed held (.context id action) answer after := by
  have claimed : held.custody.claim? (.context id) = context.claim? := by
    simp [custody, claim?, found]
  have newReader : held.custody.claim? (.reader held.readers.fresh) = none :=
    claim?_of_unknown (Nat.lt_irrefl _)
  have newWriter : held.custody.claim? (.writer held.writers.fresh) = none :=
    claim?_of_unknown (Nat.lt_irrefl _)
  cases action with
  | home =>
      obtain ⟨result, asked, moves⟩ := Context.home_spec sound claimed
      rw [host_custody] at asked
      simp only [performOnContext, asked, Outcome.done_bind]
      exact ⟨_, _, rfl, performed_keepHost rfl (fun _ => rfl) .path moves⟩
  | policy =>
      obtain ⟨result, asked, moves⟩ := Context.policy_spec sound claimed
      rw [host_custody] at asked
      simp only [performOnContext, asked, Outcome.done_bind]
      exact ⟨_, _, rfl, performed_keepHost rfl (fun _ => rfl) .policy moves⟩
  | ephemeral =>
      obtain ⟨result, asked, moves⟩ := Context.ephemeral_spec sound claimed
      rw [host_custody] at asked
      simp only [performOnContext, asked, Outcome.done_bind]
      exact ⟨_, _, rfl, performed_keepHost rfl (fun _ => rfl) .flag moves⟩
  | release =>
      obtain ⟨host, released, moves⟩ := Context.release_spec sound claimed
      rw [host_custody] at released
      simp only [performOnContext, released, Outcome.done_bind]
      exact ⟨_, _, rfl, performed_ended rfl (fun _ => rfl)
        (renewed_contexts held host (Refilled.set found { context with released := true })) moves⟩
  | drop =>
      obtain ⟨host, dropped, moves⟩ := Context.drop_spec sound claimed
      rw [host_custody] at dropped
      simp only [performOnContext, dropped, Outcome.done_bind]
      exact ⟨_, _, rfl, performed_ended rfl (fun _ => rfl)
        (renewed_contexts held host (Refilled.release found)) moves⟩
  | openReader path =>
      obtain ⟨result, made, constructed⟩ := Reader.ofPath_spec sound claimed newReader path
      rw [host_custody] at made
      simp only [performOnContext, made, Outcome.done_bind]
      exact ⟨_, _, rfl, performed_keepReader (fun _ => rfl) rfl constructed⟩
  | readerOverDescriptor fd =>
      obtain ⟨result, made, constructed⟩ := Reader.ofDescriptor_spec sound claimed newReader fd
      rw [host_custody] at made
      simp only [performOnContext, made, Outcome.done_bind]
      exact ⟨_, _, rfl, performed_keepReader (fun _ => rfl) rfl constructed⟩
  | readerOverBytes data =>
      obtain ⟨result, made, constructed⟩ := Reader.ofBytes_spec sound claimed newReader data
      rw [host_custody] at made
      simp only [performOnContext, made, Outcome.done_bind]
      exact ⟨_, _, rfl, performed_keepReader (fun _ => rfl) rfl constructed⟩
  | openWriter path =>
      obtain ⟨result, made, constructed⟩ := Writer.ofPath_spec sound claimed newWriter path
      rw [host_custody] at made
      simp only [performOnContext, made, Outcome.done_bind]
      exact ⟨_, _, rfl, performed_keepWriter (fun _ => rfl) rfl constructed⟩
  | writerOverDescriptor fd =>
      obtain ⟨result, made, constructed⟩ := Writer.ofDescriptor_spec sound claimed newWriter fd
      rw [host_custody] at made
      simp only [performOnContext, made, Outcome.done_bind]
      exact ⟨_, _, rfl, performed_keepWriter (fun _ => rfl) rfl constructed⟩
  | writerOverMemory region =>
      obtain ⟨result, made, constructed⟩ := Writer.ofMemory_spec sound claimed newWriter region
      rw [host_custody] at made
      simp only [performOnContext, made, Outcome.done_bind]
      exact ⟨_, _, rfl, performed_keepWriter (fun _ => rfl) rfl constructed⟩
  | allocatingWriter =>
      obtain ⟨result, made, constructed⟩ := Writer.allocating_spec claimed newWriter
      rw [host_custody] at made
      simp only [performOnContext, made, Outcome.done_bind]
      exact ⟨_, _, rfl, performed_keepWriter (fun _ => rfl) rfl constructed⟩

theorem performOnReader_spec (sound : Sound held.custody) {id : Nat} {reader : Reader}
    (found : held.readers.get? id = some reader) (action : ReaderAction) :
    ∃ answer after, held.performOnReader id reader action = .done (answer, after) ∧
      Performed held (.reader id action) answer after := by
  have claimed : held.custody.claim? (.reader id) = reader.claim? := by
    simp [custody, claim?, found]
  cases action with
  | read count =>
      obtain ⟨result, read, moves⟩ := Reader.read_spec sound claimed count
      rw [host_custody] at read
      simp only [performOnReader, read, Outcome.done_bind]
      exact ⟨_, _, rfl, performed_keepHost rfl (fun _ => rfl) .bytes moves⟩
  | close =>
      obtain ⟨host, closed, moves⟩ := Reader.close_spec sound claimed
      rw [host_custody] at closed
      simp only [performOnReader, closed, Outcome.done_bind]
      exact ⟨_, _, rfl, performed_ended rfl (fun _ => rfl)
        (renewed_readers held host (Refilled.set found { reader with closed := true })) moves⟩
  | drop =>
      obtain ⟨host, dropped, moves⟩ := Reader.drop_spec sound claimed
      rw [host_custody] at dropped
      simp only [performOnReader, dropped, Outcome.done_bind]
      exact ⟨_, _, rfl, performed_ended rfl (fun _ => rfl)
        (renewed_readers held host (Refilled.release found)) moves⟩

theorem performOnWriter_spec (sound : Sound held.custody) {id : Nat} {writer : Writer}
    (found : held.writers.get? id = some writer) (action : WriterAction) :
    ∃ answer after, held.performOnWriter id writer action = .done (answer, after) ∧
      Performed held (.writer id action) answer after := by
  have claimed : held.custody.claim? (.writer id) = writer.claim? := by
    simp [custody, claim?, found]
  cases action with
  | write data =>
      obtain ⟨result, written, moves⟩ := Writer.write_spec sound claimed data
      rw [host_custody] at written
      simp only [performOnWriter, written, Outcome.done_bind]
      exact ⟨_, _, rfl, performed_keepHost rfl (fun _ => rfl) .count moves⟩
  | flush =>
      obtain ⟨result, flushed, moves⟩ := Writer.flush_spec sound claimed
      rw [host_custody] at flushed
      simp only [performOnWriter, flushed, Outcome.done_bind]
      exact ⟨_, _, rfl, performed_keepHost rfl (fun _ => rfl)
        (fun _ => .nothing) moves⟩
  | close =>
      obtain ⟨host, closed, moves⟩ := Writer.close_spec sound claimed
      rw [host_custody] at closed
      simp only [performOnWriter, closed, Outcome.done_bind]
      exact ⟨_, _, rfl, performed_ended rfl (fun _ => rfl)
        (renewed_writers held host (Refilled.set found { writer with closed := true })) moves⟩
  | drop =>
      obtain ⟨host, dropped, moves⟩ := Writer.drop_spec sound claimed
      rw [host_custody] at dropped
      simp only [performOnWriter, dropped, Outcome.done_bind]
      exact ⟨_, _, rfl, performed_ended rfl (fun _ => rfl)
        (renewed_writers held host (Refilled.release found)) moves⟩
  | harvest =>
      obtain ⟨⟨answer, host⟩, harvested, moves⟩ := Writer.harvest_spec sound claimed
      rw [host_custody] at harvested
      simp only [performOnWriter, harvested, Outcome.done_bind]
      have renewed := renewed_writers held host (Refilled.release found)
      cases answer with
      | ok data => exact ⟨_, _, rfl, performed_ended rfl (fun _ => rfl) renewed moves⟩
      | error error => exact ⟨_, _, rfl, performed_ended rfl (fun _ => rfl) renewed moves⟩

theorem performed_absent (action : Action) : Performed held action .absent held :=
  .kept rfl rfl Relation.ReflTransGen.refl

/-- A context is made just if a session begins. -/
theorem performBuild_spec (held : Holdings) (config : Config) :
    ∃ answer after, held.perform (.build config) = .done (answer, after) ∧
      Performed held (.build config) answer after ∧
        ∀ context, answer = .made context → after.Known (.context context) ∧
          Began (config.settings held.host.boundary.world) (.context context) held.custody
            after.custody := by
  have vacant : held.custody.claim? (.context held.contexts.fresh) = none :=
    claim?_of_unknown (Nat.lt_irrefl _)
  obtain ⟨⟨answer, host⟩, done, built⟩ := Config.build_spec vacant config
  rw [host_custody] at done
  simp only [perform, done, Outcome.done_bind]
  refine ⟨_, _, rfl, ?_⟩
  cases built with
  | refused moves =>
      refine ⟨.kept rfl rfl moves, ?_⟩
      intro context made
      cases made
  | made began =>
      rename_i context
      have renewed := renewed_contexts held host (Refilled.alloc held.contexts context)
      rw [Option.bind_some] at renewed
      rw [host_custody, ← renewed.custody] at began
      refine ⟨.began rfl rfl renewed began, ?_⟩
      intro number made
      cases made
      exact ⟨(renewed.known _).mpr (Or.inl rfl), began⟩

theorem run_cons {action : Action} {rest : List Action} {answer : Answer} {answers : List Answer}
    {after final : Holdings} (done : held.perform action = .done (answer, after))
    (further : after.run rest = .done (answers, final)) :
    held.run (action :: rest) = .done (answer :: answers, final) := by
  simp only [run, done, Outcome.done_bind, further]

theorem perform_spec (sound : Sound held.custody) (action : Action) :
    ∃ answer after, held.perform action = .done (answer, after) ∧
      Performed held action answer after := by
  cases action with
  | build config =>
      obtain ⟨answer, after, done, performed, -⟩ := performBuild_spec held config
      exact ⟨answer, after, done, performed⟩
  | context id action =>
      simp only [perform]
      cases found : held.contexts.get? id with
      | none => exact ⟨_, _, rfl, performed_absent _⟩
      | some context => exact performOnContext_spec sound found action
  | reader id action =>
      simp only [perform]
      cases found : held.readers.get? id with
      | none => exact ⟨_, _, rfl, performed_absent _⟩
      | some reader => exact performOnReader_spec sound found action
  | writer id action =>
      simp only [perform]
      cases found : held.writers.get? id with
      | none => exact ⟨_, _, rfl, performed_absent _⟩
      | some writer => exact performOnWriter_spec sound found action

end Holdings

/-- A property of custody that all moves keep, as long as custody is sound. -/
structure Kept (Property : Custody → Prop) : Prop where
  move : ∀ {before after}, Move before after → Sound before → Property before → Property after
  began : ∀ {settings address before after}, Began settings address before after → Sound before →
    Property before → Property after

theorem Kept.moves {Property : Custody → Prop} (kept : Kept Property) {before after : Custody}
    (moves : Moves before after) (sound : Sound before) (holds : Property before) :
    Property after := by
  induction moves with
  | refl => exact holds
  | tail earlier move ih => exact kept.move move (Moves.sound earlier sound) ih

namespace Performed

variable {held : Holdings}

theorem sound {action : Action} {answer : Answer} {after : Holdings}
    (performed : Performed held action answer after) (sound : Sound held.custody) :
    Sound after.custody := by
  cases performed with
  | kept stays unopened moves => exact Moves.sound moves sound
  | opened stays opens given fresh renewed moves => exact Moves.sound moves sound
  | ended ends unopened renewed ebbs => exact Moves.sound ebbs.moves sound
  | began build made renewed began => exact began.sound sound

theorem keeps {Property : Custody → Prop} (kept : Kept Property) {action : Action}
    {answer : Answer} {after : Holdings} (performed : Performed held action answer after)
    (sound : Sound held.custody) (holds : Property held.custody) : Property after.custody := by
  cases performed with
  | kept stays unopened moves => exact kept.moves moves sound holds
  | opened stays opens given fresh renewed moves => exact kept.moves moves sound holds
  | ended ends unopened renewed ebbs => exact kept.moves ebbs.moves sound holds
  | began build made renewed began => exact kept.began began sound holds

end Performed

namespace Holdings

variable {held : Holdings}

/-- Every run from sound holdings goes through, and keeps what each move keeps. -/
theorem run_spec {Property : Custody → Prop} (kept : Kept Property) (sound : Sound held.custody)
    (holds : Property held.custody) (actions : List Action) :
    ∃ answers after, held.run actions = .done (answers, after) ∧ Sound after.custody ∧
      Property after.custody := by
  induction actions generalizing held with
  | nil => exact ⟨[], held, rfl, sound, holds⟩
  | cons action rest ih =>
      obtain ⟨answer, middle, done, performed⟩ := perform_spec sound action
      obtain ⟨answers, after, further, final⟩ :=
        ih (performed.sound sound) (performed.keeps kept sound holds)
      refine ⟨answer :: answers, after, ?_, final⟩
      simp only [run, done, Outcome.done_bind, further]

theorem perform_build {held : Holdings} {config : Config} {result : Except Error Context × Host}
    (built : config.build held.host = .done result) :
    held.perform (.build config) = .done (held.keepContext result) := by
  simp only [perform, built, Outcome.done_bind]

/-- A host that holds nothing yet. -/
def start (world : World) : Holdings := { host := { boundary := { world } } }

theorem claim?_start (world : World) (address : Address) :
    (start world).custody.claim? address = none := by
  cases address <;> rfl

theorem sound_start (world : World) : Sound (start world).custody := by
  have unheld (address : Address) (share : Nat) : ¬ (start world).custody.Holds address share :=
    Custody.not_holds_of_vacant (claim?_start world address) share
  have unowned (address : Address) (handle : Handle) :
      ¬ (start world).custody.Owns address handle :=
    Custody.not_owns_of_vacant (claim?_start world address) handle
  refine ⟨?_, ?_, ?_, ?_, ?_, ?_, ?_⟩
  · intro share state there
    cases there
  · intro address share held
    exact absurd held (unheld address share)
  · intro share state there
    cases there
  · intro share other state otherState there
    cases there
  · intro address handle owned
    exact absurd owned (unowned address handle)
  · intro address other handle owned
    exact absurd owned (unowned address handle)
  · intro address handle owned
    exact absurd owned (unowned address handle)

/-- Every program runs through, and custody is sound after it. -/
theorem run_sound (world : World) (actions : List Action) :
    ∃ answers held, (start world).run actions = .done (answers, held) ∧ Sound held.custody := by
  have kept : Kept fun _ => True := ⟨fun _ _ _ => trivial, fun _ _ _ => trivial⟩
  obtain ⟨answers, held, ran, sound, -⟩ := run_spec kept (sound_start world) trivial actions
  exact ⟨answers, held, ran, sound⟩

/-- A session at the root can be had in every world. -/
theorem perform_build_root (world : World) :
    ∃ held, (start world).perform (.build { home := some [Path.slash] }) = .done (.made 0, held) ∧
      held.contexts.get? 0 = some { share := 0 } ∧ held.host.boundary.world = world ∧
      held.readers = {} ∧ held.writers = {} := by
  let root : Config := { home := some [Path.slash] }
  have clean : ∀ path, root.home = some path → 0 ∉ path := by
    rintro _ ⟨⟩
    decide
  have started : (root.settings world).build world =
      (.ok { home := [Path.slash], policy := .robust, ephemeral := false }, world) := by
    have made : world.makeDirectories (root.settings world).home = (.ok (), world) :=
      World.makeDirectories_root world
    simp only [Engine.Settings.build, made]
    rfl
  have fresh : (start world).host.boundary.world = world := rfl
  obtain ⟨configs, built⟩ := Config.build_of_ok clean (fresh.symm ▸ started)
  exact ⟨_, perform_build built, rfl, rfl, rfl, rfl⟩

theorem run_build_root (world : World) :
    ∃ held, (start world).run [.build { home := some [Path.slash] }] = .done ([.made 0], held) ∧
      held.contexts.get? 0 = some { share := 0 } ∧ held.host.boundary.world = world := by
  obtain ⟨held, performed, found, same, -⟩ := perform_build_root world
  exact ⟨held, run_cons performed rfl, found, same⟩

end Holdings

end Host

end SessionStreams
