import SessionStreams.Proofs.Answers
import SessionStreams.Proofs.Refinement

set_option autoImplicit false

namespace SessionStreams.Host

open Boundary (Destination Fault Outcome Source)

/-- How an action may end. -/
inductive Outlook where
  | succeeds
  | fails (kind : ErrorKind)
  /-- The world decides, and a failure is of this kind. -/
  | risks (kind : ErrorKind)
deriving DecidableEq

def Answer.Succeeded : Answer → Prop
  | .absent => False
  | .failed _ => False
  | _ => True

def Answer.Fails (answer : Answer) (kind : ErrorKind) : Prop :=
  ∃ error, answer = .failed error ∧ error.kind = kind

def Outlook.Allows : Outlook → Answer → Prop
  | .succeeds, answer => answer.Succeeded
  | .fails kind, answer => answer.Fails kind
  | .risks kind, answer => answer.Succeeded ∨ answer.Fails kind

/-- An object that has let its session go refuses whatever needs it. -/
def Outlook.unlessEnded (ended : Bool) (otherwise : Outlook) : Outlook :=
  if ended then .fails .invalidOperation else otherwise

/-- A home is looked at even if the session is to have a home of its own. -/
def outlookOfHome (home : Option Path) : Outlook :=
  match home with
  | none => .risks .io
  | some path => if 0 ∈ path then .fails .invalidArgument else .risks .io

/-- A path is looked at before the context. -/
def outlookOfPath (path : Path) (released : Bool) : Outlook :=
  if 0 ∈ path then .fails .invalidArgument else .unlessEnded released (.risks .io)

/-- A descriptor is looked at after the context. -/
def outlookOfDescriptor (fd : Int) (released : Bool) : Outlook :=
  .unlessEnded released (if fd < 0 then .fails .invalidArgument else .succeeds)

/-- A slice is in memory even if it is empty; that a missing one may not claim a length is for
callers behind the boundary. -/
def outlookOfRegion (region : Boundary.Region) (released : Bool) : Outlook :=
  .unlessEnded released
    (match region with
      | .null (_ + 1) => .fails .invalidArgument
      | .null 0 => .succeeds
      | .memory _ _ => .succeeds)

def ContextAction.outlook (released : Bool) : ContextAction → Outlook
  | .home => .unlessEnded released .succeeds
  | .policy => .unlessEnded released .succeeds
  | .ephemeral => .unlessEnded released .succeeds
  | .release => .succeeds
  | .drop => .succeeds
  | .openReader path => outlookOfPath path released
  | .readerOverDescriptor handed => outlookOfDescriptor handed.number released
  | .readerOverBytes _ => .unlessEnded released .succeeds
  | .openWriter path => outlookOfPath path released
  | .writerOverDescriptor handed => outlookOfDescriptor handed.number released
  | .writerOverMemory region => outlookOfRegion region released
  | .allocatingWriter => .unlessEnded released .succeeds

def ReaderAction.outlook (closed : Bool) : ReaderAction → Outlook
  | .read _ => .unlessEnded closed (.risks .io)
  | .close => .succeeds
  | .drop => .succeeds

def WriterAction.outlook (closed collects : Bool) : WriterAction → Outlook
  | .write _ => .unlessEnded closed (.risks .io)
  | .flush => .unlessEnded closed (.risks .io)
  | .close => .succeeds
  | .drop => .succeeds
  | .harvest => if collects then .succeeds else .fails .invalidOperation

/-- A descriptor that is handed over to a released context is dropped. -/
def ContextAction.forfeit (host : Host) : ContextAction → Host
  | .readerOverDescriptor handed => host.mapWorld (·.dropHanded handed)
  | .writerOverDescriptor handed => host.mapWorld (·.dropHanded handed)
  | _ => host

/-- A failure that is foreseen is of a known kind. -/
def Outlook.Known : Outlook → Prop
  | .succeeds => True
  | .fails kind => kind ≠ .unknown
  | .risks kind => kind ≠ .unknown

theorem Outlook.Known.kind_ne {outlook : Outlook} (known : outlook.Known) {error : Error}
    (allows : outlook.Allows (.failed error)) : error.kind ≠ .unknown := by
  cases outlook with
  | succeeds => exact allows.elim
  | fails kind =>
      obtain ⟨_, ⟨⟩, rfl⟩ := allows
      exact known
  | risks kind =>
      obtain succeeded | ⟨_, ⟨⟩, rfl⟩ := allows
      · exact succeeded.elim
      · exact known

theorem Outlook.Known.unlessEnded {otherwise : Outlook} (known : otherwise.Known) (ended : Bool) :
    (Outlook.unlessEnded ended otherwise).Known := by
  cases ended with
  | true => exact ErrorKind.noConfusion
  | false => exact known

theorem known_outlookOfHome (home : Option Path) : (outlookOfHome home).Known := by
  unfold outlookOfHome
  split
  · exact ErrorKind.noConfusion
  · split <;> exact ErrorKind.noConfusion

theorem known_outlookOfPath (path : Path) (released : Bool) :
    (outlookOfPath path released).Known := by
  have risky : (Outlook.risks .io).Known := ErrorKind.noConfusion
  unfold outlookOfPath
  split
  · exact ErrorKind.noConfusion
  · exact risky.unlessEnded released

theorem known_outlookOfDescriptor (fd : Int) (released : Bool) :
    (outlookOfDescriptor fd released).Known := by
  apply Outlook.Known.unlessEnded
  split
  · exact ErrorKind.noConfusion
  · exact trivial

theorem known_outlookOfRegion (region : Boundary.Region) (released : Bool) :
    (outlookOfRegion region released).Known := by
  apply Outlook.Known.unlessEnded
  split
  · exact ErrorKind.noConfusion
  · exact trivial
  · exact trivial

theorem ContextAction.known_outlook (released : Bool) (action : ContextAction) :
    (action.outlook released).Known := by
  have sure : Outlook.succeeds.Known := trivial
  cases action with
  | home => exact sure.unlessEnded released
  | policy => exact sure.unlessEnded released
  | ephemeral => exact sure.unlessEnded released
  | release => exact sure
  | drop => exact sure
  | openReader path => exact known_outlookOfPath path released
  | readerOverDescriptor handed => exact known_outlookOfDescriptor handed.number released
  | readerOverBytes data => exact sure.unlessEnded released
  | openWriter path => exact known_outlookOfPath path released
  | writerOverDescriptor handed => exact known_outlookOfDescriptor handed.number released
  | writerOverMemory region => exact known_outlookOfRegion region released
  | allocatingWriter => exact sure.unlessEnded released

theorem ReaderAction.known_outlook (closed : Bool) (action : ReaderAction) :
    (action.outlook closed).Known := by
  have risky : (Outlook.risks .io).Known := ErrorKind.noConfusion
  cases action with
  | read count => exact risky.unlessEnded closed
  | close => exact trivial
  | drop => exact trivial

theorem WriterAction.known_outlook (closed collects : Bool) (action : WriterAction) :
    (action.outlook closed collects).Known := by
  have risky : (Outlook.risks .io).Known := ErrorKind.noConfusion
  cases action with
  | write data => exact risky.unlessEnded closed
  | flush => exact risky.unlessEnded closed
  | close => exact trivial
  | drop => exact trivial
  | harvest =>
      cases collects with
      | true => exact trivial
      | false => exact ErrorKind.noConfusion

/-- The action is performed and ends as the outlook says. -/
def Holdings.Ends (held : Holdings) (action : Action) (outlook : Outlook) : Prop :=
  ∃ answer after, held.perform action = .done (answer, after) ∧ outlook.Allows answer

theorem fails_released (what : String) : (Answer.failed (.released what)).Fails .invalidOperation :=
  ⟨_, rfl, rfl⟩

theorem fails_reporting (fault : Fault) :
    (Answer.failed (.reporting fault)).Fails (.ofStatus fault.status) :=
  ⟨_, rfl, rfl⟩

/-- An answer that stands for what was tried behind the boundary. -/
def Answer.Tells {α : Type} (answer : Answer) : Except Fault α → Prop
  | .ok _ => answer.Succeeded
  | .error fault => answer.Fails (.ofStatus fault.status)

/-- All that the world can object to is a failure of input or output. -/
theorem Answer.Tells.allows {α : Type} {answer : Answer} {attempt : Except IoFailure α}
    (tells : answer.Tells (attempt.mapError Fault.ofIo)) : (Outlook.risks .io).Allows answer := by
  cases attempt with
  | ok value => exact Or.inl tells
  | error failure => exact Or.inr tells

section

variable {boundary : Boundary} {answer : Answer}

theorem tells_tryOpenReader {path : Path} (tells : answer.Tells (boundary.tryOpenReader path).1) :
    (Outlook.risks .io).Allows answer := by
  unfold Boundary.tryOpenReader at tells
  split at tells
  · exact Or.inr tells
  · exact Or.inl tells

theorem tells_tryOpenWriter {path : Path} (tells : answer.Tells (boundary.tryOpenWriter path).1) :
    (Outlook.risks .io).Allows answer := by
  unfold Boundary.tryOpenWriter at tells
  split at tells
  · exact Or.inr tells
  · exact Or.inl tells

theorem tells_tryRead {id count : Nat} {reader : Boundary.Reader}
    (tells : answer.Tells (boundary.tryRead id reader (.space count)).1) :
    (Outlook.risks .io).Allows answer := by
  simp only [Boundary.tryRead, Boundary.Room.view] at tells
  split at tells
  · exact Or.inr tells
  · exact Or.inl tells

theorem tells_checkDescriptor {fd : Int} {add : Nat → Nat × Boundary}
    (tells : answer.Tells (boundary.tryAdd (Boundary.checkDescriptor fd) add).1) :
    (outlookOfDescriptor fd false).Allows answer := by
  change (if fd < 0 then Outlook.fails .invalidArgument else .succeeds).Allows answer
  unfold Boundary.checkDescriptor at tells
  split
  · next negative =>
      rw [if_pos negative] at tells
      exact tells
  · next fine =>
      rw [if_neg fine] at tells
      exact tells

theorem tells_view {region : Boundary.Region} {add : Boundary.Writer → Nat × Boundary}
    (tells : answer.Tells (boundary.tryAdd region.view add).1) :
    (outlookOfRegion region false).Allows answer := by
  cases region with
  | null length => cases length <;> exact tells
  | memory id length => exact tells

end

theorem tells_ofExcept {α : Type} {succeeded : α → Answer}
    (succeeds : ∀ value, (succeeded value).Succeeded) (attempt : Except Fault α) :
    (Answer.ofExcept succeeded (attempt.mapError .reporting)).Tells attempt := by
  cases attempt with
  | ok value => exact succeeds value
  | error fault => exact fails_reporting fault

theorem Writer.drop_of_closed (writer : Writer) (closed : writer.closed = true) (host : Host) :
    ∃ after, writer.drop host = .done after := by
  simp only [Writer.drop, Writer.close, closed, if_true, Outcome.done_bind]
  cases writer.sink with
  | none => exact ⟨_, rfl⟩
  | some sink => exact ⟨_, rfl⟩

namespace Holdings

variable {held : Holdings} {id : Nat}

theorem Ends.of_done {action : Action} {outlook : Outlook} {answer : Answer} {after : Holdings}
    (performed : held.perform action = .done (answer, after)) (allowed : outlook.Allows answer) :
    held.Ends action outlook :=
  ⟨answer, after, performed, allowed⟩

theorem ends_build (held : Holdings) (config : Config) :
    held.Ends (.build config) (outlookOfHome config.home) := by
  by_cases clean : ∀ path, config.home = some path → 0 ∉ path
  · have risks : outlookOfHome config.home = .risks .io := by
      unfold outlookOfHome
      split
      · rfl
      · next path set => rw [if_neg (clean path set)]
    rw [risks]
    cases started : (config.settings held.host.boundary.world).build held.host.boundary.world with
    | mk answer after =>
        cases answer with
        | error failure =>
            obtain ⟨configs, built⟩ := Config.build_of_error clean started
            exact .of_done (perform_build built) (Or.inr (fails_reporting (.ofIo failure)))
        | ok session =>
            obtain ⟨configs, built⟩ := Config.build_of_ok clean started
            exact .of_done (perform_build built) (Or.inl trivial)
  · push Not at clean
    obtain ⟨path, set, nul⟩ := clean
    have fails : outlookOfHome config.home = .fails .invalidArgument := by
      simp only [outlookOfHome, set, nul, if_true]
    rw [fails]
    exact .of_done (perform_build (Config.build_of_nul held.host set nul)) ⟨_, rfl, rfl⟩

section

variable {context : Context} (found : held.contexts.get? id = some context)

include found

theorem ends_context_iff (action : ContextAction) (outlook : Outlook) :
    held.Ends (.context id action) outlook ↔ ∃ answer after,
      held.performOnContext id context action = .done (answer, after) ∧ outlook.Allows answer := by
  rw [Ends, perform, found]

/-- A path with a NUL is refused whatever has become of the context, and nothing happens. -/
theorem perform_open_of_nul {path : Path} (nul : 0 ∈ path) {action : ContextAction}
    (opens : action = .openReader path ∨ action = .openWriter path) :
    held.perform (.context id action) = .done (.failed
      ⟨.invalidArgument, Text.quotedBytes path ++ " contains a 0 byte"⟩, held) := by
  rcases opens with rfl | rfl <;>
    simp only [perform, found, performOnContext, Reader.ofPath, Writer.ofPath,
      pathArgument_of_nul nul, Outcome.done_bind, keepReader, keepWriter]

theorem ends_of_nul {path : Path} (nul : 0 ∈ path) :
    held.Ends (.context id (.openReader path)) (.fails .invalidArgument) ∧
      held.Ends (.context id (.openWriter path)) (.fails .invalidArgument) :=
  ⟨⟨_, _, perform_open_of_nul found nul (Or.inl rfl), _, rfl, rfl⟩,
    _, _, perform_open_of_nul found nul (Or.inr rfl), _, rfl, rfl⟩

/-- A context that was released refuses whatever does not end it, if the argument is not refused
first. Nothing happens but that a descriptor is given up. -/
theorem perform_of_released (released : context.released = true) {action : ContextAction}
    (asked : (Action.context id action).ending? = none) :
    ∃ error, held.perform (.context id action) =
        .done (.failed error, { held with host := action.forfeit held.host }) ∧
      (action.outlook true).Allows (.failed error) := by
  have refuses := fails_released "Context"
  have refused := holding_of_released released held.host
  have unanswered {α : Type} (question : Boundary → Option Nat → Outcome α) :
      context.ask held.host question = .done (.error (.released "Context"), held.host) :=
    Context.ask_of_released released question
  cases action with
  | home =>
      simp only [perform, found, performOnContext, Context.home, unanswered, Outcome.done_bind]
      exact ⟨_, rfl, refuses⟩
  | policy =>
      simp only [perform, found, performOnContext, Context.policy, unanswered, Outcome.done_bind]
      exact ⟨_, rfl, refuses⟩
  | ephemeral =>
      simp only [perform, found, performOnContext, Context.ephemeral, unanswered,
        Outcome.done_bind]
      exact ⟨_, rfl, refuses⟩
  | release => cases asked
  | drop => cases asked
  | openReader path =>
      rw [ContextAction.outlook, outlookOfPath]
      split
      · next nul => exact ⟨_, perform_open_of_nul found nul (Or.inl rfl), _, rfl, rfl⟩
      · next clean =>
          obtain ⟨text, given, -⟩ := pathArgument_of_clean clean
          simp only [perform, found, performOnContext, Reader.ofPath, given, refused,
            Outcome.done_bind]
          exact ⟨_, rfl, refuses⟩
  | readerOverDescriptor handed =>
      simp only [perform, found, performOnContext, Reader.ofDescriptor, refused,
        Outcome.done_bind]
      exact ⟨_, rfl, refuses⟩
  | readerOverBytes data =>
      simp only [perform, found, performOnContext, Reader.ofBytes, refused, Outcome.done_bind]
      exact ⟨_, rfl, refuses⟩
  | openWriter path =>
      rw [ContextAction.outlook, outlookOfPath]
      split
      · next nul => exact ⟨_, perform_open_of_nul found nul (Or.inr rfl), _, rfl, rfl⟩
      · next clean =>
          obtain ⟨text, given, -⟩ := pathArgument_of_clean clean
          simp only [perform, found, performOnContext, Writer.ofPath, given, refused,
            Outcome.done_bind]
          exact ⟨_, rfl, refuses⟩
  | writerOverDescriptor handed =>
      simp only [perform, found, performOnContext, Writer.ofDescriptor, refused,
        Outcome.done_bind]
      exact ⟨_, rfl, refuses⟩
  | writerOverMemory region =>
      simp only [perform, found, performOnContext, Writer.ofMemory, refused, Outcome.done_bind]
      exact ⟨_, rfl, refuses⟩
  | allocatingWriter =>
      simp only [perform, found, performOnContext, Writer.allocating, refused, Outcome.done_bind]
      exact ⟨_, rfl, refuses⟩

theorem ends_of_released (released : context.released = true) (action : ContextAction) :
    held.Ends (.context id action) (action.outlook true) := by
  by_cases asked : (Action.context id action).ending? = none
  · obtain ⟨error, performed, allows⟩ := perform_of_released found released asked
    exact ⟨_, _, performed, allows⟩
  · rw [ends_context_iff found]
    cases action with
    | release =>
        simp only [performOnContext, Context.release, released, if_true, Outcome.done_bind]
        exact ⟨_, _, rfl, trivial⟩
    | drop =>
        simp only [performOnContext, Context.drop, Context.release, released, if_true,
          Outcome.done_bind]
        exact ⟨_, _, rfl, trivial⟩
    | _ => exact absurd rfl asked

variable (sound : Sound held.custody) (unreleased : context.released = false)

include sound unreleased

/-- The session is there, and its home can be told. -/
theorem exists_session :
    ∃ state record, held.host.shares.get? context.share = some state ∧
      held.host.boundary.contexts.get? state.session = some record ∧ 0 ∉ record.home := by
  have paired := Paired.of_context sound found unreleased rfl
  obtain ⟨state, shared⟩ := sound.exists_share (Custody.holds_of_claim paired.live)
  obtain ⟨record, live, clean⟩ := sound.session context.share state shared
  exact ⟨state, record, shared, live, clean⟩

/-- A reader is made if that works out behind the boundary. -/
theorem perform_source_tells (source : Source) :
    ∃ answer after, held.perform (.context id source.action) = .done (answer, after) ∧
      answer.Tells (source.attempt held.host.boundary).1 := by
  have paired := Paired.of_context sound found unreleased rfl
  have performed := perform_source paired.context source
  cases attempted : source.attempt held.host.boundary with
  | mk answer boundary =>
      rw [attempted, Reader.adopt] at performed
      cases answer with
      | ok number =>
          rw [adopt_ok] at performed
          exact ⟨_, _, performed, trivial⟩
      | error fault =>
          obtain ⟨host, adopted, -⟩ := adopt_error sound (Custody.holds_of_claim paired.live)
            "Reader" Handle.reader
            (fun handle => ({ handle, share := context.share } : Reader)) fault boundary
          rw [adopted] at performed
          exact ⟨_, _, performed, fails_reporting fault⟩

theorem perform_destination_tells (destination : Destination) :
    ∃ answer after, held.perform (.context id destination.action) = .done (answer, after) ∧
      answer.Tells (destination.attempt held.host.boundary).1 := by
  have paired := Paired.of_context sound found unreleased rfl
  by_cases fallible : destination = .growing
  · subst fallible
    exact ⟨_, _, perform_growing paired.context, trivial⟩
  · have performed := perform_destination paired.context destination fallible
    cases attempted : destination.attempt held.host.boundary with
    | mk answer boundary =>
        rw [attempted, Writer.adopt] at performed
        cases answer with
        | ok number =>
            rw [adopt_ok] at performed
            exact ⟨_, _, performed, trivial⟩
        | error fault =>
            obtain ⟨host, adopted, -⟩ := adopt_error sound (Custody.holds_of_claim paired.live)
              "Writer" Handle.writer
              (fun handle => ({ handle, share := context.share } : Writer)) fault boundary
            rw [adopted] at performed
            exact ⟨_, _, performed, fails_reporting fault⟩

theorem ends_source (source : Source) {outlook : Outlook}
    (allows : ∀ answer, answer.Tells (source.attempt held.host.boundary).1 →
      outlook.Allows answer) : held.Ends (.context id source.action) outlook := by
  obtain ⟨answer, after, performed, tells⟩ := perform_source_tells found sound unreleased source
  exact ⟨answer, after, performed, allows answer tells⟩

theorem ends_destination (destination : Destination) {outlook : Outlook}
    (allows : ∀ answer, answer.Tells (destination.attempt held.host.boundary).1 →
      outlook.Allows answer) : held.Ends (.context id destination.action) outlook := by
  obtain ⟨answer, after, performed, tells⟩ :=
    perform_destination_tells found sound unreleased destination
  exact ⟨answer, after, performed, allows answer tells⟩

theorem ends_of_held (action : ContextAction) :
    held.Ends (.context id action) (action.outlook false) := by
  obtain ⟨state, record, shared, live, clean⟩ := exists_session found sound unreleased
  have claimed : held.custody.claim? (.context id) = context.claim? := by
    simp [custody, claim?, found]
  cases action with
  | home =>
      have asked := Context.home_of_live unreleased shared live clean
      rw [ends_context_iff found]
      simp only [performOnContext, asked, Outcome.done_bind]
      exact ⟨_, _, rfl, trivial⟩
  | policy =>
      have asked := Context.policy_of_live unreleased shared live
      rw [ends_context_iff found]
      simp only [performOnContext, asked, Outcome.done_bind]
      exact ⟨_, _, rfl, trivial⟩
  | ephemeral =>
      have asked := Context.ephemeral_of_live unreleased shared live
      rw [ends_context_iff found]
      simp only [performOnContext, asked, Outcome.done_bind]
      exact ⟨_, _, rfl, trivial⟩
  | release =>
      obtain ⟨host, released, -⟩ := Context.release_spec sound claimed
      rw [host_custody] at released
      rw [ends_context_iff found]
      simp only [performOnContext, released, Outcome.done_bind]
      exact ⟨_, _, rfl, trivial⟩
  | drop =>
      obtain ⟨host, dropped, -⟩ := Context.drop_spec sound claimed
      rw [host_custody] at dropped
      rw [ends_context_iff found]
      simp only [performOnContext, dropped, Outcome.done_bind]
      exact ⟨_, _, rfl, trivial⟩
  | openReader path =>
      rw [ContextAction.outlook, outlookOfPath]
      split
      · next nul => exact (ends_of_nul found nul).1
      · next clean =>
          obtain ⟨text, -, rfl⟩ := pathArgument_of_clean clean
          exact ends_source found sound unreleased (.file text)
            fun answer tells => tells_tryOpenReader tells
  | readerOverDescriptor handed =>
      exact ends_source found sound unreleased (.descriptor handed)
        fun answer tells => tells_checkDescriptor tells
  | readerOverBytes data =>
      exact ends_source found sound unreleased (.bytes data) fun answer tells => tells
  | openWriter path =>
      rw [ContextAction.outlook, outlookOfPath]
      split
      · next nul => exact (ends_of_nul found nul).2
      · next clean =>
          obtain ⟨text, -, rfl⟩ := pathArgument_of_clean clean
          exact ends_destination found sound unreleased (.file text)
            fun answer tells => tells_tryOpenWriter tells
  | writerOverDescriptor handed =>
      exact ends_destination found sound unreleased (.descriptor handed)
        fun answer tells => tells_checkDescriptor tells
  | writerOverMemory region =>
      exact ends_destination found sound unreleased (.memory region)
        fun answer tells => tells_view tells
  | allocatingWriter =>
      exact ends_destination found sound unreleased .growing fun answer tells => tells

end

theorem ends_context (sound : Sound held.custody) {context : Context}
    (found : held.contexts.get? id = some context) (action : ContextAction) :
    held.Ends (.context id action) (action.outlook context.released) := by
  cases released : context.released with
  | true => exact ends_of_released found released action
  | false => exact ends_of_held found sound released action

theorem ends_reader (sound : Sound held.custody) {reader : Reader}
    (found : held.readers.get? id = some reader) (action : ReaderAction) :
    held.Ends (.reader id action) (action.outlook reader.closed) := by
  have claimed : held.custody.claim? (.reader id) = reader.claim? := by
    simp [custody, claim?, found]
  rw [Ends, perform, found]
  cases action with
  | read count =>
      cases closed : reader.closed with
      | true =>
          simp only [performOnReader, Reader.read, closed, if_true, Outcome.done_bind]
          exact ⟨_, _, rfl, fails_released "Reader"⟩
      | false =>
          obtain ⟨source, live⟩ := Reader.exists_source sound closed claimed
          rw [host_custody] at live
          have succeeds (data : Bytes) : (Answer.bytes data).Succeeded := trivial
          simp only [performOnReader, Reader.read_eq closed live, Outcome.done_bind]
          exact ⟨_, _, rfl, tells_tryRead (tells_ofExcept succeeds _)⟩
  | close =>
      obtain ⟨host, closed, -⟩ := Reader.close_spec sound claimed
      rw [host_custody] at closed
      simp only [performOnReader, closed, Outcome.done_bind]
      exact ⟨_, _, rfl, trivial⟩
  | drop =>
      obtain ⟨host, dropped, -⟩ := Reader.drop_spec sound claimed
      rw [host_custody] at dropped
      simp only [performOnReader, dropped, Outcome.done_bind]
      exact ⟨_, _, rfl, trivial⟩

theorem ends_writer (sound : Sound held.custody) {writer : Writer}
    (found : held.writers.get? id = some writer) (action : WriterAction) :
    held.Ends (.writer id action) (action.outlook writer.closed writer.sink.isSome) := by
  have claimed : held.custody.claim? (.writer id) = writer.claim? := by
    simp [custody, claim?, found]
  rw [Ends, perform, found]
  cases action with
  | write data =>
      cases closed : writer.closed with
      | true =>
          simp only [performOnWriter, Writer.write, closed, if_true, Outcome.done_bind]
          exact ⟨_, _, rfl, fails_released "Writer"⟩
      | false =>
          obtain ⟨target, live⟩ := Writer.exists_target sound closed claimed
          rw [host_custody] at live
          have succeeds (taken : Nat) : (Answer.count taken).Succeeded := trivial
          simp only [performOnWriter, Writer.write_eq closed live, Outcome.done_bind]
          exact ⟨_, _, rfl, Answer.Tells.allows (tells_ofExcept succeeds _)⟩
  | flush =>
      cases closed : writer.closed with
      | true =>
          simp only [performOnWriter, Writer.flush, closed, if_true, Outcome.done_bind]
          exact ⟨_, _, rfl, fails_released "Writer"⟩
      | false =>
          obtain ⟨target, live⟩ := Writer.exists_target sound closed claimed
          rw [host_custody] at live
          have succeeds (_ : Unit) : Answer.nothing.Succeeded := trivial
          simp only [performOnWriter, Writer.flush, closed, Bool.false_eq_true, if_false,
            Writer.flushOpen_eq live, Outcome.done_bind]
          exact ⟨_, _, rfl, Answer.Tells.allows (tells_ofExcept succeeds _)⟩
  | close =>
      obtain ⟨host, closed, -⟩ := Writer.close_spec sound claimed
      rw [host_custody] at closed
      simp only [performOnWriter, closed, Outcome.done_bind]
      exact ⟨_, _, rfl, trivial⟩
  | drop =>
      obtain ⟨host, dropped, -⟩ := Writer.drop_spec sound claimed
      rw [host_custody] at dropped
      simp only [performOnWriter, dropped, Outcome.done_bind]
      exact ⟨_, _, rfl, trivial⟩
  | harvest =>
      cases there : writer.sink with
      | none =>
          obtain ⟨host, dropped, -⟩ := Writer.drop_spec sound claimed
          rw [host_custody] at dropped
          simp only [performOnWriter, Writer.harvest, there, dropped, Outcome.done_bind]
          exact ⟨_, _, rfl, _, rfl, rfl⟩
      | some sink => 
          obtain ⟨middle, closed, -⟩ := Writer.close_spec sound claimed
          rw [host_custody] at closed
          obtain ⟨host, dropped⟩ := Writer.drop_of_closed { writer with closed := true } rfl middle
          simp only [there] at dropped closed
          simp only [performOnWriter, Writer.harvest, there, closed, dropped, Outcome.done_bind]
          exact ⟨_, _, rfl, trivial⟩

/-- What is foreseen is all that comes. -/
theorem Ends.kind_ne {action : Action} {outlook : Outlook} (ends : held.Ends action outlook)
    (known : outlook.Known) {error : Error} {after : Holdings}
    (failed : held.perform action = .done (.failed error, after)) : error.kind ≠ .unknown := by
  obtain ⟨answer, _, performed, allows⟩ := ends
  rw [performed] at failed
  cases failed
  exact known.kind_ne allows

theorem kind_ne_unknown (sound : Sound held.custody) {action : Action} {error : Error}
    {after : Holdings} (failed : held.perform action = .done (.failed error, after)) :
    error.kind ≠ .unknown := by
  cases action with
  | build config =>
      exact (ends_build held config).kind_ne (known_outlookOfHome config.home) failed
  | context id action =>
      cases found : held.contexts.get? id with
      | none =>
          rw [perform, found] at failed
          cases failed
      | some context =>
          exact (ends_context sound found action).kind_ne (action.known_outlook _) failed
  | reader id action =>
      cases found : held.readers.get? id with
      | none =>
          rw [perform, found] at failed
          cases failed
      | some reader =>
          exact (ends_reader sound found action).kind_ne (action.known_outlook _) failed
  | writer id action =>
      cases found : held.writers.get? id with
      | none =>
          rw [perform, found] at failed
          cases failed
      | some writer =>
          exact (ends_writer sound found action).kind_ne (action.known_outlook _ _) failed

end Holdings

/-- Whatever a program did before: what it does next ends as foreseen, and never with a failure of
an unknown kind. -/
theorem failures_classified (world : World) (earlier : List Action) :
    ∃ answers held, (Holdings.start world).run earlier = .done (answers, held) ∧
      (∀ settings : List Engine.Setting,
        held.Ends (.build (.chosen settings)) (outlookOfHome (Engine.lastHome? settings))) ∧
      (∀ id context, held.contexts.get? id = some context → ∀ action : ContextAction,
        held.Ends (.context id action) (action.outlook context.released)) ∧
      (∀ id reader, held.readers.get? id = some reader → ∀ action : ReaderAction,
        held.Ends (.reader id action) (action.outlook reader.closed)) ∧
      (∀ id writer, held.writers.get? id = some writer → ∀ action : WriterAction,
        held.Ends (.writer id action) (action.outlook writer.closed writer.sink.isSome)) ∧
      ∀ action error after, held.perform action = .done (.failed error, after) →
        error.kind ≠ .unknown := by
  obtain ⟨answers, held, ran, sound⟩ := Holdings.run_sound world earlier
  refine ⟨answers, held, ran, ?_, ?_, ?_, ?_, ?_⟩
  · intro settings
    rw [← Config.home_chosen]
    exact Holdings.ends_build held (.chosen settings)
  · intro id context found action
    exact Holdings.ends_context sound found action
  · intro id reader found action
    exact Holdings.ends_reader sound found action
  · intro id writer found action
    exact Holdings.ends_writer sound found action
  · intro action error after failed
    exact Holdings.kind_ne_unknown sound failed

end SessionStreams.Host
