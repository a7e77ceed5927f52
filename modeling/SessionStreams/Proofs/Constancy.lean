import SessionStreams.Proofs.Choices
import SessionStreams.Proofs.Neighbours
import SessionStreams.Proofs.Safety
import SessionStreams.Proofs.Sentinels

set_option autoImplicit false

/- What a session tells stays the same. A host program may take any turns
(`Host.Holdings.Attends.proceed`) and callers behind the boundary may make any deals
(`Boundary.contexts_dealAll`): as long as they do not give up a context, it keeps its session. With
it goes that a configuration behind the boundary keeps what it was told until it is used up
(`Boundary.configs_dealAll`). -/

namespace SessionStreams

namespace Host

open Boundary (Outcome)

/-- An object that is not ended keeps its claim. -/
theorem Performed.claim_stays {held after : Holdings} {action : Action} {answer : Answer}
    (performed : Performed held action answer after) {address : Address} {claim : Claim}
    (claimed : held.custody.claim? address = some claim)
    (stays : action.ends? answer ≠ some address) : after.custody.claim? address = some claim := by
  have known : held.Known address := by
    by_contra unknown
    cases (Holdings.claim?_of_unknown unknown).symm.trans claimed
  cases performed with
  | kept => exact claimed
  | @opened _ _ other _ _ _ _ _ fresh renewed _ =>
      have apart : address ≠ other := by
        rintro rfl
        exact fresh known
      rw [renewed.custody, Custody.claim?_put, if_neg apart, claimed]
  | @ended other _ ends _ renewed _ =>
      have apart : address ≠ other := by
        rintro rfl
        exact stays ends
      rw [renewed.custody, Custody.claim?_put, if_neg apart, claimed]
  | began _ _ renewed _ =>
      have apart : address ≠ .context held.contexts.fresh := by
        rintro rfl
        exact Nat.lt_irrefl _ known
      rw [renewed.custody, Custody.claim?_put, if_neg apart, claimed]

namespace Holdings

/-- What the context with this number tells. -/
structure Tells (held : Holdings) (id : Nat) (session : Engine.Session) : Prop where
  home : ∃ after, held.perform (.context id .home) = .done (.path session.home, after)
  policy : ∃ after, held.perform (.context id .policy) = .done (.policy session.policy, after)
  ephemeral :
    ∃ after, held.perform (.context id .ephemeral) = .done (.flag session.ephemeral, after)

/-- The context has a share, which is of this session. -/
def Attends (held : Holdings) (id : Nat) (session : Engine.Session) : Prop :=
  ∃ share number, held.custody.claim? (.context id) = some { share } ∧
    Tied number session (some share) held.custody

end Holdings

/-- The context with this number is given up. -/
def Turn.GivesUp (turn : Turn) (id : Nat) : Prop :=
  turn = .act (.context id .release) ∨ turn = .act (.context id .drop)

theorem Action.ending?_eq_context {action : Action} {id : Nat}
    (ends : action.ending? = some (.context id)) : (Turn.act action).GivesUp id := by
  cases action with
  | build config => cases ends
  | reader number asked => cases asked <;> cases ends
  | writer number asked => cases asked <;> cases ends
  | context number asked =>
      cases asked <;> cases ends
      · exact Or.inl rfl
      · exact Or.inr rfl

namespace Holdings

variable {held : Holdings} {id : Nat} {session : Engine.Session}

theorem context_of_claim {share : Nat}
    (claimed : held.custody.claim? (.context id) = some { share }) :
    held.contexts.get? id = some { share } := by
  obtain ⟨context, found, mine⟩ := Option.bind_eq_some_iff.mp claimed
  obtain ⟨number, released⟩ := context
  cases released with
  | true => cases mine
  | false =>
      cases mine
      exact found

theorem Attends.tells (attends : held.Attends id session) (sound : Sound held.custody) :
    held.Tells id session := by
  obtain ⟨share, number, claimed, tied⟩ := attends
  -- Who claims a share holds it, so the share is there, and with it the session it is tied to.
  obtain ⟨state, shared⟩ := sound.exists_share (Custody.holds_of_claim claimed)
  obtain ⟨record, live, clean⟩ := sound.session share state shared
  have found := context_of_claim claimed
  rw [host_custody] at shared live
  obtain rfl : record = session := by
    rw [(tied.shared share state shared).mpr rfl] at live
    exact tied.same record live
  let context : Context := { share }
  have home : context.home held.host = _ := Context.home_of_live rfl shared live clean
  have policy : context.policy held.host = _ := Context.policy_of_live rfl shared live
  have ephemeral : context.ephemeral held.host = _ := Context.ephemeral_of_live rfl shared live
  have performs (action : ContextAction) :
      held.perform (.context id action) = held.performOnContext id context action := by
    simp only [perform, found, context]
  let after : Holdings := { held with host := held.host.note (.used (.context state.session)) }
  refine ⟨⟨after, ?_⟩, ⟨after, ?_⟩, ⟨after, ?_⟩⟩
  · rw [performs, performOnContext, home]
    rfl
  · rw [performs, performOnContext, policy]
    rfl
  · rw [performs, performOnContext, ephemeral]
    rfl

/-- Whole reads and writes give nothing up. -/
theorem claim?_through {after : Holdings} {α β : Type} {object : Option α}
    {use : α → Host → Outcome (β × Host)} (done : held.through object use = .done after) :
    after.custody.claim? = held.custody.claim? := by
  cases object with
  | none =>
      cases done
      rfl
  | some found =>
      simp only [through] at done
      cases used : use found held.host with
      | done result =>
          rw [used] at done
          cases done
          rfl
      | aborted message =>
          rw [used] at done
          cases done
      | undefined =>
          rw [used] at done
          cases done

theorem claim?_take (sound : Sound held.custody) {turn : Turn} {after : Holdings}
    (done : held.take turn = .done after) {claim : Claim}
    (claimed : held.custody.claim? (.context id) = some claim) (keeps : ¬ turn.GivesUp id) :
    after.custody.claim? (.context id) = some claim := by
  cases turn with
  | act action =>
      obtain ⟨answer, other, performs, performed⟩ := perform_spec sound action
      rw [take, performs] at done
      cases done
      refine performed.claim_stays claimed fun ends => ?_
      apply keeps
      apply Action.ending?_eq_context
      unfold Action.ends? at ends
      split at ends
      · cases ends
      · exact ends
  | change world =>
      cases done
      exact claimed
  | readExactly reader count => exact (congrFun (claim?_through done) _).trans claimed
  | readLoop reader count => exact (congrFun (claim?_through done) _).trans claimed
  | readToEnd reader =>
      rw [take] at done
      exact (congrFun (claim?_through done) _).trans claimed
  | readText reader => exact (congrFun (claim?_through done) _).trans claimed
  | writeAll writer data => exact (congrFun (claim?_through done) _).trans claimed

/-- To whom a session belongs does not depend on the world. -/
theorem tied_inWorld {number : Nat} {owner : Option Nat} (held : Holdings) (world : World)
    (tied : Tied number session owner held.custody) :
    Tied number session owner (held.inWorld world).custody :=
  ⟨tied.issued, tied.same, tied.shared, tied.known, tied.unowned⟩

theorem Attends.take (attends : held.Attends id session) (sound : Sound held.custody)
    {turn : Turn} (keeps : ¬ turn.GivesUp id) :
    ∃ after, held.take turn = .done after ∧ Sound after.custody ∧ after.Attends id session := by
  obtain ⟨share, number, claimed, tied⟩ := attends
  obtain ⟨after, taken, still, ties⟩ :=
    take_spec (kept_tied number session (some share)) tied_inWorld sound tied turn
  exact ⟨after, taken, still, share, number, claim?_take sound taken claimed keeps, ties⟩

/-- A context attends to its session for as long as it is not given up. -/
theorem Attends.proceed (attends : held.Attends id session) (sound : Sound held.custody)
    {turns : List Turn} (keeps : ∀ turn ∈ turns, ¬ turn.GivesUp id) :
    ∃ after, held.proceed turns = .done after ∧ Sound after.custody ∧ after.Attends id session := by
  induction turns generalizing held with
  | nil => exact ⟨held, rfl, sound, attends⟩
  | cons turn rest ih =>
      obtain ⟨middle, taken, still, attending⟩ := attends.take sound (keeps turn List.mem_cons_self)
      obtain ⟨after, further, last⟩ :=
        ih attending still fun later among => keeps later (List.mem_cons_of_mem _ among)
      refine ⟨after, ?_, last⟩
      rw [Holdings.proceed, taken, Outcome.done_bind, further]

/-- A context that was just built attends to the session that was started. -/
theorem attends_of_build (sound : Sound held.custody) {config : Config}
    (clean : ∀ path, config.home = some path → 0 ∉ path) {world : World}
    (started : (config.settings held.world).build held.world = (.ok session, world)) :
    ∃ after, held.perform (.build config) = .done (.made held.contexts.fresh, after) ∧
      after.world = world ∧ Sound after.custody ∧ after.Attends held.contexts.fresh session := by
  obtain ⟨configs, built⟩ := Config.build_of_ok clean started
  obtain ⟨answer, after, done, performed⟩ := perform_spec sound (.build config)
  have still := performed.sound sound
  simp only [perform, built, Outcome.done_bind, keepContext] at done
  cases done
  let share : Share := { session := held.host.boundary.contexts.fresh, holders := 1 }
  have shared := Arena.get?_alloc_self held.host.shares share
  have live := Arena.get?_alloc_self held.host.boundary.contexts session
  obtain ⟨owner, tied, -⟩ := Sound.exists_tied still live
  have mine : owner = some held.host.shares.fresh :=
    (tied.shared held.host.shares.fresh share shared).mp rfl
  rw [mine] at tied
  refine ⟨_, by simp only [perform, built, Outcome.done_bind, keepContext], rfl, still,
    held.host.shares.fresh, held.host.boundary.contexts.fresh, ?_, tied⟩
  rw [claim?_context (Arena.get?_alloc_self held.contexts _)]
  rfl

end Holdings

end Host

namespace Boundary

/-- What callers do behind the boundary, and what else happens in the world. -/
inductive Deal where
  | configure
  | set (config : Nat) (setter : Setter)
  | discardConfig (config : Nat)
  | call (slot : ErrorSlot) (call : Call)
  | growingWriter (buffer length : Nat)
  | freeContext (context : Nat)
  | freeReader (reader : Nat)
  | freeWriter (writer : Nat)
  | change (world : World)

def deal (boundary : Boundary) : Deal → Outcome Boundary
  | .configure => .done boundary.configure.2
  | .set config setter => boundary.set config setter
  | .discardConfig config => boundary.discardConfig config
  | .call slot call => do
      let reply ← call.make slot boundary
      .done reply.after
  | .growingWriter buffer length => do
      let (_, after) ← boundary.growingWriter (some buffer) (some length)
      .done after
  | .freeContext context => boundary.freeContext (some context)
  | .freeReader reader => boundary.freeReader (some reader)
  | .freeWriter writer => boundary.freeWriter (some writer)
  | .change world => .done { boundary with world }

def dealAll (boundary : Boundary) : List Deal → Outcome Boundary
  | [] => .done boundary
  | deal :: rest => do
      let after ← boundary.deal deal
      after.dealAll rest

/-- What the configuration with this number is told. -/
def Deal.told? (id : Nat) : Deal → Option Setter
  | .set config setter => if config = id then some setter else none
  | _ => none

def toldTo (id : Nat) (deals : List Deal) : List Setter := deals.filterMap (Deal.told? id)

/-- The configuration with this number is used up. -/
def Deal.UsesUp (id : Nat) (deal : Deal) : Prop :=
  deal = .discardConfig id ∨ ∃ slot, deal = .call slot (.buildContext id)

theorem exists_of_bind {α β : Type} {first : Outcome α} {next : α → Outcome β} {last : β}
    (done : (first >>= next) = .done last) :
    ∃ middle, first = .done middle ∧ next middle = .done last := by
  cases first with
  | done middle => exact ⟨middle, rfl, done⟩
  | aborted message => cases done
  | undefined => cases done

theorem exists_of_live {α β : Type} {object : Option α} {next : α → Outcome β} {last : β}
    (done : (Outcome.live object >>= next) = .done last) :
    ∃ found, object = some found ∧ next found = .done last := by
  cases object with
  | none => cases done
  | some found => exact ⟨found, rfl, done⟩

variable {boundary after : Boundary}

/-- Sessions and configurations are the same. -/
def Spares (before after : Boundary) : Prop :=
  after.contexts = before.contexts ∧ after.configs = before.configs

theorem spares_tryOpenReader (boundary : Boundary) (path : Path) :
    boundary.Spares (boundary.tryOpenReader path).2 := by
  unfold tryOpenReader
  split
  · exact ⟨rfl, rfl⟩
  · exact ⟨rfl, rfl⟩

theorem spares_tryOpenWriter (boundary : Boundary) (path : Path) :
    boundary.Spares (boundary.tryOpenWriter path).2 := by
  unfold tryOpenWriter
  split
  · exact ⟨rfl, rfl⟩
  · exact ⟨rfl, rfl⟩

theorem spares_tryAdd {α : Type} (boundary : Boundary) (checked : Except Fault α)
    {add : α → Nat × Boundary} (spares : ∀ value, boundary.Spares (add value).2) :
    boundary.Spares (boundary.tryAdd checked add).2 := by
  cases checked with
  | error fault => exact ⟨rfl, rfl⟩
  | ok value => exact spares value

theorem spares_tryRead (boundary : Boundary) (id : Nat) (reader : Reader) (room : Room) :
    boundary.Spares (boundary.tryRead id reader room).2 := by
  unfold tryRead
  split
  · exact ⟨rfl, rfl⟩
  · split
    · exact ⟨rfl, rfl⟩
    · exact ⟨rfl, rfl⟩

theorem spares_tryWrite (boundary : Boundary) (id : Nat) (writer : Writer) (data : Loan) :
    boundary.Spares (boundary.tryWrite id writer data).2 := by
  unfold tryWrite
  split
  · exact ⟨rfl, rfl⟩
  · exact ⟨rfl, rfl⟩

theorem spares_of_pack {α β : Type} {wrap : α → Result} {slot : ErrorSlot} {succeeded : β → α}
    {failed : Fault → α} {attempt : Except Fault β × Boundary} {reply : Reply Result}
    (made : Call.pack wrap (.done (conclude slot succeeded failed attempt)) = .done reply)
    (spares : boundary.Spares attempt.2) : boundary.Spares reply.after := by
  rw [Call.pack_conclude] at made
  cases made
  rw [Host.conclude_after]
  exact spares

/-- A call that builds nothing leaves sessions and configurations alone. -/
theorem Call.spares {call : Call} {slot : ErrorSlot} {reply : Reply Result}
    (made : call.make slot boundary = .done reply) (other : ∀ config, call ≠ .buildContext config) :
    boundary.Spares reply.after := by
  cases call with
  | buildContext config => exact absurd rfl (other config)
  | openReader path => exact spares_of_pack made (spares_tryOpenReader boundary path.path)
  | openWriter path => exact spares_of_pack made (spares_tryOpenWriter boundary path.path)
  | readerOverDescriptor fd =>
      exact spares_of_pack made (spares_tryAdd boundary _ fun _ => ⟨rfl, rfl⟩)
  | readerOverBytes data =>
      exact spares_of_pack made (spares_tryAdd boundary _ fun _ => ⟨rfl, rfl⟩)
  | writerOverDescriptor fd =>
      exact spares_of_pack made (spares_tryAdd boundary _ fun _ => ⟨rfl, rfl⟩)
  | writerOverMemory region =>
      exact spares_of_pack made (spares_tryAdd boundary _ fun _ => ⟨rfl, rfl⟩)
  | read id room =>
      obtain ⟨answer, done, -⟩ := exists_of_bind made
      simp only [Boundary.read, Outcome.require, Outcome.done_bind] at done
      obtain ⟨reader, live, -⟩ := exists_of_live done
      simp only [make, Boundary.read, Outcome.require, Outcome.done_bind, live, Outcome.live] at made
      exact spares_of_pack made (spares_tryRead boundary id reader room)
  | write id data =>
      obtain ⟨answer, done, -⟩ := exists_of_bind made
      simp only [Boundary.write, Outcome.require, Outcome.done_bind] at done
      obtain ⟨writer, live, -⟩ := exists_of_live done
      simp only [make, Boundary.write, Outcome.require, Outcome.done_bind, live, Outcome.live] at made
      exact spares_of_pack made (spares_tryWrite boundary id writer data)
  | flush id =>
      obtain ⟨answer, done, -⟩ := exists_of_bind made
      simp only [Boundary.flush, Outcome.require, Outcome.done_bind] at done
      obtain ⟨writer, live, -⟩ := exists_of_live done
      simp only [make, Boundary.flush, Outcome.require, Outcome.done_bind, live, Outcome.live] at made
      exact spares_of_pack made ⟨rfl, rfl⟩

theorem buildContext_cases {slot : ErrorSlot} {config : Nat} {reply : Reply Result}
    (made : (Call.buildContext config).make slot boundary = .done reply) :
    reply.after.configs = boundary.configs.release config ∧
      ∀ id session, boundary.contexts.get? id = some session →
        reply.after.contexts.get? id = some session := by
  obtain ⟨answer, done, -⟩ := exists_of_bind made
  simp only [buildContext, Outcome.require, Outcome.done_bind] at done
  obtain ⟨asked, live, -⟩ := exists_of_live done
  rw [Call.make, buildContext_eq boundary live, concludeHandle, Call.pack_conclude] at made
  cases made
  rw [Host.conclude_after]
  rcases asked.start_cases { boundary with configs := boundary.configs.release config } with
    ⟨fault, started⟩ | ⟨failure, world, -, started⟩ | ⟨session, world, -, started⟩
  · rw [started]
    exact ⟨rfl, fun _ _ live => live⟩
  · rw [started]
    exact ⟨rfl, fun _ _ live => live⟩
  · rw [started]
    exact ⟨rfl, fun _ _ live => Arena.get?_alloc_of_get? session live⟩

theorem set_cases {config : Nat} {setter : Setter}
    (done : boundary.set config setter = .done after) :
    ∃ old, boundary.configs.get? config = some old ∧
      after = { boundary with configs := boundary.configs.set config (old.follow setter) } := by
  rw [set_eq] at done
  simp only [changeConfig, Outcome.require, Outcome.done_bind] at done
  obtain ⟨old, found, rest⟩ := exists_of_live done
  exact ⟨old, found, (Outcome.done.inj rest).symm⟩

variable {deal : Deal}

/-- A session is the same for as long as its context is not given up. -/
theorem contexts_deal (done : boundary.deal deal = .done after) {id : Nat}
    {session : Engine.Session} (live : boundary.contexts.get? id = some session)
    (keeps : deal ≠ .freeContext id) : after.contexts.get? id = some session := by
  cases deal with
  | configure =>
      cases done
      exact live
  | set config setter =>
      obtain ⟨old, -, rfl⟩ := set_cases done
      exact live
  | discardConfig config =>
      obtain ⟨old, -, rest⟩ := exists_of_bind done
      cases rest
      exact live
  | call slot call =>
      obtain ⟨reply, made, rest⟩ := exists_of_bind done
      cases rest
      by_cases builds : ∃ config, call = .buildContext config
      · obtain ⟨config, rfl⟩ := builds
        exact (buildContext_cases made).2 id session live
      · have spares := Call.spares made fun config same => builds ⟨config, same⟩
        rw [spares.1]
        exact live
  | growingWriter buffer length =>
      cases done
      exact live
  | freeContext other =>
      obtain ⟨old, -, rest⟩ := exists_of_bind done
      cases rest
      have apart : id ≠ other := by
        rintro rfl
        exact keeps rfl
      exact (Arena.get?_release_ne _ apart).trans live
  | freeReader reader =>
      obtain ⟨old, -, rest⟩ := exists_of_bind done
      cases rest
      exact live
  | freeWriter writer =>
      obtain ⟨old, -, rest⟩ := exists_of_bind done
      cases rest
      exact live
  | change world =>
      cases done
      exact live

/-- A configuration takes what it is told, and nothing else befalls it until it is used up. -/
theorem configs_deal (done : boundary.deal deal = .done after) {id : Nat} {config : Config}
    (live : boundary.configs.get? id = some config) (keeps : ¬ deal.UsesUp id) :
    after.configs.get? id = some ((deal.told? id).elim config config.follow) := by
  cases deal with
  | configure =>
      cases done
      exact Arena.get?_alloc_of_get? _ live
  | set other setter =>
      obtain ⟨old, found, rfl⟩ := set_cases done
      rw [Deal.told?]
      by_cases same : other = id
      · subst same
        cases live.symm.trans found
        rw [if_pos rfl]
        exact Arena.get?_set_self _ live
      · rw [if_neg same]
        exact (Arena.get?_set_ne _ _ (Ne.symm same)).trans live
  | discardConfig other =>
      obtain ⟨old, -, rest⟩ := exists_of_bind done
      cases rest
      have apart : id ≠ other := by
        rintro rfl
        exact keeps (Or.inl rfl)
      exact (Arena.get?_release_ne _ apart).trans live
  | call slot call =>
      obtain ⟨reply, made, rest⟩ := exists_of_bind done
      cases rest
      by_cases builds : ∃ other, call = .buildContext other
      · obtain ⟨other, rfl⟩ := builds
        have apart : id ≠ other := by
          rintro rfl
          exact keeps (Or.inr ⟨slot, rfl⟩)
        rw [(buildContext_cases made).1]
        exact (Arena.get?_release_ne _ apart).trans live
      · have spares := Call.spares made fun config same => builds ⟨config, same⟩
        rw [spares.2]
        exact live
  | growingWriter buffer length =>
      cases done
      exact live
  | freeContext other =>
      obtain ⟨old, -, rest⟩ := exists_of_bind done
      cases rest
      exact live
  | freeReader reader =>
      obtain ⟨old, -, rest⟩ := exists_of_bind done
      cases rest
      exact live
  | freeWriter writer =>
      obtain ⟨old, -, rest⟩ := exists_of_bind done
      cases rest
      exact live
  | change world =>
      cases done
      exact live

theorem contexts_dealAll {deals : List Deal} (done : boundary.dealAll deals = .done after) {id : Nat}
    {session : Engine.Session} (live : boundary.contexts.get? id = some session)
    (keeps : ∀ deal ∈ deals, deal ≠ .freeContext id) :
    after.contexts.get? id = some session := by
  induction deals generalizing boundary with
  | nil =>
      cases done
      exact live
  | cons deal rest ih =>
      obtain ⟨middle, first, further⟩ := exists_of_bind done
      have still := contexts_deal first live (keeps deal List.mem_cons_self)
      exact ih further still fun later among => keeps later (List.mem_cons_of_mem _ among)

theorem configs_dealAll {deals : List Deal} (done : boundary.dealAll deals = .done after) {id : Nat}
    {config : Config} (live : boundary.configs.get? id = some config)
    (keeps : ∀ deal ∈ deals, ¬ deal.UsesUp id) :
    after.configs.get? id = some ((toldTo id deals).foldl Config.follow config) := by
  induction deals generalizing boundary config with
  | nil =>
      cases done
      exact live
  | cons deal rest ih =>
      obtain ⟨middle, first, further⟩ := exists_of_bind done
      have still := configs_deal first live (keeps deal List.mem_cons_self)
      rw [ih further still fun later among => keeps later (List.mem_cons_of_mem _ among),
        toldTo, toldTo, List.filterMap_cons]
      cases deal.told? id <;> rfl

/-- A context tells of its session for as long as it is not given up. -/
theorem tells_dealAll {deals : List Deal} (done : boundary.dealAll deals = .done after)
    {context : Nat} {session : Engine.Session}
    (live : boundary.contexts.get? context = some session) (clean : 0 ∉ session.home)
    (keeps : ∀ deal ∈ deals, deal ≠ .freeContext context) : after.Tells context session :=
  tells_of_live (contexts_dealAll done live keeps) clean

end Boundary

end SessionStreams
