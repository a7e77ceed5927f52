import SessionStreams.Host.Basic

set_option autoImplicit false

/- Contexts: configured on the host side without any effect, built in one go, and released once. -/

namespace SessionStreams.Host

open Boundary (Outcome)
open Engine (Policy)

def policyNumber : Policy → Int
  | .external => 0
  | .internal => 1
  | .robust => 2

def policyOf (number : Int) : Except Error Policy :=
  if number = 0 then .ok .external
  else if number = 1 then .ok .internal
  else if number = 2 then .ok .robust
  else .error ⟨.invalidArgument, Policy.badPolicy number⟩

@[simp] theorem policyOf_policyNumber (policy : Policy) :
    policyOf (policyNumber policy) = .ok policy := by
  cases policy <;> rfl

/-- Settings for a context. Without a home, the default at the time of building is used. -/
structure Config where
  home : Option Path := none
  policy : Policy := default
  ephemeral : Bool := false
deriving DecidableEq

/-- A holder of a session, until it is released. -/
structure Context where
  share : Nat
  released : Bool := false
deriving DecidableEq

namespace Config

def adjust (config : Config) : Engine.Setting → Config
  | .home path => { config with home := some path }
  | .policy policy => { config with policy }
  | .ephemeral => { config with ephemeral := true }

def listing (config : Config) : String :=
  let home :=
    match config.home with
    | none => "None"
    | some path => "Some(" ++ Text.quotedBytes path ++ ")"
  "Config \x7b home: " ++ home ++ ", ipc_policy: " ++ config.policy.label ++
    ", ephemeral: " ++ toString config.ephemeral ++ " \x7d"

/-- The home as the boundary takes it. -/
def homeArgument (config : Config) : Except Error (Option Boundary.Terminated) :=
  match config.home with
  | none => .ok none
  | some path => (pathArgument path).map some

/-- Hands the settings over to a new configuration behind the boundary. -/
def handOver (config : Config) (home : Option Boundary.Terminated) (boundary : Boundary) :
    Outcome (Nat × Boundary) := do
  let (id, boundary) := boundary.configure
  let boundary ←
    match home with
    | none => Outcome.done boundary
    | some text => boundary.setHome (some id) (some text)
  let boundary ← boundary.setPolicy (some id) (policyNumber config.policy)
  let boundary ← if config.ephemeral then boundary.setEphemeral (some id) else .done boundary
  .done (id, boundary)

/-- Starts a session. A home that cannot cross the boundary is refused before anything happens. -/
def build (config : Config) (host : Host) : Outcome (Except Error Context × Host) :=
  match config.homeArgument with
  | .error error => .done (.error error, host)
  | .ok home => do
      let (id, boundary) ← config.handOver home host.boundary
      let reply ← boundary.buildContext .empty (some id)
      let host := { host with boundary := reply.after }
      let made ← examine "Context" (fun result => result) reply
      match made with
      | .error error => .done (.error error, host)
      | .ok session =>
          let share := host.shares.fresh
          .done (.ok { share },
            { host with shares := host.shares.alloc { session, holders := 1 } }.note
              (.acquired (.context session) share))

end Config

namespace Context

/-- Asks the boundary about the session of a context that has not been released. -/
def ask {α : Type} (context : Context) (host : Host) (question : Boundary → Option Nat → Outcome α) :
    Outcome (Except Error α × Host) :=
  if context.released then .done (.error (.released "Context"), host)
  else do
    let share ← Outcome.live (host.shares.get? context.share)
    let answer ← question host.boundary (some share.session)
    .done (.ok answer, host.note (.used (.context share.session)))

def home (context : Context) (host : Host) : Outcome (Except Error Path × Host) := do
  let (answer, host) ← context.ask host Boundary.contextHome
  .done (answer.map (·.path), host)

def policy (context : Context) (host : Host) : Outcome (Except Error Policy × Host) := do
  let (answer, host) ← context.ask host Boundary.contextPolicy
  .done (answer.bind policyOf, host)

def ephemeral (context : Context) (host : Host) : Outcome (Except Error Bool × Host) :=
  context.ask host Boundary.contextEphemeral

/-- Lets the session go. Only the first call has an effect. -/
def release (context : Context) (host : Host) : Outcome (Context × Host) :=
  if context.released then .done (context, host)
  else do
    let host ← host.letGo context.share
    .done ({ context with released := true }, host)

/-- The end of a context releases it. -/
def drop (context : Context) (host : Host) : Outcome Host := do
  let (_, host) ← context.release host
  .done host

/-- The host with one more holder of the context's session. -/
def holding (context : Context) (host : Host) : Except Error Host :=
  if context.released then .error (.released "Context") else .ok (host.hold context.share)

def listing (context : Context) : String :=
  let handle :=
    if context.released then "None"
    else "Some(" ++ ownedListing "Context" false false ++ ")"
  "Context \x7b handle: " ++ handle ++ " \x7d"

end Context

end SessionStreams.Host
