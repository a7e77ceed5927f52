import SessionStreams.Boundary.Basic

set_option autoImplicit false

/- Entry points for sessions: configurations that remember their first fault, contexts that hold a
session, and what can be asked of them. -/

namespace SessionStreams.Boundary

/-- A new configuration with the defaults of this moment. -/
def configure (boundary : Boundary) : Nat × Boundary :=
  (boundary.configs.fresh,
    { boundary with
      configs := boundary.configs.alloc { settings := .initial boundary.world } })

def changeConfig (boundary : Boundary) (config : Option Nat) (change : Config → Config) :
    Outcome Boundary := do
  let id ← Outcome.require "cfg" config
  let old ← Outcome.live (boundary.configs.get? id)
  .done { boundary with configs := boundary.configs.set id (change old) }

def setHome (boundary : Boundary) (config : Option Nat) (home : Option Terminated) :
    Outcome Boundary := do
  let id ← Outcome.require "cfg" config
  let home ← Outcome.require "home" home
  boundary.changeConfig (some id) (·.adjust (.home home.path))

/-- The policy with a given number, which may be any the caller's integers can hold. -/
def policyOf (code : Int) : Except Engine.Error Engine.Policy :=
  if 0 ≤ code ∧ code < 256 then Engine.Policy.ofCode (UInt8.ofNat code.toNat)
  else .error (.invalidArgument (Engine.Policy.badPolicy code))

/-- Sets the policy; a number without a policy is remembered as a fault. -/
def Config.choosePolicy (config : Config) (code : Int) : Config :=
  match policyOf code with
  | .ok policy => config.adjust (.policy policy)
  | .error error => config.remember (.ofEngine error)

def setPolicy (boundary : Boundary) (config : Option Nat) (code : Int) : Outcome Boundary :=
  boundary.changeConfig config (·.choosePolicy code)

def setEphemeral (boundary : Boundary) (config : Option Nat) : Outcome Boundary :=
  boundary.changeConfig config (·.adjust .ephemeral)

/-- Starts the session that a configuration asks for, unless a fault was remembered. -/
def Config.start (config : Config) (boundary : Boundary) : Except Fault Nat × Boundary :=
  match config.firstFault with
  | some fault => (.error fault, boundary)
  | none =>
      match config.settings.build boundary.world with
      | (.error failure, world) => (.error (.ofIo failure), { boundary with world })
      | (.ok session, world) =>
          (.ok boundary.contexts.fresh,
            { boundary with world, contexts := boundary.contexts.alloc session })

/-- Uses up a configuration and returns a context. -/
def buildContext (boundary : Boundary) (slot : ErrorSlot) (config : Option Nat) :
    Outcome (Reply (Option Nat)) := do
  let id ← Outcome.require "cfg" config
  let config ← Outcome.live (boundary.configs.get? id)
  let boundary := { boundary with configs := boundary.configs.release id }
  .done (concludeHandle slot (config.start boundary))

/-- Ends a context's session; nothing happens without a context. -/
def freeContext (boundary : Boundary) (context : Option Nat) : Outcome Boundary :=
  match context with
  | none => .done boundary
  | some id => do
      let session ← Outcome.live (boundary.contexts.get? id)
      .done { boundary with
        world := session.close boundary.world
        contexts := boundary.contexts.release id }

/-- Gives up a configuration that was not used. -/
def discardConfig (boundary : Boundary) (config : Nat) : Outcome Boundary := do
  let _ ← Outcome.live (boundary.configs.get? config)
  .done { boundary with configs := boundary.configs.release config }

def session (boundary : Boundary) (context : Option Nat) : Outcome Engine.Session := do
  let id ← Outcome.require "ctx" context
  Outcome.live (boundary.contexts.get? id)

def contextHome (boundary : Boundary) (context : Option Nat) : Outcome Terminated := do
  let session ← boundary.session context
  copyOut "home" session.home

def contextPolicy (boundary : Boundary) (context : Option Nat) : Outcome Int := do
  let session ← boundary.session context
  .done session.policy.code.toNat

def contextEphemeral (boundary : Boundary) (context : Option Nat) : Outcome Bool := do
  let session ← boundary.session context
  .done session.ephemeral

end SessionStreams.Boundary
