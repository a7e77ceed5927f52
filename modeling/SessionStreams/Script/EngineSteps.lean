import SessionStreams.Script.Basic

set_option autoImplicit false

/- Steps on sessions that are used without a host, and the plans by which all sessions are set up.
-/

namespace SessionStreams.Script

open Boundary (Outcome)
open Engine (Policy Session Setting Settings)

/-- One move on the way to a session. -/
inductive Plan where
  | home (path : Data)
  | policy (policy : Policy)
  | ephemeral
  /-- Goes on with a copy of the settings, which is equal to them. -/
  | copy
  | setVariable (home : Bool) (value : Data)

/-- Follows a plan: `adjust` changes the settings, and variables change the world. -/
def followPlan {α : Type} (adjust : α → Setting → α) (machine : Machine) (settings : α) :
    List Plan → Option (α × Machine)
  | [] => some (settings, machine)
  | .home path :: rest => do
      let path ← path.eval machine
      followPlan adjust machine (adjust settings (.home path)) rest
  | .policy policy :: rest => followPlan adjust machine (adjust settings (.policy policy)) rest
  | .ephemeral :: rest => followPlan adjust machine (adjust settings .ephemeral) rest
  | .copy :: rest => followPlan adjust machine settings rest
  | .setVariable home value :: rest => do
      let value ← value.eval machine
      followPlan adjust (machine.withWorld (machine.world.setVariable home value)) settings rest

/-- Steps on sessions that are used without a host. -/
inductive EngineStep where
  | new (slot : String)
  | build (slot : String) (plan : List Plan)
  | query (slot : String)

def summaryOf (machine : Machine) (session : Session) : Summary :=
  { home := session.home
    homeIsDirectory := machine.world.isDirectory session.home
    policy := .policy session.policy
    ephemeral := session.ephemeral
    listing := some session.listing }

namespace EngineStep

def start (machine : Machine) (slot : String) (settings : Settings) :
    Outcome (Answer × Machine) :=
  match settings.build machine.world with
  | (.error failure, world) => .done (.failed failure, machine.withWorld world)
  | (.ok session, world) => do
      let machine ← (machine.withWorld world).place slot (.session session)
      .done (.summary (summaryOf machine session), machine)

def effect (machine : Machine) : EngineStep → Effect
  | .new slot => some (start machine slot (.initial machine.world))
  | .build slot plan => do
      let (settings, machine) ← followPlan Settings.adjust machine (.initial machine.world) plan
      some do
        let (answer, machine) ← start machine slot settings
        .done (.configured settings.listing answer, machine)
  | .query slot =>
      match machine.find? slot with
      | some (.session session) => unchanged machine (.summary (summaryOf machine session))
      | _ => none

end EngineStep

end SessionStreams.Script
