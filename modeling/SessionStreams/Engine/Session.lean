import SessionStreams.Engine.Policy
import SessionStreams.World.Directories

set_option autoImplicit false

/- Sessions: a home directory, a policy, and for ephemeral sessions a temporary home that is removed
when the session ends. -/

namespace SessionStreams.Engine

structure Settings where
  home : Path
  policy : Policy := default
  ephemeral : Bool := false
deriving DecidableEq

structure Session where
  home : Path
  policy : Policy
  ephemeral : Bool
  /-- The directory that goes with the session. -/
  temporary : Option Path := none
deriving DecidableEq

/-- One adjustment of the settings. -/
inductive Setting where
  | home (path : Path)
  | policy (policy : Policy)
  | ephemeral
deriving DecidableEq

def listing (home : Path) (policy : Policy) (ephemeral : Bool) : String :=
  "Context \x7b home: " ++ Text.quotedBytes home ++ ", ipc_policy: " ++ policy.label ++
    ", ephemeral: " ++ toString ephemeral ++ " \x7d"

namespace Settings

/-- Where sessions live unless a home is set. -/
def defaultHome (world : World) : Path := Path.join world.userHome (Text.encode ".sequoia")

def initial (world : World) : Settings := { home := defaultHome world }

def adjust (settings : Settings) : Setting → Settings
  | .home path => { settings with home := path }
  | .policy policy => { settings with policy }
  | .ephemeral => { settings with ephemeral := true }

def listing (settings : Settings) : String :=
  "Config(" ++ Engine.listing settings.home settings.policy settings.ephemeral ++ ")"

/-- Starts a session. Its home is made if it is missing; an ephemeral session gets a fresh home,
whatever home was set. -/
def build (settings : Settings) (world : World) : Except IoFailure Session × World :=
  if settings.ephemeral then
    match world.makeTemporary with
    | .error failure => (.error failure, world)
    | .ok (path, after) =>
        (.ok { home := path, policy := settings.policy, ephemeral := true, temporary := some path },
          after)
  else
    match world.makeDirectories settings.home with
    | (.error failure, after) => (.error failure, after)
    | (.ok _, after) =>
        (.ok { home := settings.home, policy := settings.policy, ephemeral := false }, after)

end Settings

namespace Session

def listing (session : Session) : String :=
  Engine.listing session.home session.policy session.ephemeral

/-- Ends the session. The home of an ephemeral session goes with all that is in it; if that fails,
it stays. -/
def close (session : Session) (world : World) : World :=
  match session.temporary with
  | none => world
  | some path =>
      match world.removeDirectory path with
      | .error _ => world
      | .ok after => after

end Session

end SessionStreams.Engine
