import SessionStreams.Boundary.Terminated

set_option autoImplicit false

/- Entry points for errors that were stored in a slot. -/

namespace SessionStreams.Boundary

def errorStatus (fault : Option Fault) : Outcome Status := do
  let fault ← Outcome.require "error" fault
  .done fault.status

def errorText (fault : Option Fault) : Outcome Terminated := do
  let fault ← Outcome.require "error" fault
  copyOut "message" (Text.encode fault.message)

/-- Gives up an error; nothing happens without one. -/
def freeError (_ : Option Fault) : Outcome Unit := .done ()

end SessionStreams.Boundary
