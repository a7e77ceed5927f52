import SessionStreams.Text.Quoted

set_option autoImplicit false

/- The errors of the engine, and the policies with their numbers. Main statement: the number of a
policy leads back to it (`ofCode_code`). -/

namespace SessionStreams.Engine

inductive Error where
  | invalidArgument (text : String)
  | invalidOperation (text : String)
deriving DecidableEq

namespace Error

def message : Error → String
  | .invalidArgument text => "Invalid argument: " ++ text
  | .invalidOperation text => "Invalid operation: " ++ text

def listing : Error → String
  | .invalidArgument text => "InvalidArgument(" ++ Text.quoted text ++ ")"
  | .invalidOperation text => "InvalidOperation(" ++ Text.quoted text ++ ")"

end Error

/-- How background servers are started. -/
inductive Policy where
  | external
  | internal
  | robust
deriving DecidableEq

namespace Policy

instance : Inhabited Policy := ⟨robust⟩

def label : Policy → String
  | .external => "External"
  | .internal => "Internal"
  | .robust => "Robust"

def code : Policy → UInt8
  | .external => 0
  | .internal => 1
  | .robust => 2

def badPolicy (code : Int) : String := "Bad IPC policy: " ++ toString code

def ofCode (code : UInt8) : Except Error Policy :=
  if code = 0 then .ok .external
  else if code = 1 then .ok .internal
  else if code = 2 then .ok .robust
  else .error (.invalidArgument (badPolicy code.toNat))

@[simp] theorem ofCode_code (policy : Policy) : ofCode policy.code = .ok policy := by
  cases policy <;> rfl

end Policy

end SessionStreams.Engine
