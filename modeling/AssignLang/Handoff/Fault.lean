/-! Why a handoff stopped giving tokens. -/
namespace AssignLang.Handoff
set_option autoImplicit false

/-- Why a thread could not be started. -/
inductive StartFailure
  | outOfMemory
  | wouldBlock
  | permissionDenied
deriving DecidableEq

def StartFailure.description : StartFailure → String
  | outOfMemory => "out of memory"
  | wouldBlock => "operation would block"
  | permissionDenied => "permission denied"

inductive Fault
  /-- The consumer called it off. -/
  | cancelled
  /-- The producer came to the end of its stream. -/
  | closed
  /-- The deadline passed before the next token arrived. -/
  | deadlineExceeded
  /-- The producer never ran. -/
  | notStarted (reason : StartFailure)
deriving DecidableEq

def Fault.message : Fault → String
  | cancelled => "token conduit was cancelled"
  | closed => "token conduit is closed"
  | deadlineExceeded => "deadline exceeded waiting for the next token"
  | notStarted reason => "failed to start lexer thread: " ++ reason.description

end AssignLang.Handoff
