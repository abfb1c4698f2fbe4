import AssignLang.Position

/-! Diagnostics: what is wrong with a text, in which file, and where. -/
namespace AssignLang
set_option autoImplicit false

structure Diagnostic (Fault : Type) where
  fault : Fault
  filename : String
  position : Position
deriving DecidableEq

namespace Diagnostic

/-- One line: the fault in words, then the file with the position in it. -/
def message {Fault : Type} (describe : Fault → String) (d : Diagnostic Fault) : String :=
  describe d.fault ++ " at " ++ d.filename ++ ":" ++ d.position.text

end Diagnostic

end AssignLang
