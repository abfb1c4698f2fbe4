import AssignLang.Grammar.Fault
import AssignLang.Handoff.Fault
import AssignLang.Lexical.Fault

/-! The errors of the front end: each stage has its own. -/
namespace AssignLang
set_option autoImplicit false

inductive Error
  | lexical (error : Lexical.Error)
  | grammar (error : Grammar.Error)
  | handoff (fault : Handoff.Fault)
deriving DecidableEq

def Error.message : Error → String
  | lexical error => error.message
  | grammar error => error.message
  | handoff fault => fault.message

end AssignLang
