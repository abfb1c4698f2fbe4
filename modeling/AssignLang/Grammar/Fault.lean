import AssignLang.Diagnostic
import AssignLang.Token

/-! Grammar errors: the ways in which a sequence of tokens can fail to be a program. -/
namespace AssignLang.Grammar
set_option autoImplicit false

inductive Fault
  /-- A token that does not fit where it stands. -/
  | unexpected (found : TokenKind) (text : String)
  /-- The tokens stop short, without a terminal one. -/
  | endOfStream
  /-- A number that is no 32-bit integer. -/
  | invalidInteger (text : String)
deriving DecidableEq

/-- A token without a text is named by its kind alone. -/
def Fault.description : Fault → String
  | unexpected found text =>
    "unexpected " ++ found.description ++ if text.isEmpty then "" else " '" ++ text ++ "'"
  | endOfStream => "unexpected end of token stream"
  | invalidInteger text => "invalid integer literal '" ++ text ++ "'"

/-- The position is that of the token at fault, or of the last one read where the tokens stop. -/
abbrev Error := Diagnostic Fault

def Error.message (e : Error) : String :=
  Diagnostic.message Fault.description e

end AssignLang.Grammar
