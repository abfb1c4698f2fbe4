import AssignLang.Diagnostic
import AssignLang.Text.Quoted

/-! Lexical errors: the two ways in which a text can fail to be a sequence of tokens. -/
namespace AssignLang.Lexical
set_option autoImplicit false

inductive Fault
  /-- The text ends inside a quoted string. -/
  | unterminatedString
  /-- No token begins with this character. -/
  | unexpectedCharacter (found : Char)
deriving DecidableEq

def Fault.description : Fault → String
  | unterminatedString => "unterminated string"
  | unexpectedCharacter found => "unexpected character: " ++ Text.Quoted.char found

/-- The position is that of the character itself, or of the quote that opens the string. -/
abbrev Error := Diagnostic Fault

def Error.message (e : Error) : String :=
  Diagnostic.message Fault.description e

end AssignLang.Lexical
