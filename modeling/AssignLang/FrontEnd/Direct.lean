import AssignLang.FrontEnd.Error
import AssignLang.Grammar.Statement
import AssignLang.Lexical.Scanner

/-! From a text to its program on one thread. The grammar asks the scanner for tokens as it needs
them, so what follows the first statement is never scanned. -/
namespace AssignLang
set_option autoImplicit false

/-- Reads one program from the tokens that are left. -/
def Lexical.Scanner.parse (s : Scanner) (filename : String) :
    Except Grammar.Error Program × Scanner :=
  (Grammar.program filename).run next s

/-- The program of a text. Where the scanner has met an error the grammar was refused for it, so the
error of the scanner is the one to tell. -/
def parse (filename text : String) : Except Error Program :=
  let (result, scanner) := (Lexical.Scanner.ofText filename text).parse filename
  result.mapError fun refused =>
    match scanner.error with
    | some error => .lexical error
    | none => .grammar refused

end AssignLang
