import AssignLang.Command.Invocation
import AssignLang.Command.ReadFailure
import AssignLang.FrontEnd.Direct
import AssignLang.Lexical.Stream

/-! What the program prints. Each file has a report of its own, and a failure of one file does not
keep the others from theirs. The exit code is 0 if all went well, 1 if a file failed, and 2 if the
arguments ask for nothing that can be done. -/
namespace AssignLang.Command
set_option autoImplicit false

structure Report where
  output : String
  complaints : String
  failed : Bool
deriving DecidableEq

namespace Report

def empty : Report := ⟨"", "", false⟩

def append (a b : Report) : Report :=
  ⟨a.output ++ b.output, a.complaints ++ b.complaints, a.failed || b.failed⟩

/-- A complaint about a file is one line behind its path. -/
def complaint (path message : String) : Report :=
  ⟨"", path ++ ": " ++ message ++ "\n", true⟩

end Report

/-! ## One file -/

def tokenLine (t : Token) : String :=
  "- " ++ t.kind.name ++ " " ++ Text.Quoted.string t.text ++ " @" ++ t.position.text ++ "\n"

/-- The tokens of a text under its path, one line for each, the terminal one included. -/
def listing (path text : String) : String :=
  path ++ ":\n" ++ String.join ((Lexical.stream path text).map tokenLine)

def listTokens (path text : String) : Report :=
  let listed : Report := ⟨listing path text, "", false⟩
  match Lexical.error? path text with
  | some error => listed.append (.complaint path error.message)
  | none => listed

def printProgram (path text : String) : Report :=
  match parse path text with
  | .ok program => ⟨program.block ++ "\n", "", false⟩
  | .error error => .complaint path error.message

def Task.report (task : Task) (path : String) : Except ReadFailure String → Report
  | .error failure => .complaint path failure.message
  | .ok text =>
    match task with
    | tokens => listTokens path text
    | parse => printProgram path text

/-! ## All files -/

def Task.reportAll (task : Task) (read : String → Except ReadFailure String)
    (paths : List String) : Report :=
  paths.foldr (fun path rest => (task.report path (read path)).append rest) .empty

structure Outcome where
  exitCode : Nat
  output : String
  complaints : String
deriving DecidableEq

namespace Outcome

def usage : String :=
  "Usage: zoidberg <command> [files...]\n" ++
  "\n" ++
  "Commands:\n" ++
  "  tokens  Print the token stream of each file\n" ++
  "  parse   Print the parsed program of each file\n" ++
  "\n" ++
  "Examples:\n" ++
  "  zoidberg tokens num.berg\n" ++
  "  zoidberg parse num.berg\n"

def misuse (complaints : String) : Outcome :=
  ⟨2, "", complaints⟩

def ofReport (r : Report) : Outcome :=
  ⟨if r.failed then 1 else 0, r.output, r.complaints⟩

end Outcome

def Invocation.outcome (read : String → Except ReadFailure String) : Invocation → Outcome
  | usage => .misuse Outcome.usage
  | unknownTask name => .misuse ("Unknown command: " ++ name ++ "\n")
  | noFiles => .misuse "Error: no files specified\n"
  | run task paths => .ofReport (task.reportAll read paths)

/-- What the program does with these arguments, given what reading each path gives. -/
def run (read : String → Except ReadFailure String) (arguments : List String) : Outcome :=
  (Invocation.ofArguments arguments).outcome read

end AssignLang.Command
