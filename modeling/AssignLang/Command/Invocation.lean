/-! What the arguments of the program ask for. -/
namespace AssignLang.Command
set_option autoImplicit false

inductive Task
  /-- List the tokens of each file. -/
  | tokens
  /-- Print the program of each file. -/
  | parse
deriving DecidableEq

def Task.ofName? : String → Option Task
  | "tokens" => some tokens
  | "parse" => some parse
  | _ => none

inductive Invocation
  | usage
  | unknownTask (name : String)
  | noFiles
  | run (task : Task) (paths : List String)
deriving DecidableEq

namespace Invocation

/-- Only the first argument can ask for help; after a task every argument is a path. -/
def ofArguments : List String → Invocation
  | [] => usage
  | name :: paths =>
    if name = "--help" ∨ name = "-h" then usage
    else match Task.ofName? name with
      | none => unknownTask name
      | some task => if paths.isEmpty then noFiles else run task paths

def paths : Invocation → List String
  | run _ paths => paths
  | _ => []

end Invocation

end AssignLang.Command
