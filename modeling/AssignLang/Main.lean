import AssignLang.Command.Report

/-! The program: reads the files that the arguments name, prints what there is to print and exits
with the code that says how it went. -/
namespace AssignLang.Command
set_option autoImplicit false

/-- A failed call of the system in the terms of the reports. -/
def readFailure : IO.Error → ReadFailure
  | .alreadyExists _ code details | .otherError code details | .resourceBusy code details
  | .resourceVanished code details | .unsupportedOperation code details
  | .hardwareFault code details | .unsatisfiedConstraints code details
  | .illegalOperation code details | .protocolError code details | .timeExpired code details
  | .interrupted _ code details | .noFileOrDirectory _ code details
  | .invalidArgument _ code details | .permissionDenied _ code details
  | .resourceExhausted _ code details | .inappropriateType _ code details
  | .noSuchThing _ code details => .system details code.toNat
  | .unexpectedEof => ⟨"unexpected end of file"⟩
  | .userError details => ⟨details⟩

def readPath (path : String) : IO (Except ReadFailure String) := do
  try
    return textOfBytes (← IO.FS.withFile path .read fun handle => handle.readBinToEnd)
  catch e =>
    return .error (readFailure e)

end AssignLang.Command

open AssignLang.Command in
def main (arguments : List String) : IO UInt32 := do
  let invocation := Invocation.ofArguments arguments
  let contents ← invocation.paths.mapM fun path => do return (path, ← readPath path)
  let outcome := invocation.outcome fun path => (contents.lookup path).getD (.error .notFound)
  IO.print outcome.output
  IO.eprint outcome.complaints
  return outcome.exitCode.toUInt32
