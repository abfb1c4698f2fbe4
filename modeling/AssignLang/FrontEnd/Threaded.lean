import AssignLang.FrontEnd.Error
import AssignLang.Handoff.Session

/-! From a text to its program with the scanner on a thread of its own. -/
namespace AssignLang
set_option autoImplicit false

/-- What is told of a reading, by the fault that it left on record and the error that the scanner
met. A deadline that cut the tokens short is told first, then the error of the scanner. -/
def conclude (result : Except Grammar.Error Program) (fault : Option Handoff.Fault)
    (error : Option Lexical.Error) : Except Error Program :=
  result.mapError fun refused =>
    match fault, error with
    | some .deadlineExceeded, _ => .handoff .deadlineExceeded
    | _, some error => .lexical error
    | _, none => .grammar refused

@[simp] theorem conclude_ok (program : Program) (fault : Option Handoff.Fault)
    (error : Option Lexical.Error) : conclude (.ok program) fault error = .ok program := rfl

@[simp] theorem conclude_cut (refused : Grammar.Error) (error : Option Lexical.Error) :
    conclude (.error refused) (some .deadlineExceeded) error =
      .error (.handoff .deadlineExceeded) := rfl

@[simp] theorem conclude_lexical (refused : Grammar.Error) (error : Lexical.Error) :
    conclude (.error refused) none (some error) = .error (.lexical error) := rfl

@[simp] theorem conclude_grammar (refused : Grammar.Error) :
    conclude (.error refused) none none = .error (.grammar refused) := rfl

/-- The program of a text under any schedule of the two threads, with the session as it stands in
the end. The producer is stopped and its thread is over before the answer is there. -/
def runThreaded (schedule : Handoff.Schedule) (deadline : Handoff.Deadline)
    (filename text : String) : Except Error Program × Handoff.Session :=
  let (result, session) := (Handoff.Session.start schedule deadline filename text).parse filename
  let fault := session.state.fault
  let (error, session) := session.join
  (conclude result fault error, session)

def parseThreaded (schedule : Handoff.Schedule) (deadline : Handoff.Deadline)
    (filename text : String) : Except Error Program :=
  (runThreaded schedule deadline filename text).1

end AssignLang
