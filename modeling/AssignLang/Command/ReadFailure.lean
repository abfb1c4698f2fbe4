/-! Failures to read a file as text, in the words that the program prints for them. -/
namespace AssignLang.Command
set_option autoImplicit false

/-- The program looks at nothing but the message, and any text may be one. -/
structure ReadFailure where
  message : String
deriving DecidableEq

namespace ReadFailure

/-- A failure that the system tells by a number, with the words that it has for it. -/
def system (description : String) (code : Nat) : ReadFailure :=
  ⟨description ++ " (os error " ++ code.repr ++ ")"⟩

def notFound : ReadFailure := system "No such file or directory" 2

/-- The bytes are not the UTF-8 form of a text. -/
def notText : ReadFailure := ⟨"stream did not contain valid UTF-8"⟩

end ReadFailure

/-- The text of a file. A byte order mark is a character like any other. -/
def textOfBytes (bytes : ByteArray) : Except ReadFailure String :=
  match String.fromUTF8? bytes with
  | some text => .ok text
  | none => .error .notText

end AssignLang.Command
