import AssignLang.Grammar.Fault
import AssignLang.Grammar.Reading
import AssignLang.Tree.Node

/-! The grammar: a program is one assignment, an identifier, an equals sign and a number. Nothing
after the number is read. -/
namespace AssignLang.Grammar
set_option autoImplicit false

/-- A reading that can fail. -/
abbrev Attempt (α : Type) := Reading (Except Error α)

namespace Attempt

def fail {α : Type} (fault : Fault) (filename : String) (position : Position) : Attempt α :=
  .done (.error ⟨fault, filename, position⟩)

def refuse {α : Type} (filename : String) (token : Token) : Attempt α :=
  fail (.unexpected token.kind token.text) filename token.position

/-- Goes on with the next token; `last` is where the one before it stood. -/
def read {α : Type} (filename : String) (last : Position) (resume : Token → Attempt α) :
    Attempt α :=
  .ask fun
    | some token => resume token
    | none => fail .endOfStream filename last

/-- Goes on with the next token if it is of the given kind. -/
def expect {α : Type} (kind : TokenKind) (filename : String) (last : Position)
    (resume : Token → Attempt α) : Attempt α :=
  read filename last fun token =>
    if token.kind = kind then resume token else refuse filename token

end Attempt

def program (filename : String) : Attempt Program :=
  .expect .identifier filename .start fun target =>
  .expect .assign filename target.position fun sign =>
  .expect .number filename sign.position fun number =>
  match Text.Numeral.int32? number.text.toList with
  | some value => .done (.ok ⟨[.assignment target.text (.integer value)]⟩)
  | none => .fail (.invalidInteger number.text) filename number.position

/-- Reads one program from a list of tokens and gives it with the tokens that are unread. -/
def parse (filename : String) (tokens : List Token) : Except Error Program × List Token :=
  (program filename).run Reading.pop tokens

end AssignLang.Grammar
