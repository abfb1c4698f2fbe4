/-! Positions in a text: a line and a column, both counted from one. A line break starts the next
line; every other character, a tab and a carriage return among them, takes one column. -/
namespace AssignLang
set_option autoImplicit false

structure Position where
  line : Nat
  column : Nat
deriving DecidableEq

namespace Position

/-- The position of the first character of a text. -/
def start : Position := ⟨1, 1⟩

/-- The position of the character that follows a `c` at this position. -/
def next (p : Position) (c : Char) : Position :=
  if c = '\n' then ⟨p.line + 1, 1⟩ else ⟨p.line, p.column + 1⟩

/-- The position of the character that follows a whole text that begins at this position. -/
def after (p : Position) (text : List Char) : Position :=
  text.foldl next p

def text (p : Position) : String :=
  p.line.repr ++ ":" ++ p.column.repr

@[simp] theorem after_nil (p : Position) : p.after [] = p := rfl

@[simp] theorem after_cons (p : Position) (c : Char) (text : List Char) :
    p.after (c :: text) = (p.next c).after text := rfl

theorem after_append (p : Position) (s t : List Char) :
    p.after (s ++ t) = (p.after s).after t := List.foldl_append

end Position

end AssignLang
