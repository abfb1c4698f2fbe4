import AssignLang.Lexical.Scanner

/-! The tokens of a whole text. A stream always ends with one terminal token; a text is lexically
sound if that token is the end of the file. -/
namespace AssignLang.Lexical
set_option autoImplicit false

/-- Every token of a text, the terminal one included. -/
def stream (filename text : String) : List Token :=
  (Scanner.ofText filename text).drain.1

/-- The error that ends the stream of a text, if one does. -/
def error? (filename text : String) : Option Error :=
  (Scanner.ofText filename text).drain.2.error

/-- The stream of a sound text, or else the error that ends it. -/
def tokens (filename text : String) : Except Error (List Token) :=
  match error? filename text with
  | some e => .error e
  | none => .ok (stream filename text)

theorem tokens_eq_ok_iff (filename text : String) (given : List Token) :
    tokens filename text = .ok given ↔
      error? filename text = none ∧ stream filename text = given := by
  unfold tokens
  split
  next e failed => simp [failed]
  next sound => simp [sound]

theorem tokens_eq_error_iff (filename text : String) (e : Error) :
    tokens filename text = .error e ↔ error? filename text = some e := by
  unfold tokens
  split
  next e' failed => simp [failed]
  next sound => simp [sound]

end AssignLang.Lexical
