import AssignLang.Text.Outline
import AssignLang.Text.Quoted
import AssignLang.Token

/-! Tokens written out with all their parts. -/
namespace AssignLang
set_option autoImplicit false

def Position.outline (p : Position) : Text.Outline :=
  .record "Span".toList
    [("line".toList, .atom p.line.repr.toList), ("column".toList, .atom p.column.repr.toList)]

def Token.outline (t : Token) : Text.Outline :=
  .record "Token".toList
    [("kind".toList, .atom t.kind.name.toList),
      ("text".toList, .atom (Text.Quoted.string t.text).toList),
      ("span".toList, t.position.outline)]

/-- The whole token on one line. -/
def Token.inline (t : Token) : String :=
  String.ofList t.outline.inline

end AssignLang
