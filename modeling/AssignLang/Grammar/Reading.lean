import AssignLang.Token

/-! Readings: computations that ask for tokens one at a time, and stop asking when they have their
answer. A reading does not know where its tokens come from, so one reading serves a list, a scanner
and a scanner at work elsewhere. -/
namespace AssignLang.Grammar
set_option autoImplicit false

inductive Reading (α : Type)
  | done (answer : α)
  | ask (resume : Option Token → Reading α)

namespace Reading

/-- Answers each question by the next token of a source, none when the source is over. -/
def run {α σ : Type} (next : σ → Option Token × σ) : Reading α → σ → α × σ
  | done answer, source => (answer, source)
  | ask resume, source => (resume (next source).1).run next (next source).2

@[simp] theorem run_done {α σ : Type} (next : σ → Option Token × σ) (answer : α) (source : σ) :
    (done answer).run next source = (answer, source) := rfl

@[simp] theorem run_ask {α σ : Type} (next : σ → Option Token × σ)
    (resume : Option Token → Reading α) (source : σ) :
    (ask resume).run next source = (resume (next source).1).run next (next source).2 := rfl

/-- A list as a source of tokens. -/
def pop : List Token → Option Token × List Token
  | [] => (none, [])
  | token :: rest => (some token, rest)

end Reading

end AssignLang.Grammar
