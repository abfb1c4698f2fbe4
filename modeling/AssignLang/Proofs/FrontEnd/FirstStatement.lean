import AssignLang.Proofs.FrontEnd.EagerAgreement
import AssignLang.Proofs.Grammar.TokenList
import AssignLang.Proofs.Lexical.Ending
import AssignLang.Proofs.Lexical.LineBreak
import AssignLang.Proofs.Lexical.LookAhead

/-! What comes behind the first statement. The tokens of a text up to its last one are those of every
longer text that goes on behind a line break (`Munches.exists_last`), and a reading that has not come
to the last one gives the same answer on all of them (`run_pop_append`). The last token itself is
settled only if it is an unexpected character: the end of a text and a string without an end are
not. Main statement: `parse_append_newline`. -/
namespace AssignLang
open Lexical (stream error?)
set_option autoImplicit false

/-! ## The tokens of the longer text -/

namespace Lexical

/-- An unexpected character is the last token whatever comes behind it. -/
theorem Munches.append_of_unexpected {filename : String} {place : Position} {text : List Char}
    {last : Token} {e : Error} {c : Char} (h : Munches filename place text [last] (some e))
    (unexpected : e.fault = .unexpectedCharacter c) (more : List Char) :
    Munches filename place (text ++ more) [last] (some e) := by
  cases h with
  | lexeme _ _ behind => exact absurd rfl behind.tokens_ne_nil
  | unterminated => exact absurd unexpected (by simp)
  | @unexpected _ _ rest d ahead notQuote none =>
    have visible := Scanner.head_dropWhile_isBlank ahead
    have alone := none.of_head notQuote (rest ++ more)
    have split : text ++ more = text.takeWhile isBlank ++ d :: (rest ++ more) := by
      rw [← List.cons_append, ← ahead, ← List.append_assoc, List.takeWhile_append_dropWhile]
    rw [split]
    exact .unexpected_append mem_takeWhile visible notQuote alone

/-- The last token and the error are settled where they are those of an unexpected character. -/
theorem exists_stream_append_newline (filename first second : String) :
    ∃ shown last more, stream filename first = shown ++ [last] ∧
      (∀ token ∈ shown, token.isTerminal = false) ∧ last.isTerminal = true ∧
      stream filename (first ++ "\n" ++ second) = shown ++ more ∧
      ∀ x c, error? filename first = some x → x.fault = .unexpectedCharacter c →
        more = [last] ∧ error? filename (first ++ "\n" ++ second) = some x := by
  obtain ⟨shown, last, front, back, split, whole, proper, terminal, ends, both⟩ :=
    (munches_stream filename first).exists_last (b := '\n') rfl
  obtain ⟨more, error, behind⟩ :=
    exists_munches filename (Position.start.after front) (back ++ '\n' :: second.toList)
  have joined := both second.toList more error behind
  rw [← toList_append_newline] at joined
  obtain ⟨given, ended⟩ := joined.drain_eq .start
  refine ⟨shown, last, more, split, proper, terminal, given, ?_⟩
  intro x c failed unexpected
  rw [failed] at ends
  have same := ends.append_of_unexpected unexpected ('\n' :: second.toList)
  obtain ⟨rfl, rfl⟩ := behind.unique same
  exact ⟨rfl, ended⟩

end Lexical

/-! ## The first statement -/

theorem Lexical.Fault.exists_of_ne {fault : Lexical.Fault} (h : fault ≠ .unterminatedString) :
    ∃ c, fault = .unexpectedCharacter c := by
  cases fault with
  | unterminatedString => exact absurd rfl h
  | unexpectedCharacter c => exact ⟨c, rfl⟩

/-- A text of which the last token is refused is told that it stops short, or of its lexical error. -/
theorem parse_of_refused_last {filename text : String} {last : Token}
    (mem : last ∈ stream filename text) (terminal : last.isTerminal = true)
    (refused : (Grammar.parse filename (stream filename text)).1 =
      .error ⟨.unexpected last.kind last.text, filename, last.position⟩) :
    parse filename text = .error (.grammar ⟨.unexpected .eof last.text, filename, last.position⟩) ∨
      ∃ x, error? filename text = some x ∧ parse filename text = .error (.lexical x) := by
  rcases (Lexical.isTerminal_iff last).mp terminal with eof | error
  · rw [eof] at refused
    exact .inl (parse_eq_grammar_iff.mpr ⟨refused, by simp⟩)
  · rw [error] at refused
    have ended := (Lexical.error?_ne_none_iff filename text).mpr ⟨last, mem, error⟩
    obtain ⟨x, failed⟩ := Option.ne_none_iff_exists'.mp ended
    have tokens := (Lexical.tokens_eq_error_iff filename text x).mpr failed
    exact .inr ⟨x, failed, parse_eq_lexical_iff.mpr ⟨tokens, _, last.text, refused, rfl⟩⟩

/-- **Only the first statement counts**: what comes behind a line break changes neither the program
nor the error, unless the text before it stops short of its first statement or inside a string. -/
theorem parse_append_newline (filename first second : String)
    (ended : ∀ e text, parse filename first = .error (.grammar e) → e.fault ≠ .unexpected .eof text)
    (closed : ∀ x, parse filename first = .error (.lexical x) → x.fault ≠ .unterminatedString) :
    parse filename (first ++ "\n" ++ second) = parse filename first := by
  obtain ⟨shown, last, more, split, proper, terminal, joined, unexpected⟩ :=
    Lexical.exists_stream_append_newline filename first second
  rcases Grammar.parse_cases filename proper terminal with refused | ⟨same, other⟩
  · rw [← split] at refused
    rcases parse_of_refused_last (by simp [split]) terminal refused with told | ⟨x, failed, told⟩
    · exact absurd rfl (ended _ last.text told)
    · obtain ⟨c, character⟩ := Lexical.Fault.exists_of_ne (closed x told)
      obtain ⟨rfl, still⟩ := unexpected x c failed character
      refine parse_congr (by rw [joined, split]) fun x' told' => ?_
      obtain rfl := Error.lexical.inj (Except.error.inj (told.symm.trans told'))
      exact (Lexical.tokens_eq_error_iff filename _ x).mpr still
  · refine parse_congr (by rw [joined, split, same more]) fun x told => ?_
    obtain ⟨-, e, found, eager, fault⟩ := parse_eq_lexical_iff.mp told
    rw [split] at eager
    exact absurd fault (other e found eager)

/-- The unread string of the first text swallows the second one up to its own quote; and an unexpected
character is told of whatever comes behind it. -/
theorem parse_append_newline_open :
    parse "f" ("a = 1 \"b" ++ "\n" ++ "c\" #") = parse "f" "a = 1 \"b" ∧
    parse "f" "a = 1 \"b" = .ok ⟨[.assignment "a" (.integer 1)]⟩ ∧
    parse "f" ("a = #" ++ "\n" ++ "1") = .error (.lexical ⟨.unexpectedCharacter '#', "f", ⟨1, 5⟩⟩) := by
  have sound : parse "f" "a = 1 \"b" = .ok ⟨[.assignment "a" (.integer 1)]⟩ := by
    decide +kernel
  have failed : parse "f" "a = #" = .error (.lexical ⟨.unexpectedCharacter '#', "f", ⟨1, 5⟩⟩) := by
    decide +kernel
  refine ⟨parse_append_newline "f" _ _ ?_ ?_, sound, ?_⟩
  · simp [sound]
  · simp [sound]
  · rw [parse_append_newline "f" "a = #" "1", failed]
    · simp [failed]
    · simp [failed]

end AssignLang
