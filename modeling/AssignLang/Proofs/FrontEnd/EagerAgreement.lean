import AssignLang.FrontEnd.Direct
import AssignLang.Lexical.Stream
import AssignLang.Proofs.Grammar.Program
import AssignLang.Proofs.Lexical.Terminal

/-! The tokens one by one against the tokens all at once. The front end pulls tokens as the grammar
asks for them, and looks at the error of the scanner only once the grammar is done. Main statement:
it tells what the grammar makes of the whole stream, and an error of the scanner exactly where the
grammar has stopped at the error token (`parse_eager`). -/
namespace AssignLang
open Lexical (Scanner stream tokens)
set_option autoImplicit false

/-! ## The list of all tokens -/

theorem pop_drain (s : Scanner) :
    Grammar.Reading.pop s.drain.1 = (s.next.1, s.next.2.drain.1) := by
  by_cases done : s.mode = .done
  · rw [Scanner.drain_of_done done, Scanner.next_of_done done, Scanner.drain_of_done done]
    rfl
  · obtain ⟨token, s', given, -⟩ := Scanner.exists_next done
    rw [Scanner.drain_of_next given, given]
    rfl

/-- The grammar reads the same from the scanner as from the tokens collected up front, and leaves
the same tokens unread. -/
theorem grammar_parse_stream (filename text : String) :
    Grammar.parse filename (stream filename text) =
      (((Scanner.ofText filename text).parse filename).1,
        ((Scanner.ofText filename text).parse filename).2.drain.1) :=
  Grammar.Reading.run_view (fun s : Scanner => s.drain.1) pop_drain
    (Grammar.program filename) (.ofText filename text)

/-! ## Where the reading ends -/

/-- A scanner that is between two tokens of a text, and will come to the end of the same stream. -/
structure Along (filename text : String) (s : Scanner) : Prop where
  between : ∃ anchor place rest, s = .between filename anchor place rest
  tokens : s.drain.1 <:+ stream filename text
  last : s.drain.2 = (Scanner.ofText filename text).drain.2

theorem Along.start (filename text : String) : Along filename text (.ofText filename text) :=
  ⟨⟨_, _, _, Scanner.ofText_eq_between filename text⟩, List.suffix_refl _, rfl⟩

theorem Along.next {filename text : String} {s : Scanner} (h : Along filename text s) :
    ∃ token s', s.next = (some token, s') ∧ (token.isTerminal = false → Along filename text s') := by
  obtain ⟨anchor, place, rest, rfl⟩ := h.between
  obtain ⟨token, s', given, foretold⟩ :=
    Scanner.exists_next (s := .between filename anchor place rest) Scanner.between_running
  refine ⟨token, s', given, fun proper => ?_⟩
  have tokens := h.tokens
  have last := h.last
  rw [Scanner.drain_of_next given] at tokens last
  refine ⟨?_, (List.suffix_cons token _).trans tokens, last⟩
  have continues := Scanner.continues_next filename anchor place rest
  rw [given] at continues
  cases continues with
  | more _ anchor' place' rest' => exact ⟨anchor', place', rest', rfl⟩
  | eof kind | error _ kind => simp [Token.isTerminal, kind] at proper

/-- The three ways in which the two can end, each with what both of them tell. -/
theorem parse_outcome (filename text : String) :
    (∃ program, (Grammar.parse filename (stream filename text)).1 = .ok program ∧
      parse filename text = .ok program) ∨
    (∃ e, (Grammar.parse filename (stream filename text)).1 = .error e ∧
      parse filename text = .error (.grammar e) ∧ e.fault ≠ .endOfStream ∧
      ∀ found, e.fault ≠ .unexpected .error found) ∨
    ∃ before token x, stream filename text = before ++ [token] ∧ token.kind = .error ∧
      (Grammar.parse filename (stream filename text)).1 =
        .error ⟨.unexpected .error token.text, filename, token.position⟩ ∧
      tokens filename text = .error x ∧ parse filename text = .error (.lexical x) := by
  have ends : Grammar.Ends Scanner.next (Along filename text) filename
      ((Grammar.program filename).run Scanner.next (.ofText filename text)) :=
    Grammar.ends_program _ _ (fun _ => Along.next) (.start filename text)
  have lazy : ((Scanner.ofText filename text).parse filename) =
    (Grammar.program filename).run Scanner.next (.ofText filename text) := rfl
  rw [grammar_parse_stream, parse, lazy]
  generalize (Grammar.program filename).run Scanner.next (.ofText filename text) = reached at ends
  cases ends with
  | @early result rest along proper =>
    obtain ⟨anchor, place, after, rfl⟩ := along.between
    cases result with
    | ok program => exact .inl ⟨program, rfl, rfl⟩
    | error e =>
      obtain ⟨more, unexpected⟩ := proper e rfl
      exact .inr (.inl ⟨e, rfl, rfl, more, fun found same => (unexpected _ found same).2 rfl⟩)
  | @terminal s rest token along given terminal =>
    obtain ⟨anchor, place, after, rfl⟩ := along.between
    have continues := Scanner.continues_next filename anchor place after
    rw [given] at continues
    have suffix := along.tokens
    have last := along.last
    rw [Scanner.drain_of_next given] at suffix last
    cases continues with
    | more proper => simp [terminal] at proper
    | eof kind done clear =>
      refine .inr (.inl ⟨_, rfl, ?_, by simp, by simp [kind]⟩)
      simp only [clear]
      rfl
    | error x kind done kept =>
      rw [Scanner.drain_of_done done] at suffix last
      obtain ⟨before, split⟩ := suffix
      refine .inr (.inr ⟨before, token, x, split.symm, kind, by rw [kind], ?_, ?_⟩)
      · have ended : Lexical.error? filename text = some x := by
          rw [Lexical.error?, ← last, kept]
        rw [tokens, ended]
      · simp only [kept]
        rfl

section Told
variable {filename text : String}

theorem parse_eq_ok_iff_grammar {program : Program} :
    parse filename text = .ok program ↔
      (Grammar.parse filename (stream filename text)).1 = .ok program := by
  rcases parse_outcome filename text with ⟨program', eager, told⟩ | ⟨e, eager, told, -⟩ |
    ⟨-, token, x, -, -, eager, -, told⟩
  · rw [eager, told, Except.ok.injEq, Except.ok.injEq]
  · rw [eager, told]
    exact iff_of_false (by simp) (by simp)
  · rw [eager, told]
    exact iff_of_false (by simp) (by simp)

theorem parse_eq_grammar_iff {e : Grammar.Error} :
    parse filename text = .error (.grammar e) ↔
      (Grammar.parse filename (stream filename text)).1 = .error e ∧
        ∀ found, e.fault ≠ .unexpected .error found := by
  rcases parse_outcome filename text with ⟨program, eager, told⟩ | ⟨e', eager, told, -, other⟩ |
    ⟨-, token, x, -, -, eager, -, told⟩
  · rw [eager, told]
    exact iff_of_false (by simp) (by simp)
  · rw [eager, told, Except.error.injEq, Except.error.injEq, Error.grammar.injEq]
    refine (and_iff_left_of_imp ?_).symm
    rintro rfl
    exact other
  · rw [eager, told]
    refine iff_of_false (by simp) ?_
    rintro ⟨same, other⟩
    obtain rfl := Except.error.inj same
    exact other token.text rfl

/-- An error of the scanner is told where the grammar has refused the error token. -/
theorem parse_eq_lexical_iff {x : Lexical.Error} :
    parse filename text = .error (.lexical x) ↔
      tokens filename text = .error x ∧
        ∃ e found, (Grammar.parse filename (stream filename text)).1 = .error e ∧
          e.fault = .unexpected .error found := by
  rcases parse_outcome filename text with ⟨program, eager, told⟩ | ⟨e, eager, told, -, other⟩ |
    ⟨-, token, x', -, -, eager, failed, told⟩
  · rw [eager, told]
    exact iff_of_false (by simp) (by simp)
  · rw [eager, told]
    refine iff_of_false (by simp) ?_
    rintro ⟨-, e', found, same, unexpected⟩
    obtain rfl := Except.error.inj same
    exact other found unexpected
  · rw [eager, told, failed, Except.error.injEq, Except.error.injEq, Error.lexical.injEq]
    exact (and_iff_left ⟨_, token.text, rfl, rfl⟩).symm

/-- Two texts of which the grammar makes the same are told the same, as long as an error of the scanner
that is told is that of both. -/
theorem parse_congr {text' : String}
    (same : (Grammar.parse filename (stream filename text')).1 =
      (Grammar.parse filename (stream filename text)).1)
    (lexical : ∀ x, parse filename text = .error (.lexical x) → tokens filename text' = .error x) :
    parse filename text' = parse filename text := by
  rcases parse_outcome filename text with ⟨program, eager, told⟩ | ⟨e, eager, told, -, other⟩ |
    ⟨-, token, x, -, -, eager, -, told⟩
  · rw [told, parse_eq_ok_iff_grammar, same, eager]
  · rw [told, parse_eq_grammar_iff, same]
    exact ⟨eager, other⟩
  · rw [told, parse_eq_lexical_iff, same]
    exact ⟨lexical x told, _, token.text, eager, rfl⟩

end Told

/-- **The grammar may have all tokens up front**, and each stage is told its own errors. -/
theorem parse_eager (filename text : String) :
    (∀ program, (Grammar.parse filename (stream filename text)).1 = .ok program →
      parse filename text = .ok program) ∧
    (∀ e found, (Grammar.parse filename (stream filename text)).1 = .error e →
      e.fault = .unexpected .error found →
      ∃ x, tokens filename text = .error x ∧ parse filename text = .error (.lexical x)) ∧
    (∀ e, (Grammar.parse filename (stream filename text)).1 = .error e →
      (∀ found, e.fault ≠ .unexpected .error found) →
      parse filename text = .error (.grammar e)) ∧
    (∀ e, parse filename text = .error (.grammar e) →
      e.fault ≠ .endOfStream ∧ ∀ found, e.fault ≠ .unexpected .error found) ∧
    ∀ x, parse filename text = .error (.lexical x) →
      ∃ before token, stream filename text = before ++ [token] ∧ token.kind = .error ∧
        ((Scanner.ofText filename text).parse filename).1 =
          .error ⟨.unexpected .error token.text, filename, token.position⟩ := by
  have lazy : (Grammar.parse filename (stream filename text)).1 =
      ((Scanner.ofText filename text).parse filename).1 := by
    rw [grammar_parse_stream]
  rw [← lazy]
  rcases parse_outcome filename text with ⟨program, eager, told⟩ | ⟨e, eager, told, more, proper⟩ |
    ⟨before, token, x, split, kind, eager, ended, told⟩
  · rw [eager, told]
    simp
  · rw [eager, told]
    refine ⟨by simp, ?_, ?_, ?_, by simp⟩
    · rintro e' found refused same
      obtain rfl := Except.error.inj refused
      exact absurd same (proper found)
    · rintro e' refused -
      rw [Except.error.inj refused]
    · rintro e' refused
      obtain rfl := Error.grammar.inj (Except.error.inj refused)
      exact ⟨more, proper⟩
  · rw [eager, told, ended]
    refine ⟨by simp, fun _ _ _ _ => ⟨x, rfl, rfl⟩, ?_, by simp, fun _ _ => ⟨before, token, split, kind, rfl⟩⟩
    rintro e' refused proper
    obtain rfl := Except.error.inj refused
    exact absurd rfl (proper token.text)

theorem parse_eager_unexpected :
    (Grammar.parse "f" (stream "f" "a = #")).1 = .error ⟨.unexpected .error "#", "f", ⟨1, 5⟩⟩ ∧
    ∃ x, tokens "f" "a = #" = .error x ∧ parse "f" "a = #" = .error (.lexical x) := by
  have given : stream "f" "a = #" =
      [⟨.identifier, "a", ⟨1, 1⟩⟩, ⟨.assign, "=", ⟨1, 3⟩⟩, ⟨.error, "#", ⟨1, 5⟩⟩] := by
    decide +kernel
  have eager : (Grammar.parse "f" (stream "f" "a = #")).1 =
      .error ⟨.unexpected .error "#", "f", ⟨1, 5⟩⟩ := by
    rw [given]
    rfl
  exact ⟨eager, (parse_eager "f" "a = #").2.1 _ _ eager rfl⟩

end AssignLang
