import AssignLang.Proofs.Lexical.Terminal

/-! The end of a stream, as it shows on the way there. Every scanner that the tokens of a text lead
to comes to the same end (`drain_next`), and it keeps an error from the moment when it has given the
error token and not before (`Underway.error_iff`). So an error that a scanner keeps is the one that
ends the stream of its text (`Approaches.tokens_eq`), and a text has an error just if its stream has
an error token (`error?_ne_none_iff`). -/
namespace AssignLang.Lexical
set_option autoImplicit false

theorem Munches.error_ne_none_iff {filename : String} {place : Position} {text : List Char}
    {tokens : List Token} {error : Option Error} (h : Munches filename place text tokens error) :
    error ≠ none ↔ ∃ token ∈ tokens, token.kind = .error := by
  induction h with
  | eof => simp
  | unterminated | unexpected => simp
  | lexeme _ longest _ ih =>
    have proper := longest.isLexeme.proper.2
    simp [ih, proper]

theorem error?_ne_none_iff (filename text : String) :
    error? filename text ≠ none ↔ ∃ token ∈ stream filename text, token.kind = .error :=
  (munches_stream filename text).error_ne_none_iff

namespace Scanner

/-- Between two tokens, or behind the last one. -/
inductive Underway (filename : String) : Scanner → Prop
  | between (anchor place : Position) (text : List Char) :
      Underway filename (between filename anchor place text)
  | past {s : Scanner} (done : s.mode = .done) : Underway filename s

theorem underway_ofText (filename text : String) : Underway filename (ofText filename text) := by
  rw [ofText_eq_between]
  exact .between _ _ _

theorem Underway.next {filename : String} {s : Scanner} (h : Underway filename s) :
    Underway filename s.next.2 := by
  cases h with
  | past done =>
    rw [next_of_done done]
    exact .past done
  | between anchor place text =>
    have continues := continues_next filename anchor place text
    cases given : (Scanner.between filename anchor place text).next with
    | mk token? s' =>
      rw [given] at continues
      cases continues with
      | more _ anchor' place' text' => exact .between anchor' place' text'
      | eof _ done | error _ _ done => exact .past done

theorem Underway.done_of_error {filename : String} {s : Scanner} (h : Underway filename s)
    (kept : s.error ≠ none) : s.mode = .done := by
  cases h with
  | between => exact absurd rfl kept
  | past done => exact done

theorem Underway.error_iff {filename : String} {s s' : Scanner} {token : Token}
    (h : Underway filename s) (given : s.next = (some token, s')) :
    s'.error ≠ none ↔ token.kind = .error := by
  cases h with
  | past done => exact absurd done (running_of_next given)
  | between anchor place text =>
    have continues := continues_next filename anchor place text
    rw [given] at continues
    cases continues with
    | more proper =>
      have other : token.kind ≠ .error := by
        intro kind
        simp [Token.isTerminal, kind] at proper
      simp [Scanner.between, other]
    | eof kind _ clear => simp [kind, clear]
    | error e kind _ kept => simp [kind, kept]

/-! ## Where the tokens of a text lead -/

theorem drain_next (s : Scanner) : s.next.2.drain.2 = s.drain.2 := by
  by_cases done : s.mode = .done
  · rw [next_of_done done]
  · obtain ⟨token, s', given, -⟩ := exists_next done
    rw [given, drain_of_next given]

/-- On the way to the end of the stream of a text. -/
structure Approaches (filename text : String) (s : Scanner) : Prop where
  underway : Underway filename s
  last : s.drain.2 = (ofText filename text).drain.2

section Approaches
variable {filename text : String} {s : Scanner}

theorem approaches_ofText (filename text : String) :
    Approaches filename text (ofText filename text) :=
  ⟨underway_ofText filename text, rfl⟩

theorem Approaches.next (h : Approaches filename text s) : Approaches filename text s.next.2 :=
  ⟨h.underway.next, (drain_next s).trans h.last⟩

/-- An error that is there already is the one at the end. -/
theorem Approaches.tokens_eq (h : Approaches filename text s) {e : Error} (kept : s.error = some e) :
    tokens filename text = .error e := by
  have done := h.underway.done_of_error (by simp [kept])
  rw [tokens_eq_error_iff, error?, ← h.last, drain_of_done done, kept]

end Approaches

end Scanner

end AssignLang.Lexical
