import AssignLang.Proofs.Lexical.Calls
import AssignLang.Proofs.Lexical.Tiling

/-! The error of a text and the error token. The one is put on record, the other is given, and they
become visible together and name the same place: a character that begins no lexeme, or a quote whose
string has no end (`Munches.accounts`). A scanner that has not come to the end keeps no error, so what
it keeps is the error of the whole text (`error_calls`). Main statement: `error_accounts`. -/
namespace AssignLang.Lexical
set_option autoImplicit false

/-! ## What is wrong -/

/-- A character that can stand neither between two lexemes nor at the start of one. -/
structure BeginsNothing (c : Char) : Prop where
  notBlank : isBlank c = false
  notQuote : c ≠ '"'
  notLetter : isLetter c = false
  notDigit : isDigit c = false
  notSymbol : ∀ p ∈ symbols, c ∉ p.1

/-- The error stands where the error token does and tells what is wrong with the character there.
The text of the token is that character, or all that comes behind it if it is a quote. -/
structure Accounts (filename : String) (text : List Char) (e : Error) (token : Token) : Prop where
  filename : e.filename = filename
  position : e.position = token.position
  culprit : ∃ before c after, text = before ++ c :: after ∧
    token.position = .ofOffset text before.length ∧
    ((e.fault = .unexpectedCharacter c ∧ token.text = String.ofList [c] ∧ BeginsNothing c) ∨
      (e.fault = .unterminatedString ∧ c = '"' ∧ token.text = String.ofList after))

/-- Each character of a symbol is a symbol of its own. -/
theorem exists_symbol_of_mem : ∀ p ∈ symbols, ∀ c ∈ p.1, ∃ q ∈ symbols, q.1 = [c] := by
  simp [symbols]

theorem HasNoLexeme.beginsNothing {c : Char} {rest : List Char} (none : HasNoLexeme (c :: rest))
    (blank : isBlank c = false) (quote : c ≠ '"') : BeginsNothing c := by
  have alone (kind : TokenKind) : ¬ IsLexeme [c] kind [c] := none _ _ _ ⟨rest, rfl⟩
  refine ⟨blank, quote, ?_, ?_, fun p member among => ?_⟩
  · rw [← Bool.not_eq_true]
    intro letter
    exact alone _ (isLexeme_word (by simp) (by simpa using letter))
  · rw [← Bool.not_eq_true]
    intro digit
    exact alone _ (.integer (by simp) (by simpa using digit))
  · obtain ⟨⟨w, kind⟩, single, rfl⟩ := exists_symbol_of_mem p member c among
    exact alone kind (.symbol single)

/-- The error that ends a stream accounts for its last token. -/
theorem Munches.accounts {filename : String} {place : Position} {text : List Char}
    {tokens : List Token} {error : Option Error} (h : Munches filename place text tokens error)
    (done : List Char) (reached : place = Position.start.after done) {e : Error}
    (failed : error = some e) :
    ∃ token, tokens.getLast? = some token ∧ Accounts filename (done ++ text) e token := by
  induction h generalizing done with
  | eof => exact absurd failed (by simp)
  | @lexeme place text w rest value kind tokens error ahead _ more ih =>
    subst reached
    obtain ⟨whole, -, -⟩ := tile_ahead done ahead
    obtain ⟨token, last, accounts⟩ := ih (done ++ text.takeWhile isBlank ++ w) (by
      rw [Position.after_append, Position.after_append]) failed
    rw [List.append_assoc, ← whole] at accounts
    exact ⟨token, by rw [List.getLast?_cons, last]; rfl, accounts⟩
  | @unterminated place text rest ahead =>
    subst reached
    obtain rfl := Option.some.inj failed
    obtain ⟨whole, -, position⟩ := tile_ahead done ahead
    rw [← List.length_append] at position
    exact ⟨_, rfl, rfl, rfl, _, '"', rest, whole, position, .inr ⟨rfl, rfl, rfl⟩⟩
  | @unexpected place text rest c ahead notQuote none =>
    subst reached
    obtain rfl := Option.some.inj failed
    obtain ⟨whole, -, position⟩ := tile_ahead done ahead
    rw [← List.length_append] at position
    have nothing := none.beginsNothing (Scanner.head_dropWhile_isBlank ahead) notQuote
    exact ⟨_, rfl, rfl, rfl, _, c, rest, whole, position, .inl ⟨rfl, rfl, nothing⟩⟩

/-! ## When it is visible -/

namespace Scanner

/-- As long as a token is left the scanner is between two tokens, and keeps no error. -/
theorem error_calls_between {filename : String} {n : Nat} {anchor place : Position}
    {text : List Char} (left : n < (between filename anchor place text).drain.1.length) :
    ((between filename anchor place text).calls n).2.error = none := by
  induction n generalizing anchor place text with
  | zero => rfl
  | succ n ih =>
    have continues := continues_next filename anchor place text
    cases given : (between filename anchor place text).next with
    | mk token? s' =>
      rw [given] at continues
      cases continues with
      | more _ anchor' place' text' =>
        rw [drain_of_next given, List.length_cons] at left
        rw [calls_of_next given]
        exact ih (Nat.lt_of_succ_lt_succ left)
      | eof _ done | error _ _ done =>
        rw [drain_of_next given, drain_of_done done] at left
        exact absurd left (by simp)

theorem error_calls (filename text : String) (n : Nat) :
    ((ofText filename text).calls n).2.error =
      if (stream filename text).length ≤ n then error? filename text else none := by
  split
  next past => rw [(calls_of_length_le past).1, error?]
  next left => exact error_calls_between (Nat.lt_of_not_le left)

end Scanner

section Stream
variable {filename text : String} {n : Nat} {token : Token}

/-- The error token is the last of a stream, so it is given only once all of them are. -/
theorem getLast?_of_error_mem (mem : token ∈ stream filename text) (kind : token.kind = .error) :
    (stream filename text).getLast? = some token := by
  obtain ⟨shown, last, split, proper, -⟩ := (munches_stream filename text).exists_concat
  rw [split, List.mem_append, List.mem_singleton] at mem
  rcases mem with within | rfl
  · have terminal := proper token within
    simp [Token.isTerminal, kind] at terminal
  · rw [split, List.getLast?_concat]

theorem length_le_of_error_mem (mem : token ∈ (stream filename text).take n)
    (kind : token.kind = .error) : (stream filename text).length ≤ n := by
  obtain ⟨shown, last, split, proper, -⟩ := (munches_stream filename text).exists_concat
  by_contra short
  rw [split, List.length_append, List.length_singleton] at short
  rw [split, List.take_append_of_le_length (by omega)] at mem
  have terminal := proper token (List.mem_of_mem_take mem)
  simp [Token.isTerminal, kind] at terminal

/-- Every stream has a last token, and its kind tells whether there is an error. -/
theorem exists_getLast? (filename text : String) :
    ∃ last, (stream filename text).getLast? = some last ∧
      last.kind = if error? filename text = none then .eof else .error := by
  obtain ⟨shown, last, split, -, kind⟩ := (munches_stream filename text).exists_concat
  exact ⟨last, by rw [split, List.getLast?_concat], kind⟩

end Stream

/-- **The error and the error token match**, after any number of calls and up front. -/
theorem error_accounts (filename text : String) :
    (∀ n e, ((Scanner.ofText filename text).calls n).2.error = some e →
      ∃ token ∈ ((Scanner.ofText filename text).calls n).1, token.kind = .error ∧
        Accounts filename text.toList e token) ∧
    (∀ n, ∀ token ∈ ((Scanner.ofText filename text).calls n).1, token.kind = .error →
      ∃ e, ((Scanner.ofText filename text).calls n).2.error = some e ∧
        Accounts filename text.toList e token) ∧
    (∀ e, tokens filename text = .error e ↔
      (∃ last, (stream filename text).getLast? = some last ∧ last.kind = .error) ∧
      ((Scanner.ofText filename text).calls (stream filename text).length).2.error = some e) ∧
    ∀ given, tokens filename text = .ok given ↔
      given = stream filename text ∧ ∃ last, given.getLast? = some last ∧ last.kind = .eof := by
  obtain ⟨last, isLast, kind⟩ := exists_getLast? filename text
  refine ⟨fun n e kept => ?_, fun n token mem isError => ?_, fun e => ?_, fun given => ?_⟩
  · rw [Scanner.error_calls] at kept
    split at kept
    next past =>
      obtain ⟨token, isLast', accounts⟩ :=
        (munches_stream filename text).accounts [] rfl kept
      obtain rfl := Option.some.inj (isLast.symm.trans isLast')
      rw [if_neg (by simp [kept])] at kind
      refine ⟨last, ?_, kind, accounts⟩
      rw [Scanner.fst_calls_ofText, List.take_of_length_le past]
      exact List.mem_of_getLast? isLast
    next => exact absurd kept (by simp)
  · rw [Scanner.fst_calls_ofText] at mem
    have past := length_le_of_error_mem mem isError
    have isLast' := getLast?_of_error_mem (List.mem_of_mem_take mem) isError
    obtain rfl := Option.some.inj (isLast.symm.trans isLast')
    cases failed : error? filename text with
    | none => simp [isError, failed] at kind
    | some e =>
      obtain ⟨token, isLast', accounts⟩ :=
        (munches_stream filename text).accounts [] rfl failed
      obtain rfl := Option.some.inj (isLast.symm.trans isLast')
      exact ⟨e, by rw [Scanner.error_calls, if_pos past, failed], accounts⟩
  · rw [tokens_eq_error_iff, Scanner.error_calls, if_pos (Nat.le_refl _)]
    refine (and_iff_right_of_imp fun failed => ⟨last, isLast, ?_⟩).symm
    rw [kind, if_neg (by simp [failed])]
  · rw [tokens_eq_ok_iff]
    constructor
    · rintro ⟨sound, rfl⟩
      exact ⟨rfl, last, isLast, by rw [kind, if_pos sound]⟩
    · rintro ⟨rfl, last', isLast', eof⟩
      obtain rfl := Option.some.inj (isLast.symm.trans isLast')
      refine ⟨?_, rfl⟩
      by_contra failed
      rw [if_neg failed, eof] at kind
      exact absurd kind (by simp)

/-- The first call does not come to the error, the second does. -/
theorem error_accounts_second :
    ((Scanner.ofText "f" "a\n \"b").calls 1).2.error = none ∧
    ∃ e, ((Scanner.ofText "f" "a\n \"b").calls 2).2.error = some e ∧
      Accounts "f" "a\n \"b".toList e ⟨.error, "b", ⟨2, 2⟩⟩ := by
  have given : ((Scanner.ofText "f" "a\n \"b").calls 2).1 =
      [⟨.identifier, "a", ⟨1, 1⟩⟩, ⟨.error, "b", ⟨2, 2⟩⟩] := by decide +kernel
  refine ⟨by decide +kernel, (error_accounts "f" "a\n \"b").2.1 2 _ ?_ rfl⟩
  rw [given]
  simp

end AssignLang.Lexical
