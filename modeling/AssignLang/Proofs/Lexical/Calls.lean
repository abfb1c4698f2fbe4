import AssignLang.Proofs.Lexical.Ending

/-! One call of `next` after another. The calls give the tokens of the stream in order, and once there
are none left they give nothing and change nothing (`calls_split`, `calls_of_length_le`). Each call
ends, after no more runs of `step` than the size of the scanner (`exists_runs_next`), and each token
takes at least one character but the one that ends the stream (`Munches.length_le`). Main statement:
a stream ends, and it ends once (`stream_ends_once`). -/
namespace AssignLang.Lexical
set_option autoImplicit false

namespace Scanner

/-! ## The runs of one call -/

/-- `Runs n s r`: a call of `next` at `s` comes to its end with `r` after exactly `n` runs of `step`. -/
inductive Runs : Nat → Scanner → Option Token × Scanner → Prop
  | rest {s : Scanner} (done : s.mode = .done) : Runs 0 s (none, s)
  | give {s s' : Scanner} {token : Token} (running : s.mode ≠ .done)
      (first : s.step = (some token, s')) : Runs 1 s (some token, s')
  | quiet {n : Nat} {s s' : Scanner} {r : Option Token × Scanner} (running : s.mode ≠ .done)
      (first : s.step = (none, s')) (more : Runs n s' r) : Runs (n + 1) s r

/-- Every run of `step` makes the scanner smaller, so a call ends. -/
theorem exists_runs_next (s : Scanner) : ∃ n ≤ s.size, Runs n s s.next := by
  fun_induction next s with
  | case1 s done => exact ⟨0, Nat.zero_le _, .rest done⟩
  | case2 s running r given =>
    obtain ⟨token, first⟩ := Option.isSome_iff_exists.mp given
    have smaller : r.2.size < s.size := size_step_lt s running
    refine ⟨1, by omega, ?_⟩
    have step : s.step = (some token, r.2) := Prod.ext first rfl
    show Runs 1 s s.step
    rw [step]
    exact .give running step
  | case3 s running r quiet ih =>
    obtain ⟨n, within, runs⟩ := ih
    have smaller : r.2.size < s.size := size_step_lt s running
    refine ⟨n + 1, by omega, .quiet running (Prod.ext ?_ rfl) runs⟩
    exact Option.not_isSome_iff_eq_none.mp quiet

/-! ## One call after another -/

/-- The tokens that so many calls of `next` give, and the scanner after them. -/
def calls : Nat → Scanner → List Token × Scanner
  | 0, s => ([], s)
  | n + 1, s =>
    let r := s.next
    let rest := calls n r.2
    (r.1.toList ++ rest.1, rest.2)

theorem calls_of_done {s : Scanner} (done : s.mode = .done) (n : Nat) : s.calls n = ([], s) := by
  induction n with
  | zero => rfl
  | succ n ih =>
    rw [calls, next_of_done done, ih]
    rfl

theorem calls_of_next {s s' : Scanner} {token : Token} (given : s.next = (some token, s')) (n : Nat) :
    s.calls (n + 1) = (token :: (s'.calls n).1, (s'.calls n).2) := by
  rw [calls, given]
  rfl

/-- The calls split the stream into what they give and what is left. -/
theorem calls_split (n : Nat) (s : Scanner) :
    (s.calls n).1 = s.drain.1.take n ∧ (s.calls n).2.drain = (s.drain.1.drop n, s.drain.2) := by
  induction n generalizing s with
  | zero => exact ⟨List.take_zero.symm, rfl⟩
  | succ n ih =>
    by_cases done : s.mode = .done
    · rw [calls_of_done done, drain_of_done done]
      exact ⟨rfl, rfl⟩
    · obtain ⟨token, s', given, -⟩ := exists_next done
      obtain ⟨taken, left⟩ := ih s'
      rw [calls_of_next given, drain_of_next given]
      exact ⟨congrArg (token :: ·) taken, left⟩

theorem fst_calls_ofText (filename text : String) (n : Nat) :
    ((ofText filename text).calls n).1 = (stream filename text).take n :=
  (calls_split n _).1

theorem fst_next (s : Scanner) : s.next.1 = s.drain.1.head? := by
  by_cases done : s.mode = .done
  · rw [next_of_done done, drain_of_done done]
    rfl
  · obtain ⟨token, s', given, -⟩ := exists_next done
    rw [drain_of_next given, given]
    rfl

theorem done_of_drain_eq_nil {s : Scanner} (empty : s.drain.1 = []) : s.mode = .done := by
  rw [← next_eq_none_iff, fst_next, empty]
  rfl

/-- The next call gives the next token of the stream. -/
theorem fst_next_calls (n : Nat) (s : Scanner) : (s.calls n).2.next.1 = s.drain.1[n]? := by
  rw [fst_next, (calls_split n s).2, List.head?_drop]

/-- Once the stream is over the scanner is at its end, and stays there. -/
theorem calls_of_length_le {n : Nat} {s : Scanner} (past : s.drain.1.length ≤ n) :
    (s.calls n).2 = s.drain.2 ∧ (s.calls n).2.mode = .done := by
  have left := (calls_split n s).2
  rw [List.drop_of_length_le past] at left
  have done : (s.calls n).2.mode = .done := done_of_drain_eq_nil (by rw [left])
  rw [drain_of_done done, Prod.mk.injEq] at left
  exact ⟨left.2, done⟩

theorem size_calls_le (n : Nat) (s : Scanner) : (s.calls n).2.size ≤ s.size := by
  induction n generalizing s with
  | zero => exact Nat.le_refl _
  | succ n ih =>
    by_cases done : s.mode = .done
    · exact Nat.le_of_eq (congrArg (·.2.size) (calls_of_done done _))
    · exact Nat.le_trans (ih s.next.2) (Nat.le_of_lt (size_next_lt s done))

end Scanner

/-! ## What a token takes of the text -/

/-- Only a string may have nothing in it. -/
theorem IsLexeme.value_ne_nil {w value : List Char} {kind : TokenKind} (h : IsLexeme w kind value)
    (other : kind ≠ .string) : value ≠ [] := by
  have nonempty := h.ne_nil
  cases h with
  | string => exact absurd rfl other
  | _ => exact nonempty

section Munches
variable {filename : String} {place : Position} {text : List Char} {tokens : List Token}
  {error : Option Error}

/-- Each token takes a character, but for the one at the end of the file. -/
theorem Munches.length_le (h : Munches filename place text tokens error) :
    tokens.length ≤ text.length + 1 ∧ (error ≠ none → tokens.length ≤ text.length) := by
  have within {text rest : List Char} (ahead : text.dropWhile isBlank = rest) :
      rest.length ≤ text.length := ahead ▸ Scanner.length_dropWhile_le isBlank text
  induction h with
  | eof => simp
  | unterminated ahead | unexpected ahead =>
    have fits := within ahead
    simp only [List.length_cons, List.length_nil] at fits ⊢
    omega
  | lexeme ahead longest _ ih =>
    have fits := within ahead
    have taken := List.length_pos_iff.mpr longest.isLexeme.ne_nil
    rw [List.length_append] at fits
    rw [List.length_cons]
    exact ⟨by omega, fun failed => by have := ih.2 failed; omega⟩

/-- The last token is a terminal one, of the error if there is one, and all others are proper. -/
theorem Munches.exists_concat (h : Munches filename place text tokens error) :
    ∃ shown last, tokens = shown ++ [last] ∧ (∀ token ∈ shown, token.isTerminal = false) ∧
      last.kind = if error = none then .eof else .error := by
  induction h with
  | eof | unterminated | unexpected => exact ⟨[], _, rfl, by simp, rfl⟩
  | lexeme _ longest _ ih =>
    obtain ⟨shown, last, rfl, proper, kind⟩ := ih
    refine ⟨_ :: shown, last, rfl, List.forall_mem_cons.mpr ⟨?_, proper⟩, kind⟩
    simp [Token.isTerminal, longest.isLexeme.proper]

theorem Munches.text_ne_empty (h : Munches filename place text tokens error) :
    ∀ token ∈ tokens, token.isTerminal = false → token.kind ≠ .string → token.text ≠ "" := by
  induction h with
  | eof | unterminated | unexpected => simp [Token.isTerminal]
  | lexeme _ longest _ ih =>
    refine List.forall_mem_cons.mpr ⟨fun _ other => ?_, ih⟩
    rw [ne_eq, String.ofList_eq_empty_iff]
    exact longest.isLexeme.value_ne_nil other

end Munches

/-- **Every stream ends, once**, and no call comes to anything behind its end. -/
theorem stream_ends_once (filename text : String) :
    (∀ n, ∃ runs ≤ 2 * text.length + 1, Scanner.Runs runs ((Scanner.ofText filename text).calls n).2
      ((Scanner.ofText filename text).calls n).2.next) ∧
    (∀ n, ((Scanner.ofText filename text).calls n).2.next.1 = (stream filename text)[n]?) ∧
    (stream filename text).length ≤ text.length + 1 ∧
    (∃ shown last, stream filename text = shown ++ [last] ∧ last.isTerminal = true ∧
      (∀ token ∈ shown, token.isTerminal = false) ∧
      (last.kind = .error → (stream filename text).length ≤ text.length)) ∧
    (∀ token ∈ stream filename text, token.isTerminal = false → token.kind ≠ .string →
      token.text ≠ "") ∧
    ∀ n, (stream filename text).length ≤ n →
      ((Scanner.ofText filename text).calls n).2.next =
        (none, ((Scanner.ofText filename text).calls n).2) ∧
      ((Scanner.ofText filename text).calls n).2 =
        ((Scanner.ofText filename text).calls (stream filename text).length).2 := by
  have munches := munches_stream filename text
  have length := munches.length_le
  rw [String.length_toList] at length
  refine ⟨fun n => ?_, fun n => Scanner.fst_next_calls n _, length.1, ?_, munches.text_ne_empty, ?_⟩
  · obtain ⟨runs, few, ends⟩ :=
      Scanner.exists_runs_next ((Scanner.ofText filename text).calls n).2
    have smaller := Scanner.size_calls_le n (.ofText filename text)
    have whole : (Scanner.ofText filename text).size = 2 * text.length + 1 := by
      rw [← String.length_toList]
      rfl
    exact ⟨runs, by omega, ends⟩
  · obtain ⟨shown, last, split, proper, kind⟩ := munches.exists_concat
    refine ⟨shown, last, split, ?_, proper, fun failed => length.2 fun sound => ?_⟩
    · rw [isTerminal_iff, kind]
      by_cases sound : error? filename text = none
      · rw [if_pos sound]
        exact .inl rfl
      · rw [if_neg sound]
        exact .inr rfl
    · rw [if_pos sound, failed] at kind
      exact absurd kind (by simp)
  · intro n past
    obtain ⟨reached, done⟩ := Scanner.calls_of_length_le past
    refine ⟨Scanner.next_of_done done, reached.trans ?_⟩
    exact (Scanner.calls_of_length_le (Nat.le_refl _)).1.symm

/-- Behind an error token no call reads on, though there is text left. -/
theorem stream_ends_once_error :
    (stream "f" "a#b").length = 2 ∧
      ((Scanner.ofText "f" "a#b").calls 4).2.next =
        (none, ((Scanner.ofText "f" "a#b").calls 4).2) ∧
      ((Scanner.ofText "f" "a#b").calls 4).2 = ((Scanner.ofText "f" "a#b").calls 2).2 := by
  have length : (stream "f" "a#b").length = 2 := by decide +kernel
  have behind := (stream_ends_once "f" "a#b").2.2.2.2.2 4 (by omega)
  rw [length] at behind
  exact ⟨length, behind⟩

end AssignLang.Lexical
