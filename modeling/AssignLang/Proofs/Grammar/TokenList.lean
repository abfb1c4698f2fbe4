import AssignLang.Proofs.Grammar.Program

/-! Readings of a list of tokens. Such a reading leaves a suffix of the list, and what it leaves does
not count (`run_pop_append`). Main statements: a program is read from the tokens before the terminal
one, or else that one is refused (`parse_cases`); it is made of the first three tokens of a list
(`begins_of_parse_ok`), and what is refused stands at one of them (`blames_parse`). -/
namespace AssignLang.Grammar
set_option autoImplicit false

/-! ## What a reading does not come to -/

namespace Reading

theorem run_pop_suffix {α : Type} (reading : Reading α) (given : List Token) :
    (reading.run pop given).2 <:+ given := by
  induction reading generalizing given with
  | done => exact List.suffix_refl _
  | ask resume ih =>
    rw [run_ask]
    cases given with
    | nil => exact ih none []
    | cons token rest => exact (ih (some token) rest).trans (List.suffix_cons token rest)

/-- What is left over does not count, and may as well be something else. -/
theorem run_pop_append {α : Type} {reading : Reading α} {given rest tail : List Token}
    {answer : α} (h : reading.run pop (given ++ tail) = (answer, rest ++ tail))
    (nonempty : tail ≠ []) (tail' : List Token) :
    reading.run pop (given ++ tail') = (answer, rest ++ tail') := by
  induction reading generalizing given with
  | done =>
    rw [run_done, Prod.mk.injEq] at h ⊢
    exact ⟨h.1, congrArg (· ++ tail') (List.append_cancel_right h.2)⟩
  | ask resume ih =>
    cases given with
    | cons token given => exact ih (some token) h
    | nil =>
      -- The tail has been asked for a token, so it cannot all be left over.
      obtain ⟨token, more, rfl⟩ := List.exists_cons_of_ne_nil nonempty
      have left := (resume (some token)).run_pop_suffix more
      have same : (resume (some token)).run pop more = (answer, rest ++ token :: more) := h
      have shorter := left.length_le
      rw [same, List.length_append, List.length_cons] at shorter
      omega

end Reading

/-- Tokens of which just the last one is terminal. -/
def EndsWith (last : Token) (given : List Token) : Prop :=
  ∃ shown, given = shown ++ [last] ∧ ∀ token ∈ shown, token.isTerminal = false

theorem EndsWith.pop {last : Token} {given : List Token} (h : EndsWith last given)
    (terminal : last.isTerminal = true) :
    ∃ token rest, Reading.pop given = (some token, rest) ∧
      (token.isTerminal = false → EndsWith last rest) ∧
      (token.isTerminal = true → token = last) := by
  obtain ⟨shown, rfl, proper⟩ := h
  cases shown with
  | nil => exact ⟨last, [], rfl, fun proper => by simp [terminal] at proper, fun _ => rfl⟩
  | cons token shown =>
    obtain ⟨first, others⟩ := List.forall_mem_cons.mp proper
    exact ⟨token, _, rfl, fun _ => ⟨shown, rfl, others⟩, fun last => by simp [first] at last⟩

/-- A program is read from the tokens before the last one, or else it is the last one that is
refused. -/
theorem parse_cases (filename : String) {shown : List Token} {last : Token}
    (proper : ∀ token ∈ shown, token.isTerminal = false) (terminal : last.isTerminal = true) :
    (parse filename (shown ++ [last])).1 =
        .error ⟨.unexpected last.kind last.text, filename, last.position⟩ ∨
      ((∀ tail, (parse filename (shown ++ tail)).1 = (parse filename (shown ++ [last])).1) ∧
        ∀ e found, (parse filename (shown ++ [last])).1 = .error e →
          e.fault ≠ .unexpected .error found) := by
  have lives : ∀ given, EndsWith last given → ∃ token rest, Reading.pop given = (some token, rest) ∧
      (token.isTerminal = false → EndsWith last rest) := by
    intro given live
    obtain ⟨token, rest, popped, live', -⟩ := live.pop terminal
    exact ⟨token, rest, popped, live'⟩
  have ends : Ends Reading.pop (EndsWith last) filename (parse filename (shown ++ [last])) :=
    ends_program _ _ lives ⟨shown, rfl, proper⟩
  generalize reached : parse filename (shown ++ [last]) = outcome at ends
  cases ends with
  | terminal live given isLast =>
    obtain ⟨token, rest, popped, -, only⟩ := live.pop terminal
    rw [given, Prod.mk.injEq, Option.some.injEq] at popped
    obtain ⟨rfl, -⟩ := popped
    exact .inl (by rw [only isLast])
  | early live other =>
    obtain ⟨left, rfl, -⟩ := live
    refine .inr ⟨fun tail => ?_, ?_⟩
    · have same := Reading.run_pop_append reached (by simp) tail
      rw [parse, same]
    · rintro e found refused unexpected
      exact ((other e refused).2 _ _ unexpected).2 rfl

/-! ## The first three tokens -/

theorem Reading.pop_eq_some_iff {given rest : List Token} {token : Token} :
    pop given = (some token, rest) ↔ given = token :: rest := by
  cases given with
  | nil => simp [pop]
  | cons first others => simp [pop]

theorem begins_of_parse_ok {filename : String} {given : List Token} {program : Program}
    (h : (parse filename given).1 = .ok program) :
    ∃ target sign number rest, given = target :: sign :: number :: rest ∧
      target.kind = .identifier ∧ sign.kind = .assign ∧ number.kind = .number := by
  obtain ⟨target, source₁, sign, source₂, number, value, first, identifier, second, assign, third,
    isNumber, -⟩ := (run_program_eq_ok_iff Reading.pop).mp (Prod.ext h rfl)
  rw [Reading.pop_eq_some_iff] at first second third
  subst second first
  exact ⟨target, sign, number, _, by rw [← third], identifier, assign, isNumber⟩

/-- The error names the file and stands at one of the first `n` tokens, unless they stop short. -/
def Blames (filename : String) (n : Nat) (given : List Token) (e : Error) : Prop :=
  e.filename = filename ∧
    (e.fault = .endOfStream ∨ ∃ token ∈ given.take n, e.position = token.position)

section Blames
variable {α : Type} {filename : String} {n : Nat} {given : List Token} {e : Error}

theorem Blames.cons (h : Blames filename n given e) (token : Token) :
    Blames filename (n + 1) (token :: given) e := by
  obtain ⟨name, stops | ⟨culprit, mem, position⟩⟩ := h
  · exact ⟨name, .inl stops⟩
  · exact ⟨name, .inr ⟨culprit, List.mem_cons_of_mem token mem, position⟩⟩

theorem Attempt.blames_expect {kind : TokenKind} {last : Position} {resume : Token → Attempt α}
    (h : ((expect kind filename last resume).run Reading.pop given).1 = .error e)
    (inner : ∀ token rest, ((resume token).run Reading.pop rest).1 = .error e →
      Blames filename (n + 1) (token :: rest) e) :
    Blames filename (n + 1) given e := by
  cases given with
  | nil =>
    rw [expect, run_read_none Reading.pop rfl] at h
    obtain rfl := Except.error.inj h
    exact ⟨rfl, .inl rfl⟩
  | cons token rest =>
    rw [run_expect_some Reading.pop rfl] at h
    by_cases same : token.kind = kind
    · rw [if_pos same] at h
      exact inner token rest h
    · rw [if_neg same] at h
      obtain rfl := Except.error.inj h
      exact ⟨rfl, .inr ⟨token, List.mem_cons_self, rfl⟩⟩

theorem blames_parse (h : (parse filename given).1 = .error e) : Blames filename 3 given e := by
  refine Attempt.blames_expect h fun target rest h => Blames.cons ?_ target
  refine Attempt.blames_expect h fun sign rest h => Blames.cons ?_ sign
  refine Attempt.blames_expect h fun number rest h => ?_
  cases value : Text.Numeral.int32? number.text.toList with
  | some v => simp [value] at h
  | none =>
    simp only [value, Attempt.run_fail] at h
    obtain rfl := Except.error.inj h
    exact ⟨rfl, .inr ⟨number, List.mem_cons_self, rfl⟩⟩

end Blames

end AssignLang.Grammar
