import AssignLang.Grammar.Statement

/-! What the reading of a program asks for and answers, whatever the tokens come from. Main statements:
it succeeds exactly on an identifier, an equals sign and a number that is a 32-bit integer, and it
asks for these three tokens and no more (`run_program_eq_ok_iff`); it fails where the tokens stop
(`strict_program`), and only there for want of tokens (`fault_run_program`); and it asks for none
after a terminal one (`ends_program`). -/
namespace AssignLang.Grammar
set_option autoImplicit false

namespace Reading

/-- A reading does not see more of a source than what it gives. -/
theorem run_view {α σ τ : Type} {next : σ → Option Token × σ} {next' : τ → Option Token × τ}
    (view : σ → τ) (h : ∀ s, next' (view s) = ((next s).1, view (next s).2))
    (reading : Reading α) (source : σ) :
    reading.run next' (view source) =
      ((reading.run next source).1, view (reading.run next source).2) := by
  induction reading generalizing source with
  | done answer => rfl
  | ask resume ih =>
    rw [run_ask, run_ask, h]
    exact ih _ _

end Reading

section Run
variable {σ α : Type} (next : σ → Option Token × σ)

namespace Attempt

@[simp] theorem run_fail (fault : Fault) (filename : String) (position : Position) (source : σ) :
    (fail fault filename position : Attempt α).run next source =
      (.error ⟨fault, filename, position⟩, source) := rfl

theorem run_read_none {source source' : σ} (h : next source = (none, source')) (filename : String)
    (last : Position) (resume : Token → Attempt α) :
    (read filename last resume).run next source =
      (.error ⟨.endOfStream, filename, last⟩, source') := by
  rw [read, Reading.run_ask, h]
  rfl

theorem run_expect_some {source source' : σ} {token : Token}
    (h : next source = (some token, source')) (kind : TokenKind) (filename : String)
    (last : Position) (resume : Token → Attempt α) :
    (expect kind filename last resume).run next source =
      if token.kind = kind then (resume token).run next source'
      else (.error ⟨.unexpected token.kind token.text, filename, token.position⟩, source') := by
  rw [expect, read, Reading.run_ask, h]
  by_cases same : token.kind = kind
  · simp only [same, if_true]
  · simp only [same, if_false]
    rfl

theorem run_expect_eq_ok_iff {kind : TokenKind} {filename : String} {last : Position}
    {resume : Token → Attempt α} {source rest : σ} {answer : α} :
    (expect kind filename last resume).run next source = (.ok answer, rest) ↔
      ∃ token source', next source = (some token, source') ∧ token.kind = kind ∧
        (resume token).run next source' = (.ok answer, rest) := by
  constructor
  · intro h
    cases given : next source with
    | mk token? source' =>
      cases token? with
      | none =>
        rw [expect, run_read_none next given] at h
        exact absurd (congrArg Prod.fst h) (by simp)
      | some token =>
        rw [run_expect_some next given] at h
        by_cases same : token.kind = kind
        · rw [if_pos same] at h
          exact ⟨token, source', rfl, same, h⟩
        · rw [if_neg same] at h
          exact absurd (congrArg Prod.fst h) (by simp)
  · rintro ⟨token, source', given, same, h⟩
    rw [run_expect_some next given, if_pos same, h]

end Attempt

theorem run_program_eq_ok_iff {filename : String} {source rest : σ} {program : Program} :
    (Grammar.program filename).run next source = (.ok program, rest) ↔
      ∃ target source₁ sign source₂ number value,
        next source = (some target, source₁) ∧ target.kind = .identifier ∧
        next source₁ = (some sign, source₂) ∧ sign.kind = .assign ∧
        next source₂ = (some number, rest) ∧ number.kind = .number ∧
        Text.Numeral.int32? number.text.toList = some value ∧
        program = ⟨[.assignment target.text (.integer value)]⟩ := by
  constructor
  · intro h
    obtain ⟨target, source₁, h₁, identifier, h⟩ := (Attempt.run_expect_eq_ok_iff next).mp h
    obtain ⟨sign, source₂, h₂, assign, h⟩ := (Attempt.run_expect_eq_ok_iff next).mp h
    obtain ⟨number, source₃, h₃, isNumber, h⟩ := (Attempt.run_expect_eq_ok_iff next).mp h
    cases value : Text.Numeral.int32? number.text.toList with
    | none =>
      simp only [value, Attempt.run_fail] at h
      exact absurd (congrArg Prod.fst h) (by simp)
    | some v =>
      simp only [value, Reading.run_done, Prod.mk.injEq, Except.ok.injEq] at h
      obtain ⟨rfl, rfl⟩ := h
      exact ⟨target, source₁, sign, source₂, number, v, h₁, identifier, h₂, assign, h₃, isNumber,
        value, rfl⟩
  · rintro ⟨target, source₁, sign, source₂, number, v, h₁, identifier, h₂, assign, h₃, isNumber,
      value, rfl⟩
    rw [Grammar.program, Attempt.run_expect_some next h₁, if_pos identifier,
      Attempt.run_expect_some next h₂, if_pos assign, Attempt.run_expect_some next h₃,
      if_pos isNumber, value]
    rfl

/-! ## Where the tokens stop -/

namespace Attempt

/-- Where the tokens stop it fails, without another question. -/
def Strict : Attempt α → Prop
  | .done _ => True
  | .ask resume => (∃ e, resume none = .done (.error e)) ∧ ∀ token, Strict (resume (some token))

theorem strict_expect {kind : TokenKind} {filename : String} {last : Position}
    {resume : Token → Attempt α} (h : ∀ token, (resume token).Strict) :
    (expect kind filename last resume).Strict := by
  refine ⟨⟨_, rfl⟩, fun token => ?_⟩
  show Strict (if token.kind = kind then resume token else refuse filename token)
  by_cases same : token.kind = kind
  · rw [if_pos same]
    exact h token
  · rw [if_neg same]
    trivial

end Attempt

theorem strict_program (filename : String) : (Grammar.program filename).Strict := by
  refine Attempt.strict_expect fun target => ?_
  refine Attempt.strict_expect fun sign => ?_
  refine Attempt.strict_expect fun number => ?_
  split <;> trivial

end Run

/-! ## Where a live source leads -/

section Ends
variable {σ α : Type} (next : σ → Option Token × σ) (Live : σ → Prop)

/-- How a reading ends on a source that has a token to give as long as it is live, and is live
until it gives a terminal one. -/
inductive Ends (filename : String) : Except Error α × σ → Prop
  | early {result : Except Error α} {rest : σ} (live : Live rest)
      (proper : ∀ e, result = .error e → e.fault ≠ .endOfStream ∧
        ∀ kind text, e.fault = .unexpected kind text → kind ≠ .eof ∧ kind ≠ .error) :
      Ends filename (result, rest)
  | terminal {source rest : σ} {token : Token} (live : Live source)
      (given : next source = (some token, rest)) (terminal : token.isTerminal = true) :
      Ends filename (.error ⟨.unexpected token.kind token.text, filename, token.position⟩, rest)

theorem Attempt.ends_expect {kind : TokenKind} {filename : String} {last : Position}
    {resume : Token → Attempt α} {source : σ}
    (lives : ∀ s, Live s → ∃ token s', next s = (some token, s') ∧
      (token.isTerminal = false → Live s'))
    (proper : kind ≠ .eof ∧ kind ≠ .error)
    (h : ∀ token s, Live s → Ends next Live filename ((resume token).run next s))
    (live : Live source) :
    Ends next Live filename ((expect kind filename last resume).run next source) := by
  obtain ⟨token, rest, given, live'⟩ := lives source live
  rw [run_expect_some next given]
  by_cases same : token.kind = kind
  · rw [if_pos same]
    refine h token rest (live' ?_)
    simp [Token.isTerminal, same, proper]
  · rw [if_neg same]
    cases terminal : token.isTerminal with
    | true => exact .terminal live given terminal
    | false =>
      refine .early (live' terminal) ?_
      rintro e refused
      obtain rfl := Except.error.inj refused
      refine ⟨by simp, ?_⟩
      rintro found text unexpected
      obtain ⟨rfl, rfl⟩ := Fault.unexpected.inj unexpected
      simpa [Token.isTerminal] using terminal

theorem ends_program {filename : String} {source : σ}
    (lives : ∀ s, Live s → ∃ token s', next s = (some token, s') ∧
      (token.isTerminal = false → Live s'))
    (live : Live source) :
    Ends next Live filename ((program filename).run next source) := by
  refine Attempt.ends_expect next Live lives (by decide) (fun target s live => ?_) live
  refine Attempt.ends_expect next Live lives (by decide) (fun sign s live => ?_) live
  refine Attempt.ends_expect next Live lives (by decide) (fun number s live => ?_) live
  cases value : Text.Numeral.int32? number.text.toList with
  | some v => exact .early live (by simp)
  | none =>
    refine .early live ?_
    rintro e refused
    obtain rfl := Except.error.inj refused
    simp

/-- A source that gives tokens up to a terminal one has enough of them. -/
theorem fault_run_program {filename : String} {source rest : σ} {e : Error}
    (lives : ∀ s, Live s → ∃ token s', next s = (some token, s') ∧
      (token.isTerminal = false → Live s'))
    (live : Live source) (h : (program filename).run next source = (.error e, rest)) :
    e.fault ≠ .endOfStream := by
  have ends : Ends next Live filename ((program filename).run next source) :=
    ends_program next Live lives live
  rw [h] at ends
  cases ends with
  | early _ proper => exact (proper e rfl).1
  | terminal => simp

end Ends

end AssignLang.Grammar
