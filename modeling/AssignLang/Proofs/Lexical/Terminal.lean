import AssignLang.Proofs.Lexical.MaximalMunch

/-! Terminal tokens. Main statement: a scanner that is not done has a token to give, and it is done
after that token exactly if the token is a terminal one (`exists_next`); between two tokens it keeps
no error, and it keeps one as soon as it has given an error token (`continues_next`). -/
namespace AssignLang.Lexical
set_option autoImplicit false

theorem isTerminal_iff (t : Token) : t.isTerminal = true ↔ t.kind = .eof ∨ t.kind = .error := by
  simp [Token.isTerminal]

theorem wordKind_proper (word : List Char) : wordKind word ≠ .eof ∧ wordKind word ≠ .error := by
  unfold wordKind
  split <;> simp

theorem longest_proper {c : Char} {s : Symbol} (found : symbol? c = some s) (again : Bool) :
    (s.longest again).1 ≠ .eof ∧ (s.longest again).1 ≠ .error := by
  have proper : (s.alone ≠ .eof ∧ s.alone ≠ .error) ∧
      s.doubled ≠ some .eof ∧ s.doubled ≠ some .error := by
    unfold symbol? at found
    split at found
    case h_15 => exact absurd found (by simp)
    all_goals
      obtain rfl := Option.some.inj found
      simp
  unfold Symbol.longest
  split
  next kind twice =>
    rw [twice] at proper
    simpa using proper.2
  next => exact proper.1

theorem IsLexeme.proper {w value : List Char} {kind : TokenKind} (h : IsLexeme w kind value) :
    kind ≠ .eof ∧ kind ≠ .error := by
  cases h with
  | symbol member => exact (by decide : ∀ p ∈ symbols, p.2 ≠ .eof ∧ p.2 ≠ .error) _ member
  | _ => decide

namespace Scanner

/-- What a run of `step` tells of the end of the stream: it is there exactly if a terminal token was
given. -/
def Foretells : Option Token × Scanner → Prop
  | (none, s) => s.mode ≠ .done
  | (some token, s) => s.mode = .done ↔ token.isTerminal = true

theorem foretells_emit (s : Scanner) {kind : TokenKind} (proper : kind ≠ .eof ∧ kind ≠ .error) :
    Foretells (s.emit kind .root) := by
  show Mode.root = .done ↔ _
  rw [isTerminal_iff]
  simpa using proper

theorem foretells_fail (s : Scanner) (fault : Fault) : Foretells (s.fail fault) :=
  ⟨fun _ => rfl, fun _ => rfl⟩

theorem foretells_root {s : Scanner} (mode : s.mode = .root) : Foretells s.root := by
  unfold root
  dsimp only
  split
  · exact ⟨fun _ => rfl, fun _ => rfl⟩
  next c rest ahead =>
    split
    · show s.mode ≠ .done
      simp [mode]
    split
    · show Mode.quoted ≠ .done
      simp
    split
    · show Mode.word ≠ .done
      simp
    split
    · show Mode.number ≠ .done
      simp
    split
    next symbol found => exact foretells_emit _ (longest_proper found _)
    next => exact foretells_fail _ _

theorem foretells_step {s : Scanner} (running : s.mode ≠ .done) : Foretells s.step := by
  unfold step
  split
  next mode => exact foretells_root mode
  next mode =>
    unfold quoted
    split
    · show Mode.root = .done ↔ _
      simp [Token.isTerminal]
    · exact foretells_fail _ _
  next mode => exact foretells_emit _ (wordKind_proper _)
  next mode => exact foretells_emit _ (by simp)
  next mode => exact absurd mode running

theorem exists_next {s : Scanner} (running : s.mode ≠ .done) :
    ∃ token s', s.next = (some token, s') ∧ (s'.mode = .done ↔ token.isTerminal = true) := by
  fun_induction next s with
  | case1 s done => exact absurd done running
  | case2 s _ r given =>
    obtain ⟨token, first⟩ := Option.isSome_iff_exists.mp given
    have foretold : Foretells (r.1, r.2) := foretells_step running
    rw [first] at foretold
    exact ⟨token, r.2, by rw [← first], foretold⟩
  | case3 s _ r quiet ih =>
    have foretold : Foretells (r.1, r.2) := foretells_step running
    rw [Option.not_isSome_iff_eq_none.mp quiet] at foretold
    exact ih foretold

theorem done_iff_of_next {s s' : Scanner} {token : Token} (h : s.next = (some token, s')) :
    s'.mode = .done ↔ token.isTerminal = true := by
  obtain ⟨token', s'', given, foretold⟩ := exists_next (running_of_next h)
  rw [h] at given
  obtain ⟨first, rfl⟩ := Prod.mk.inj given
  obtain rfl := Option.some.inj first
  exact foretold

theorem next_eq_none_iff (s : Scanner) : s.next.1 = none ↔ s.mode = .done := by
  by_cases done : s.mode = .done
  · rw [next_of_done done]
    simp [done]
  · obtain ⟨token, s', given, -⟩ := exists_next done
    simp [given, done]

/-! ## From one token to the next -/

/-- What a scanner between two tokens gives next, and how it stands then. -/
inductive Continues (filename : String) : Option Token × Scanner → Prop
  | more {token : Token} (proper : token.isTerminal = false) (anchor place : Position)
      (text : List Char) : Continues filename (some token, between filename anchor place text)
  | eof {token : Token} {s : Scanner} (kind : token.kind = .eof) (done : s.mode = .done)
      (clear : s.error = none) : Continues filename (some token, s)
  | error {token : Token} {s : Scanner} (e : Error) (kind : token.kind = .error)
      (done : s.mode = .done) (kept : s.error = some e) : Continues filename (some token, s)

theorem continues_next (filename : String) (anchor place : Position) (text : List Char) :
    Continues filename (between filename anchor place text).next := by
  cases ahead : text.dropWhile isBlank with
  | nil =>
    rw [next_between_nil _ _ _ ahead]
    exact .eof rfl rfl rfl
  | cons c rest =>
    rw [next_between_blanks, ahead]
    rcases next_cons_cases (head_dropWhile_isBlank ahead) rest filename anchor
      (place.after (text.takeWhile isBlank)) with
      ⟨w, kind, value, longest, given⟩ | ⟨-, -, given⟩ | ⟨-, -, given⟩
    · rw [given]
      have proper := longest.isLexeme.proper
      refine .more ?_ _ _ _
      simp [Token.isTerminal, proper]
    · rw [given]
      exact .error _ rfl rfl rfl
    · rw [given]
      exact .error _ rfl rfl rfl

end Scanner

end AssignLang.Lexical
