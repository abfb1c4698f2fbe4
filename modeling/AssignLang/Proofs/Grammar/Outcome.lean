import AssignLang.Proofs.Grammar.TokenList
import AssignLang.Proofs.Text.Numeral

/-! Parses of tokens that nothing is known of: any kinds, texts and positions, in any number. `Outcome`
says how one parse ends by the first of its three places where the tokens stop or one of them does not
fit, and `Outcomes` how one parse after another goes through the same tokens. Main statements: this is
the parse (`parse_eq_iff`), and these are the parses (`parses_eq_iff`). -/
namespace AssignLang.Grammar
set_option autoImplicit false

open Text.Numeral (Denotes)

/-! ## How a parse ends -/

/-- The kinds of the tokens of an assignment, in order. -/
def shape : List TokenKind :=
  [.identifier, .assign, .number]

/-- Where the last of these tokens stands, or the start of a text if there is none. -/
def lastPosition (front : List Token) : Position :=
  (front.getLast?.map Token.position).getD .start

/-- `Outcome filename given result rest`: a parse of the tokens `given` ends with this result and
leaves `rest` unread. Where a token is missing or of another kind, `front` is what fits before. -/
inductive Outcome (filename : String) : List Token → Except Error Program → List Token → Prop
  | accepted {target sign number : Token} {value : Int32} (rest : List Token)
      (identifier : target.kind = .identifier) (assign : sign.kind = .assign)
      (isNumber : number.kind = .number) (denotes : Denotes number.text.toList value.toInt) :
      Outcome filename (target :: sign :: number :: rest)
        (.ok ⟨[.assignment target.text (.integer value)]⟩) rest
  | missing {front : List Token} (fits : front.map Token.kind <+: shape)
      (short : front.length < shape.length) :
      Outcome filename front (.error ⟨.endOfStream, filename, lastPosition front⟩) []
  | unexpected {front : List Token} {token : Token} {kind : TokenKind} (rest : List Token)
      (fits : front.map Token.kind <+: shape) (expected : shape[front.length]? = some kind)
      (other : token.kind ≠ kind) :
      Outcome filename (front ++ token :: rest)
        (.error ⟨.unexpected token.kind token.text, filename, token.position⟩) rest
  | invalid {target sign number : Token} (rest : List Token)
      (identifier : target.kind = .identifier) (assign : sign.kind = .assign)
      (isNumber : number.kind = .number)
      (out : ∀ i, Denotes number.text.toList i → i < -2147483648 ∨ 2147483647 < i) :
      Outcome filename (target :: sign :: number :: rest)
        (.error ⟨.invalidInteger number.text, filename, number.position⟩) rest

/-- `Outcomes readers given results left`: parses in turn, one for each name of the file, go through
the tokens `given` with these results and leave `left` unread. -/
inductive Outcomes : List String → List Token → List (Except Error Program) → List Token → Prop
  | nil (given : List Token) : Outcomes [] given [] given
  | cons {reader : String} {readers : List String} {given rest left : List Token}
      {result : Except Error Program} {results : List (Except Error Program)}
      (first : Outcome reader given result rest) (others : Outcomes readers rest results left) :
      Outcomes (reader :: readers) given (result :: results) left

/-- The results of parses in turn, each of the tokens that the one before has left, and the tokens
that the last one leaves. -/
def parses : List String → List Token → List (Except Error Program) × List Token
  | [], given => ([], given)
  | reader :: readers, given =>
    let (result, rest) := parse reader given
    let (results, left) := parses readers rest
    (result :: results, left)

/-! ## A parse ends in one of these ways -/

section Outcome
variable {filename : String} {front given rest : List Token}

/-- The next place, once `front` has been read. -/
theorem Attempt.outcome_expect (front : List Token) {kind : TokenKind}
    {resume : Token → Attempt Program} {last : Position} (fits : front.map Token.kind <+: shape)
    (expected : shape[front.length]? = some kind) (stood : last = lastPosition front)
    (more : ∀ token rest, token.kind = kind →
      Outcome filename (front ++ token :: rest) ((resume token).run Reading.pop rest).1
        ((resume token).run Reading.pop rest).2) :
    Outcome filename (front ++ given) ((expect kind filename last resume).run Reading.pop given).1
      ((expect kind filename last resume).run Reading.pop given).2 := by
  subst stood
  cases given with
  | nil =>
    rw [expect, run_read_none Reading.pop rfl, List.append_nil]
    exact .missing fits (List.getElem?_eq_some_iff.mp expected).1
  | cons token rest =>
    rw [run_expect_some Reading.pop rfl]
    by_cases same : token.kind = kind
    · rw [if_pos same]
      exact more token rest same
    · rw [if_neg same]
      exact .unexpected rest fits expected same

theorem outcome_parse (filename : String) (given : List Token) :
    Outcome filename given (parse filename given).1 (parse filename given).2 := by
  refine Attempt.outcome_expect [] List.nil_prefix rfl rfl fun target rest identifier => ?_
  refine Attempt.outcome_expect [target] ?_ rfl rfl fun sign rest assign => ?_
  · simp [shape, identifier]
  refine Attempt.outcome_expect [target, sign] ?_ rfl rfl fun number rest isNumber => ?_
  · simp [shape, identifier, assign]
  cases value : Text.Numeral.int32? number.text.toList with
  | some v =>
    exact .accepted rest identifier assign isNumber
      (Text.Numeral.int32?_eq_some_iff_denotes.mp value)
  | none =>
    exact .invalid rest identifier assign isNumber (Text.Numeral.int32?_eq_none_iff.mp value)

/-! ## It ends in no other way -/

theorem Attempt.run_expect_cons {α : Type} {kind : TokenKind} {token : Token}
    (same : token.kind = kind) (filename : String) (last : Position) (resume : Token → Attempt α)
    (given : List Token) :
    (expect kind filename last resume).run Reading.pop (token :: given) =
      (resume token).run Reading.pop given := by
  rw [run_expect_some Reading.pop rfl, if_pos same]

/-- What fits is read, and then the token of the next place is expected. -/
theorem exists_parse_append (fits : front.map Token.kind <+: shape)
    (short : front.length < shape.length) (filename : String) :
    ∃ kind resume, shape[front.length]? = some kind ∧ ∀ given, parse filename (front ++ given) =
      (Attempt.expect kind filename (lastPosition front) resume).run Reading.pop given := by
  rcases front with _ | ⟨target, _ | ⟨sign, _ | ⟨number, more⟩⟩⟩
  · exact ⟨.identifier, _, rfl, fun given => rfl⟩
  · have identifier : target.kind = .identifier := by simpa [shape] using fits
    exact ⟨.assign, _, rfl, fun given => Attempt.run_expect_cons identifier ..⟩
  · obtain ⟨identifier, assign⟩ : target.kind = .identifier ∧ sign.kind = .assign := by
      simpa [shape] using fits
    exact ⟨.number, _, rfl, fun given => (Attempt.run_expect_cons identifier ..).trans
      (Attempt.run_expect_cons assign ..)⟩
  · simp only [shape, List.length_cons, List.length_nil] at short
    omega

theorem Outcome.parse_eq {result : Except Error Program}
    (h : Outcome filename given result rest) : parse filename given = (result, rest) := by
  cases h with
  | @accepted target sign number value _ identifier assign isNumber denotes =>
    exact (run_program_eq_ok_iff Reading.pop).mpr ⟨target, _, sign, _, number, value, rfl, identifier,
      rfl, assign, rfl, isNumber, Text.Numeral.int32?_eq_some_iff_denotes.mpr denotes, rfl⟩
  | missing fits short =>
    obtain ⟨kind, resume, -, reached⟩ := exists_parse_append fits short filename
    rw [← List.append_nil given, reached, List.append_nil]
    exact Attempt.run_read_none Reading.pop rfl ..
  | unexpected _ fits expected other =>
    have short := (List.getElem?_eq_some_iff.mp expected).1
    obtain ⟨kind, resume, same, reached⟩ := exists_parse_append fits short filename
    obtain rfl := Option.some.inj (expected.symm.trans same)
    rw [reached, Attempt.run_expect_some Reading.pop rfl, if_neg other]
  | @invalid target sign number _ identifier assign isNumber out =>
    have third : parse filename (target :: sign :: number :: rest) = _ :=
      (Attempt.run_expect_cons identifier ..).trans ((Attempt.run_expect_cons assign ..).trans
        (Attempt.run_expect_cons isNumber ..))
    rw [third, Text.Numeral.int32?_eq_none_iff.mpr out]
    rfl

theorem parse_eq_iff {result : Except Error Program} :
    parse filename given = (result, rest) ↔ Outcome filename given result rest := by
  constructor
  · intro reached
    have ends := outcome_parse filename given
    rwa [reached] at ends
  · exact Outcome.parse_eq

end Outcome

/-- **Parses in turn**, of any tokens: each result, each position and what each of them leaves. -/
theorem parses_eq_iff (readers : List String) (given : List Token)
    (results : List (Except Error Program)) (left : List Token) :
    parses readers given = (results, left) ↔ Outcomes readers given results left := by
  induction readers generalizing given results with
  | nil =>
    rw [parses, Prod.mk.injEq]
    constructor
    · rintro ⟨rfl, rfl⟩
      exact .nil given
    · rintro ⟨⟩
      exact ⟨rfl, rfl⟩
  | cons reader readers ih =>
    rw [parses]
    constructor
    · rintro ⟨⟩
      exact .cons (outcome_parse reader given) ((ih _ _).mp rfl)
    · rintro (_ | ⟨first, others⟩)
      have rest := (ih _ _).mpr others
      simp only [first.parse_eq, rest]

end AssignLang.Grammar
