import AssignLang.Proofs.FrontEnd.SourceLanguage

/-! One reading after another on the same scanner. A reading takes the three tokens of an assignment
and leaves the scanner at the first character behind the numeral. So the readings of a text that is
made of assignments give them in order (`afterParses_between`), the next one meets the end of the
text (`parse_between_tail`), and those behind it find no token at all (`parse_of_done`). Main
statement: `parse_afterParses`. -/
namespace AssignLang
set_option autoImplicit false

open Lexical

/-! ## Several assignments -/

/-- Assignments in a row, with blanks at the end. -/
def written (statements : List Statement) (tail : Blanks) : List Char :=
  statements.flatMap Statement.text ++ tail.val

/-- The tokens of assignments whose text begins at `place`, up to the end of the text. -/
def writtenTokens (place : Position) (tail : Blanks) : List Statement → List Token
  | [] => [⟨.eof, "", place.after tail.val⟩]
  | u :: rest => u.tokens place ++ writtenTokens (place.after u.text) tail rest

theorem written_nil (tail : Blanks) : written [] tail = tail.val := rfl

theorem written_cons (u : Statement) (rest : List Statement) (tail : Blanks) :
    written (u :: rest) tail = u.text ++ written rest tail := by
  rw [written, List.flatMap_cons, List.append_assoc]
  rfl

theorem stop_of_isBlank {c : Char} (blank : isBlank c = true) : isDigit c = false ∧ c ≠ '.' := by
  constructor
  · rw [← Bool.not_eq_true]
    intro digit
    rw [isBlank_eq_false_of_isDigit digit] at blank
    exact absurd blank (by simp)
  · rintro rfl
    exact absurd blank (by decide)

theorem stop_of_isLetter {c : Char} (letter : isLetter c = true) : isDigit c = false ∧ c ≠ '.' := by
  constructor
  · exact isDigit_eq_false_of_isLetter letter
  · rintro rfl
    exact absurd letter (by decide)

/-- Neither a blank nor a name goes on with a numeral, so nothing has to stand between two
assignments. -/
theorem stop_written (statements : List Statement) (tail : Blanks) :
    ∀ c ∈ (written statements tail).head?, isDigit c = false ∧ c ≠ '.' := by
  intro c first
  cases statements with
  | nil => exact stop_of_isBlank (tail.property c (List.mem_of_mem_head? first))
  | cons u rest =>
    rw [written_cons, u.text_append] at first
    cases gap : u.before.val with
    | cons b more =>
      rw [gap] at first
      obtain rfl := Option.some.inj first
      exact stop_of_isBlank (u.before.property b (by simp [gap]))
    | nil =>
      obtain ⟨d, more, split⟩ := List.exists_cons_of_ne_nil u.named
      rw [gap, split] at first
      obtain rfl := Option.some.inj first
      exact stop_of_isLetter (u.letters d (by simp [split]))

/-! ## The tokens of several assignments -/

section Between
variable (filename : String) (anchor place : Position)

theorem next_between_tail (tail : Blanks) :
    (Scanner.between filename anchor place tail.val).next =
      (some ⟨.eof, "", place.after tail.val⟩,
        Scanner.ended filename (place.after tail.val) (place.after tail.val) [] none) := by
  have ahead : tail.val.dropWhile isBlank = [] := List.dropWhile_eq_nil_iff.mpr tail.property
  have taken : tail.val.takeWhile isBlank = tail.val := List.takeWhile_eq_self_iff.mpr tail.property
  have given := Scanner.next_between_nil filename anchor place ahead
  rwa [taken] at given

theorem drain_between_written (statements : List Statement) (tail : Blanks) :
    (Scanner.between filename anchor place (written statements tail)).drain.1 =
      writtenTokens place tail statements := by
  induction statements generalizing anchor place with
  | nil =>
    have given := next_between_tail filename anchor place tail
    rw [written_nil, Scanner.drain_of_next given, Scanner.drain_of_done rfl]
    rfl
  | cons u rest ih =>
    obtain ⟨target, s₁, sign, s₂, number, last, three, given₁, given₂, given₃⟩ :=
      u.next_between (stop_written rest tail) filename anchor place
    rw [written_cons, Scanner.drain_of_next given₁, Scanner.drain_of_next given₂,
      Scanner.drain_of_next given₃, ih, writtenTokens, three]
    rfl

end Between

/-! ## One reading after another -/

/-- The scanner after a reading for each of these names of the text. -/
def Lexical.Scanner.afterParses (s : Scanner) (readers : List String) : Scanner :=
  readers.foldl (fun s reader => (s.parse reader).2) s

theorem afterParses_cons (s : Scanner) (reader : String) (readers : List String) :
    s.afterParses (reader :: readers) = (s.parse reader).2.afterParses readers := rfl

theorem afterParses_append (s : Scanner) (first second : List String) :
    s.afterParses (first ++ second) = (s.afterParses first).afterParses second :=
  List.foldl_append

theorem parse_of_done {s : Scanner} (done : s.mode = .done) (reader : String) :
    s.parse reader = (.error ⟨.endOfStream, reader, .start⟩, s) :=
  Grammar.Attempt.run_read_none _ (Scanner.next_of_done done) ..

theorem afterParses_of_done {s : Scanner} (done : s.mode = .done) (readers : List String) :
    s.afterParses readers = s := by
  induction readers with
  | nil => rfl
  | cons reader readers ih =>
    rw [afterParses_cons, parse_of_done done]
    exact ih

section Between
variable (filename : String) (anchor place : Position)

/-- As long as there are assignments left, each reading takes one. -/
theorem afterParses_between (statements : List Statement) (tail : Blanks) (readers : List String)
    (within : readers.length ≤ statements.length) :
    ∃ last, (Scanner.between filename anchor place (written statements tail)).afterParses readers =
      Scanner.between filename last
        (place.after ((statements.take readers.length).flatMap Statement.text))
        (written (statements.drop readers.length) tail) := by
  induction readers generalizing statements anchor place with
  | nil => exact ⟨anchor, rfl⟩
  | cons reader readers ih =>
    cases statements with
    | nil => exact absurd within (by simp)
    | cons u rest =>
      obtain ⟨last, answered⟩ :=
        u.parse_between (stop_written rest tail) filename anchor place reader
      obtain ⟨last', reached⟩ := ih last (place.after u.text) rest (Nat.le_of_succ_le_succ within)
      refine ⟨last', ?_⟩
      rw [written_cons, afterParses_cons, answered, List.length_cons, List.take_succ_cons,
        List.flatMap_cons, Position.after_append]
      exact reached

theorem parse_between_tail (tail : Blanks) (reader : String) :
    (Scanner.between filename anchor place tail.val).parse reader =
      (.error ⟨.unexpected .eof "", reader, place.after tail.val⟩,
        Scanner.ended filename (place.after tail.val) (place.after tail.val) [] none) := by
  have given := next_between_tail filename anchor place tail
  rw [Scanner.parse, Grammar.program, Grammar.Attempt.run_expect_some _ given]
  rfl

theorem afterParses_whole {statements : List Statement} {readers : List String}
    (length : readers.length = statements.length) (tail : Blanks) :
    ∃ last, (Scanner.between filename anchor place (written statements tail)).afterParses readers =
      Scanner.between filename last (place.after (statements.flatMap Statement.text)) tail.val := by
  obtain ⟨last, reached⟩ := afterParses_between filename anchor place statements tail readers
    (Nat.le_of_eq length)
  rw [length, List.take_length, List.drop_length, written_nil] at reached
  exact ⟨last, reached⟩

/-- The reading behind the last assignment takes the end of the text, and no token is left. -/
theorem done_afterParses {statements : List Statement} {tail : Blanks} {readers : List String}
    (more : statements.length < readers.length) :
    ((Scanner.between filename anchor place (written statements tail)).afterParses readers).mode =
      .done := by
  have length : (readers.take statements.length).length = statements.length :=
    List.length_take_of_le (Nat.le_of_lt more)
  obtain ⟨last, reached⟩ := afterParses_whole filename anchor place length tail
  obtain ⟨reader, rest, behind⟩ : ∃ reader rest, readers.drop statements.length = reader :: rest := by
    apply List.exists_cons_of_ne_nil
    rw [ne_eq, List.drop_eq_nil_iff]
    omega
  have ended := parse_between_tail filename last
    (place.after (statements.flatMap Statement.text)) tail reader
  rw [← List.take_append_drop statements.length readers, behind, afterParses_append, reached,
    afterParses_cons, ended, afterParses_of_done rfl]
  rfl

end Between

/-- **Readings in turn**, of a text that is made of assignments. -/
theorem parse_afterParses (filename : String) {text : String} {statements : List Statement}
    {tail : Blanks} (shape : text.toList = written statements tail) (readers : List String)
    {s : Scanner} (reached : s = (Scanner.ofText filename text).afterParses readers)
    (reader : String) :
    stream filename text = writtenTokens .start tail statements ∧
      (∀ done u later, statements = done ++ u :: later → readers.length = done.length →
        (∃ value : Int32, value.toInt = Nat.ofDigitChars 10 u.digits 0 ∧
          (s.parse reader).1 = .ok ⟨[.assignment (String.ofList u.name) (.integer value)]⟩) ∧
        (s.parse reader).2.drain.1 =
          writtenTokens (Position.start.after ((done ++ [u]).flatMap Statement.text)) tail later) ∧
      (readers.length = statements.length →
        (s.parse reader).1 =
          .error ⟨.unexpected .eof "", reader, .ofOffset text.toList text.toList.length⟩) ∧
      (statements.length < readers.length →
        (s.parse reader).1 = .error ⟨.endOfStream, reader, .start⟩) := by
  rw [Scanner.ofText_eq_between, shape] at reached
  subst reached
  refine ⟨?_, ?_, ?_, ?_⟩
  · rw [stream, Scanner.ofText_eq_between, shape]
    exact drain_between_written filename .start .start statements tail
  · rintro done u later rfl length
    obtain ⟨last, reached⟩ := afterParses_between filename .start .start (done ++ u :: later) tail
      readers (by simp [length])
    rw [length, List.take_left, List.drop_left, written_cons] at reached
    obtain ⟨last', answered⟩ := u.parse_between (stop_written later tail) filename last
      (Position.start.after (done.flatMap Statement.text)) reader
    rw [reached, answered]
    refine ⟨⟨u.value, u.toInt_value, rfl⟩, ?_⟩
    rw [List.flatMap_append, Position.after_append, List.flatMap_singleton]
    exact drain_between_written ..
  · intro length
    obtain ⟨last, reached⟩ := afterParses_whole filename .start .start length tail
    have ended := parse_between_tail filename last
      (Position.start.after (statements.flatMap Statement.text)) tail reader
    rw [← Position.after_append] at ended
    rw [reached, Position.ofOffset_eq, List.take_length, shape]
    exact congrArg Prod.fst ended
  · intro more
    rw [parse_of_done (done_afterParses filename .start .start more)]

/-- Nothing stands between the numeral of the first assignment and the name of the second. -/
theorem parse_afterParses_adjacent :
    (((Scanner.ofText "f" "a=1b=2").afterParses ["g"]).parse "h").1 =
        .ok ⟨[.assignment "b" (.integer 2)]⟩ ∧
      (((Scanner.ofText "f" "a=1b=2").afterParses ["g"]).parse "h").2.drain.1 =
        [⟨.eof, "", ⟨1, 7⟩⟩] ∧
      (((Scanner.ofText "f" "a=1b=2").afterParses ["g", "h"]).parse "i").1 =
        .error ⟨.unexpected .eof "", "i", ⟨1, 7⟩⟩ ∧
      (((Scanner.ofText "f" "a=1b=2").afterParses ["g", "h", "i"]).parse "j").1 =
        .error ⟨.endOfStream, "j", ⟨1, 1⟩⟩ := by
  let none : Blanks := ⟨[], by simp⟩
  let first : Statement := ⟨none, ['a'], none, none, ['1'], by decide,
    List.forall_mem_singleton.mpr rfl, by decide, by decide, by decide,
    List.forall_mem_singleton.mpr rfl, by decide⟩
  let second : Statement := ⟨none, ['b'], none, none, ['2'], by decide,
    List.forall_mem_singleton.mpr rfl, by decide, by decide, by decide,
    List.forall_mem_singleton.mpr rfl, by decide⟩
  have shape : "a=1b=2".toList = written [first, second] none := by decide
  obtain ⟨-, given, -, -⟩ := parse_afterParses "f" shape ["g"] rfl "h"
  obtain ⟨-, -, ended, -⟩ := parse_afterParses "f" shape ["g", "h"] rfl "i"
  obtain ⟨-, -, -, beyond⟩ := parse_afterParses "f" shape ["g", "h", "i"] rfl "j"
  obtain ⟨⟨value, exact, answer⟩, left⟩ := given [first] second [] rfl rfl
  have two : value = 2 := by
    rw [← Int32.toInt_inj, exact]
    decide
  rw [two] at answer
  exact ⟨answer, left, ended rfl, beyond (by decide)⟩

end AssignLang
