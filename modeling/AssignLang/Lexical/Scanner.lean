import AssignLang.Lexical.Cursor
import AssignLang.Lexical.Fault
import AssignLang.Lexical.Spelling

/-! The scanner, a machine that reads a text piece by piece and gives a token when it is asked for
one. Each run of `step` takes one piece of the text: blanks, an opening quote, or the spelling of a
token. Between two runs the window of the cursor is empty. Main statements: every run comes nearer
to the end (`size_step_lt`), and so does every token (`size_next_lt`), so both loops end. -/
namespace AssignLang.Lexical
set_option autoImplicit false

/-- What the next piece of the text is known to be. -/
inductive Mode
  | root
  | quoted
  | word
  | number
  | done
deriving DecidableEq

structure Scanner where
  filename : String
  cursor : Cursor
  /-- Where the token now being read begins, its opening quote included. -/
  anchor : Position
  mode : Mode
  error : Option Error
deriving DecidableEq

namespace Scanner

def ofText (filename text : String) : Scanner :=
  ⟨filename, .ofText text.toList, .start, .root, none⟩

/-! ## One piece of the text -/

/-- Gives the window as a token. -/
def emit (s : Scanner) (kind : TokenKind) (mode : Mode) : Option Token × Scanner :=
  (some ⟨kind, String.ofList s.cursor.window, s.anchor⟩,
    { s with cursor := s.cursor.cut, mode := mode })

/-- Gives the window as the last token and keeps the reason. -/
def fail (s : Scanner) (fault : Fault) : Option Token × Scanner :=
  { s with error := some ⟨fault, s.filename, s.anchor⟩ }.emit .error .done

def root (s : Scanner) : Option Token × Scanner :=
  let s := { s with anchor := s.cursor.place }
  match s.cursor.ahead with
  | [] => s.emit .eof .done
  | c :: rest =>
    if isBlank c then (none, { s with cursor := s.cursor.skip 1 })
    else if c = '"' then (none, { s with cursor := s.cursor.skip 1, mode := .quoted })
    else if isLetter c then (none, { s with mode := .word })
    else if isDigit c then (none, { s with mode := .number })
    else match symbol? c with
      | some symbol =>
        let (kind, length) := symbol.longest (rest.head? = some c)
        { s with cursor := s.cursor.take length }.emit kind .root
      | none => { s with cursor := s.cursor.take 1 }.fail (.unexpectedCharacter c)

/-- The token of a string holds what stands between the quotes, as it stands. -/
def quoted (s : Scanner) : Option Token × Scanner :=
  match bodyLength? s.cursor.ahead with
  | some length =>
    let (token, s) := { s with cursor := s.cursor.take length }.emit .string .root
    (token, { s with cursor := s.cursor.skip 1 })
  | none => { s with cursor := s.cursor.takeAll }.fail .unterminatedString

def word (s : Scanner) : Option Token × Scanner :=
  let s := { s with cursor := s.cursor.takeWhile isLetter }
  s.emit (wordKind s.cursor.window) .root

/-- One point may follow the digits, and more digits the point. -/
def number (s : Scanner) : Option Token × Scanner :=
  let whole := s.cursor.takeWhile isDigit
  let cursor :=
    if whole.ahead.head? = some '.' then (whole.take 1).takeWhile isDigit else whole
  { s with cursor := cursor }.emit .number .root

def step (s : Scanner) : Option Token × Scanner :=
  match s.mode with
  | .root => s.root
  | .quoted => s.quoted
  | .word => s.word
  | .number => s.number
  | .done => (none, s)

/-! ## Every run comes nearer to the end -/

/-- Bounds the runs of `step`. A word or a number that has begun takes at least one character. -/
def size (s : Scanner) : Nat :=
  2 * s.cursor.ahead.length +
    match s.mode with
    | .done => 0
    | .root => 1
    | .quoted => 2
    | .word => if s.cursor.ahead.head?.any isLetter then 0 else 2
    | .number => if s.cursor.ahead.head?.any isDigit then 0 else 2

theorem length_dropWhile_lt {p : Char → Bool} {text : List Char} (h : text.head?.any p = true) :
    (text.dropWhile p).length < text.length := by
  cases text with
  | nil => simp at h
  | cons c rest =>
    rw [List.dropWhile_cons_of_pos (by simpa using h), List.length_cons]
    exact Nat.lt_succ_of_le (List.dropWhile_sublist p).length_le

theorem length_dropWhile_le (p : Char → Bool) (text : List Char) :
    (text.dropWhile p).length ≤ text.length :=
  (List.dropWhile_sublist p).length_le

theorem size_root_lt (s : Scanner) (h : s.mode = .root) : s.root.2.size < s.size := by
  cases text : s.cursor.ahead with
  | nil =>
    simp only [root, size, emit, Cursor.cut, text, h, List.length_nil]
    omega
  | cons c rest =>
    simp only [root, text]
    split
    · simp only [size, Cursor.skip, Cursor.take, Cursor.cut, text, h, List.length_drop,
        List.length_cons]
      omega
    split
    · simp only [size, Cursor.skip, Cursor.take, Cursor.cut, text, h, List.length_drop,
        List.length_cons]
      omega
    split
    next letter =>
      simp only [size, text, h, letter, List.head?_cons, Option.any_some, if_true]
      omega
    split
    next digit =>
      simp only [size, text, h, digit, List.head?_cons, Option.any_some, if_true]
      omega
    split
    next symbol _ =>
      have length := symbol.longest_pos (rest.head? = some c)
      simp only [size, emit, Cursor.take, Cursor.cut, text, h, List.length_drop, List.length_cons]
      omega
    next =>
      simp only [size, fail, emit, Cursor.take, Cursor.cut, text, h, List.length_drop,
        List.length_cons]
      omega

theorem size_quoted_lt (s : Scanner) (h : s.mode = .quoted) : s.quoted.2.size < s.size := by
  rw [quoted]
  split
  · simp only [size, emit, Cursor.skip, Cursor.take, Cursor.cut, h, List.length_drop]
    omega
  · simp only [size, fail, emit, Cursor.takeAll, Cursor.cut, h, List.length_nil]
    omega

theorem size_word_lt (s : Scanner) (h : s.mode = .word) : s.word.2.size < s.size := by
  by_cases letter : s.cursor.ahead.head?.any isLetter = true
  · have shorter := length_dropWhile_lt letter
    simp only [size, word, emit, Cursor.takeWhile, Cursor.cut, h, letter, if_true]
    omega
  · have shorter := length_dropWhile_le isLetter s.cursor.ahead
    simp only [size, word, emit, Cursor.takeWhile, Cursor.cut, h, letter, if_false,
      Bool.false_eq_true]
    omega

theorem length_ahead_number_le (s : Scanner) :
    s.number.2.cursor.ahead.length ≤ (s.cursor.ahead.dropWhile isDigit).length := by
  simp only [number, emit, Cursor.cut]
  split
  · refine Nat.le_trans (length_dropWhile_le isDigit _) ?_
    simp [Cursor.take, Cursor.takeWhile]
  · simp [Cursor.takeWhile]

theorem size_number_lt (s : Scanner) (h : s.mode = .number) : s.number.2.size < s.size := by
  have root : s.number.2.mode = .root := rfl
  have taken := length_ahead_number_le s
  by_cases digit : s.cursor.ahead.head?.any isDigit = true
  · have shorter := length_dropWhile_lt digit
    simp only [size, root, h, digit, if_true]
    omega
  · have shorter := length_dropWhile_le isDigit s.cursor.ahead
    simp only [size, root, h, digit, if_false, Bool.false_eq_true]
    omega

theorem size_step_lt (s : Scanner) (h : s.mode ≠ .done) : s.step.2.size < s.size := by
  rw [step]
  split
  next mode => exact size_root_lt s mode
  next mode => exact size_quoted_lt s mode
  next mode => exact size_word_lt s mode
  next mode => exact size_number_lt s mode
  next mode => exact absurd mode h

/-! ## The next token, and all that are left -/

/-- The next token, or none once the last one has been given. -/
def next (s : Scanner) : Option Token × Scanner :=
  if _running : s.mode = .done then (none, s)
  else
    let r := s.step
    if r.1.isSome then r else next r.2
termination_by s.size
decreasing_by exact size_step_lt s _running

theorem size_next_lt (s : Scanner) (h : s.mode ≠ .done) : s.next.2.size < s.size := by
  fun_induction next s with
  | case1 s done => exact absurd done h
  | case2 s running r given => exact size_step_lt s running
  | case3 s running r quiet ih =>
    by_cases done : r.2.mode = .done
    · rw [next, dif_pos done]
      exact size_step_lt s running
    · exact Nat.lt_trans (ih done) (size_step_lt s running)

/-- Every token that is left, in order, and the scanner after the last one. -/
def drain (s : Scanner) : List Token × Scanner :=
  if _running : s.mode = .done then ([], s)
  else
    let r := s.next
    let rest := drain r.2
    (r.1.toList ++ rest.1, rest.2)
termination_by s.size
decreasing_by exact size_next_lt s _running

end Scanner

end AssignLang.Lexical
