import AssignLang.Lexical.Machine
import AssignLang.Proofs.Lexical.Calls
import AssignLang.Proofs.Lexical.Head
import AssignLang.Proofs.Lexical.Poised

/-! The machine on bytes against the scanner. One run of the machine that stands where the scanner does
comes through, and both come to the same token and stand at the same place again (`agrees_run`); so it
is for a call (`next_of_runs`) and for any number of calls (`calls_beside`).
Main statement: no text leads the machine to misuse its head, and wherever it stops its offsets, its
mode and its counters are sound (`machine_never_misused`). -/
namespace AssignLang.Lexical
set_option autoImplicit false

/-! ## Side by side -/

theorem Scanner.Holds.bytes_le {text done : List Char} {s : Scanner} (h : s.Holds text done) :
    bytes (done ++ s.cursor.window) ≤ bytes text := by
  rw [← h.whole, Cursor.remaining, ← List.append_assoc, bytes_append _ s.cursor.ahead]
  exact Nat.le_add_right _ _

namespace Machine

theorem readNumber_between (limit : Nat) (done : List Char) (c : Cursor) (width : Option Nat) :
    (Head.between limit done c.window c.ahead width).readNumber =
      .ok (.between limit done (Scanner.numberCursor c).window (Scanner.numberCursor c).ahead none) := by
  unfold Scanner.numberCursor
  dsimp only
  split
  next point =>
    obtain ⟨rest, ahead⟩ := List.head?_eq_some_iff.mp point
    rw [Head.readNumber_point ahead, Cursor.take, ahead]
    simp [Cursor.takeWhile]
  next whole => rw [Head.readNumber_whole whole, Cursor.takeWhile]

/-- The machine that stands where the scanner does. -/
def beside (limit : Nat) (done : List Char) (s : Scanner) (width : Option Nat)
    (pending : Option Token) : Machine where
  filename := s.filename
  head := .between limit done s.cursor.window s.cursor.ahead width
  anchor := s.anchor
  mode := s.mode
  pending := pending
  error := s.error

/-- A run of the machine comes through, and what it comes to stands beside what the scanner comes to,
with whatever that one has left behind. -/
def Agrees (limit : Nat) (text : List Char) (ran : Except Misuse Machine) (r : Option Token × Scanner) :
    Prop :=
  ∀ done, r.2.Holds text done → ∃ width, ran = .ok (beside limit done r.2 width r.1)

section Agrees
variable {limit : Nat} {text done : List Char} {s : Scanner} {width : Option Nat}
  {pending : Option Token} {mode : Mode}

/-- Only one part of the text can be the one left behind, so it is enough to look at that one. -/
theorem agrees_of_eq {ran : Except Misuse Machine} {r : Option Token × Scanner}
    (behind : r.2.Holds text done) (stands : ran = .ok (beside limit done r.2 width r.1)) :
    Agrees limit text ran r := by
  intro done' behind'
  obtain rfl := behind.done_eq behind'
  exact ⟨width, stands⟩

/-! ## Moves of one run -/

theorem read_beside {c : Char} {rest : List Char} (ahead : s.cursor.ahead = c :: rest) :
    (beside limit done s width pending).head.read =
      .ok (some c,
        (beside limit done { s with cursor := s.cursor.take 1 } (some c.utf8Size) pending).head) := by
  simp only [beside, Cursor.take, ahead, Head.read_cons]
  rfl

theorem read_beside_end (ahead : s.cursor.ahead = []) :
    (beside limit done s width pending).head.read =
      .ok (none, (beside limit done s (some 0) pending).head) := by
  simp only [beside, ahead, Head.read_nil]

theorem accept_beside {c : Char} {rest : List Char} {p : Char → Bool}
    (ahead : s.cursor.ahead = c :: rest) (wished : p c = true) :
    (beside limit done s width pending).head.accept p =
      .ok (true,
        (beside limit done { s with cursor := s.cursor.take 1 } (some c.utf8Size) pending).head) := by
  simp only [beside, Cursor.take, ahead, Head.accept_pos wished]
  rfl

theorem agrees_ignore (fits : bytes text < limit) (h : s.Holds text done)
    (other : mode ≠ .word ∧ mode ≠ .number) :
    Agrees limit text ((beside limit done s width pending).ignore mode)
      (pending, { s with cursor := s.cursor.cut, mode := mode }) := by
  apply agrees_of_eq (h.cut other).toHolds
  rw [ignore, beside, Head.cut_between (Nat.lt_of_le_of_lt h.bytes_le fits)]
  rfl

theorem agrees_emit (fits : bytes text < limit) (h : s.Holds text done)
    (other : mode ≠ .word ∧ mode ≠ .number) (kind : TokenKind) :
    Agrees limit text ((beside limit done s width pending).emit kind mode) (s.emit kind mode) := by
  apply agrees_of_eq (h.cut other).toHolds
  rw [emit, beside, Head.window_between, Head.cut_between (Nat.lt_of_le_of_lt h.bytes_le fits)]
  rfl

theorem agrees_fail (fits : bytes text < limit) (h : s.Holds text done) (fault : Fault) :
    Agrees limit text ((beside limit done s width pending).fail fault) (s.fail fault) :=
  agrees_emit fits (s := { s with error := some ⟨fault, s.filename, s.anchor⟩ }) ⟨h.whole, h.place⟩
    (by decide) .error

theorem agrees_rewind {c : Char} {rest : List Char} (h : s.Holds text done)
    (ahead : s.cursor.ahead = c :: rest) :
    Agrees limit text
      ((beside limit done { s with cursor := s.cursor.take 1 } (some c.utf8Size) pending).rewind mode)
      (pending, { s with mode := mode }) := by
  apply agrees_of_eq (h.of_remaining rfl rfl)
  rw [rewind]
  simp only [beside, Cursor.take, ahead]
  rw [List.take_succ_cons, List.take_zero, List.drop_succ_cons, List.drop_zero, Head.back_concat]
  rfl

theorem agrees_double {c : Char} {rest : List Char} (fits : bytes text < limit) (h : s.Holds text done)
    (ahead : s.cursor.ahead = c :: rest) (alone doubled : TokenKind) :
    Agrees limit text
      ((beside limit done { s with cursor := s.cursor.take 1 } width pending).double c alone doubled)
      (let (kind, length) := (⟨alone, some doubled⟩ : Symbol).longest (rest.head? = some c)
      Scanner.emit { s with cursor := s.cursor.take length } kind .root) := by
  have left : (s.cursor.take 1).ahead = rest := by rw [Cursor.take, ahead]; rfl
  have holds (n : Nat) : Scanner.Holds text done { s with cursor := s.cursor.take n } :=
    h.of_remaining (by simp) rfl
  rw [double]
  by_cases again : rest.head? = some c
  · obtain ⟨tail, rfl⟩ := List.head?_eq_some_iff.mp again
    have twice : (s.cursor.take 1).take 1 = s.cursor.take 2 := by simp [Cursor.take, ahead]
    rw [accept_beside left (by simp), twice, decide_eq_true again]
    exact agrees_emit fits (holds 2) (by decide) doubled
  · have other : (s.cursor.take 1).ahead.head?.any (· = c) = false := by
      cases rest <;> simp_all
    rw [decide_eq_false again, beside, Head.accept_neg other]
    exact agrees_emit fits (holds 1) (by decide) alone

/-! ## One run -/

theorem agrees_word (fits : bytes text < limit) (h : s.Holds text done) :
    Agrees limit text ((beside limit done s width pending).word) s.word := by
  rw [word, beside, Head.acceptRun_between]
  change Agrees _ _ (Head.window _ >>= _) _
  rw [Head.window_between]
  change Agrees _ _ (emit _ (wordKind (String.ofList _).toList) _) _
  rw [String.toList_ofList]
  exact agrees_emit (s := { s with cursor := s.cursor.takeWhile isLetter }) fits
    (h.of_remaining (by simp) rfl) (by decide)
    (wordKind (s.cursor.takeWhile isLetter).window)

theorem agrees_number (fits : bytes text < limit) (h : s.Holds text done) :
    Agrees limit text ((beside limit done s width pending).number) s.number := by
  rw [number, beside, readNumber_between]
  exact agrees_emit (s := { s with cursor := Scanner.numberCursor s.cursor }) fits
    (h.of_remaining (Scanner.remaining_numberCursor _) (Scanner.place_numberCursor _)) (by decide)
    .number

/-- The closing quote, given back for the token, is read again and left behind. -/
theorem agrees_close {after : List Char} (fits : bytes text < limit) (h : s.Holds text done)
    (quote : s.cursor.ahead = '"' :: after) :
    Agrees limit text
      (do let m ← (beside limit done s width pending).emit .string .root
          let (_, head) ← m.head.read
          ({ m with head := head } : Machine).ignore .root)
      ((s.emit .string .root).1,
        { (s.emit .string .root).2 with cursor := (s.emit .string .root).2.cursor.skip 1 }) := by
  have given : (s.emit .string .root).2.Poised text (done ++ s.cursor.window) := h.cut (by decide)
  have agrees : Agrees limit text ((beside limit done s width pending).emit .string .root)
      (s.emit .string .root) := agrees_emit fits h (by decide) .string
  obtain ⟨width', made⟩ := agrees _ given.toHolds
  have left : (s.emit .string .root).2.cursor.ahead = '"' :: after := quote
  have holds : Scanner.Holds text (done ++ s.cursor.window)
      { (s.emit .string .root).2 with cursor := (s.emit .string .root).2.cursor.take 1 } :=
    given.toHolds.of_remaining (Cursor.remaining_take _ 1) rfl
  rw [made]
  change Agrees _ _ (Head.read _ >>= _) _
  rw [read_beside left]
  exact agrees_ignore fits holds (by decide)

theorem agrees_quoted (fits : bytes text < limit) (h : s.Holds text done) :
    Agrees limit text ((beside limit done s width pending).quoted) s.quoted := by
  rw [quoted, beside, Scanner.quoted]
  cases length : bodyLength? s.cursor.ahead with
  | none =>
    rw [Head.readBody_open length]
    change Agrees _ _ (fail _ .unterminatedString) (Scanner.fail _ .unterminatedString)
    exact agrees_fail (s := { s with cursor := s.cursor.takeAll }) fits
      (h.of_remaining (Cursor.remaining_takeAll _) rfl) .unterminatedString
  | some n =>
    obtain ⟨body, after, ahead, isBody, rfl⟩ := exists_body_of_bodyLength? length
    have taken : s.cursor.take body.length =
        ⟨s.cursor.window ++ body, '"' :: after, s.cursor.place⟩ := by
      simp [Cursor.take, ahead]
    have holds : Scanner.Holds text done { s with cursor := s.cursor.take body.length } :=
      h.of_remaining (by simp) rfl
    rw [ahead, Head.readBody_append isBody]
    change Agrees _ _ (Head.back _ >>= _) _
    rw [Head.back_concat]
    rw [taken] at holds
    simp only [taken]
    exact agrees_close fits holds
      (s := { s with cursor := ⟨s.cursor.window ++ body, '"' :: after, s.cursor.place⟩ }) rfl

theorem agrees_root (fits : bytes text < limit) (h : s.Holds text done) (root : s.mode = .root) :
    Agrees limit text ((beside limit done s width none).root) s.root := by
  have place : (beside limit done s width none).head.place = s.cursor.place := h.place.symm
  rw [Machine.root, Scanner.root, place]
  obtain ⟨filename, cursor, anchor, mode, error⟩ := s
  obtain rfl : mode = .root := root
  -- The anchor is set before anything is read, so each branch is about this scanner.
  have anchored : Scanner.Holds text done ⟨filename, cursor, cursor.place, .root, error⟩ :=
    ⟨h.whole, h.place⟩
  have first : Scanner.Holds text done ⟨filename, cursor.take 1, cursor.place, .root, error⟩ :=
    anchored.of_remaining (by simp) rfl
  dsimp only
  split
  next ahead =>
    rw [read_beside_end ahead]
    exact agrees_emit fits anchored (by decide) .eof
  next c rest ahead =>
    rw [read_beside ahead]
    simp only [bind, Except.bind]
    split
    · exact agrees_ignore fits first (by decide)
    split
    · exact agrees_ignore fits first (by decide)
    split
    · exact agrees_rewind (s := ⟨filename, cursor, cursor.place, .root, error⟩) anchored ahead
    split
    · exact agrees_rewind (s := ⟨filename, cursor, cursor.place, .root, error⟩) anchored ahead
    cases found : symbol? c with
    | none =>
      dsimp only
      exact agrees_fail fits first (.unexpectedCharacter c)
    | some symbol =>
      obtain ⟨alone, _ | doubled⟩ := symbol
      · have one : ((⟨alone, none⟩ : Symbol).longest (rest.head? = some c)) = (alone, 1) := by
          cases decide (rest.head? = some c) <;> rfl
        simp only [one]
        exact agrees_emit fits first (by decide) alone
      · exact agrees_double (s := ⟨filename, cursor, cursor.place, .root, error⟩) fits anchored ahead
          alone doubled

theorem agrees_step (fits : bytes text < limit) (h : s.Holds text done) :
    Agrees limit text (beside limit done s width none).run s.step := by
  have same : (beside limit done s width none).mode = s.mode := rfl
  rw [run, Scanner.step, same]
  cases mode : s.mode with
  | root => exact agrees_root fits h mode
  | quoted => exact agrees_quoted fits h
  | word => exact agrees_word fits h
  | number => exact agrees_number fits h
  | done => exact agrees_of_eq h rfl

/-- The scanner is poised again after its run, so the machine is where a further run begins. -/
theorem agrees_run (fits : bytes text < limit) (h : s.Poised text done) :
    ∃ done' width', (beside limit done s width none).run =
      .ok (beside limit done' s.step.2 width' s.step.1) ∧ s.step.2.Poised text done' := by
  obtain ⟨taken, poised⟩ := h.step
  obtain ⟨width', ran⟩ := agrees_step fits h.toHolds (done ++ taken) poised.toHolds
  exact ⟨done ++ taken, width', ran, poised⟩

/-! ## One call, and one call after another -/

theorem next_of_done {m : Machine} (clear : m.pending = none) (done : m.mode = .done) :
    m.next = .ok (none, m) := by
  rw [next, dif_pos clear, dif_pos done]

theorem next_of_run {m after : Machine} (clear : m.pending = none) (running : m.mode ≠ .done)
    (ran : m.run = .ok after) : m.next = after.next := by
  rw [next, dif_pos clear, dif_neg running]
  split <;> simp_all

theorem next_of_pending {m : Machine} (made : m.pending ≠ none) :
    m.next = .ok (m.pending, { m with pending := none }) := by
  rw [next, dif_neg made]

/-- The machine runs its modes as often as the scanner does. -/
theorem next_of_runs {n : Nat} {r : Option Token × Scanner} (fits : bytes text < limit)
    (runs : Scanner.Runs n s r) (h : s.Poised text done) :
    ∃ done' width', (beside limit done s width none).next =
      .ok (r.1, beside limit done' r.2 width' none) ∧ r.2.Poised text done' := by
  induction runs generalizing done width with
  | rest past => exact ⟨done, width, next_of_done rfl past, h⟩
  | give running first =>
    obtain ⟨done', width', ran, poised⟩ := agrees_run fits h
    rw [first] at ran poised
    refine ⟨done', width', ?_, poised⟩
    rw [next_of_run rfl running ran, next_of_pending (Option.some_ne_none _)]
    rfl
  | quiet running first _ ih =>
    obtain ⟨done', width', ran, poised⟩ := agrees_run fits h
    rw [first] at ran poised
    obtain ⟨done'', width'', gave, poised⟩ := ih poised
    exact ⟨done'', width'', (next_of_run rfl running ran).trans gave, poised⟩

theorem next_beside (fits : bytes text < limit) (h : s.Poised text done) :
    ∃ done' width', (beside limit done s width none).next =
      .ok (s.next.1, beside limit done' s.next.2 width' none) ∧ s.next.2.Poised text done' := by
  obtain ⟨n, -, runs⟩ := s.exists_runs_next
  exact next_of_runs fits runs h

theorem calls_beside (fits : bytes text < limit) (h : s.Poised text done) (n : Nat) :
    ∃ done' width', (beside limit done s width none).calls n =
      .ok ((s.calls n).1, beside limit done' (s.calls n).2 width' none) ∧
        (s.calls n).2.Poised text done' := by
  induction n generalizing s done width with
  | zero => exact ⟨done, width, rfl, h⟩
  | succ n ih =>
    obtain ⟨done', width', gave, poised⟩ := next_beside fits h
    obtain ⟨done'', width'', more, poised⟩ := ih poised
    refine ⟨done'', width'', ?_, poised⟩
    rw [calls, gave]
    change calls n _ >>= _ = _
    rw [more]
    rfl

end Agrees

/-! ## What holds at every stop -/

/-- The states of the machine in one call of `next`: the one it begins with, and the ones that its runs
come to. -/
inductive Visits (m : Machine) : Machine → Prop
  | first : Visits m m
  | run {x y : Machine} (visited : Visits m x) (clear : x.pending = none) (running : x.mode ≠ .done)
      (ran : x.run = .ok y) : Visits m y

/-- What holds before and after a run: both offsets are at the same place between two characters, a
word or a number begins there if the mode says so, and the counters have not run ahead of the text. -/
structure Sound (text : String) (m : Machine) : Prop where
  text_eq : m.head.text = text
  ordered : m.head.start ≤ m.head.offset
  within : m.head.offset ≤ text.utf8ByteSize
  start_valid : (⟨m.head.start⟩ : String.Pos.Raw).IsValid text
  offset_valid : (⟨m.head.offset⟩ : String.Pos.Raw).IsValid text
  level : m.head.start = m.head.offset
  word : m.mode = .word → (text.pos ⟨m.head.offset⟩ offset_valid).get?.any isLetter = true
  number : m.mode = .number → (text.pos ⟨m.head.offset⟩ offset_valid).get?.any isDigit = true
  counted : 1 ≤ m.head.place.line ∧ 1 ≤ m.head.place.column ∧
    ∃ before behind : String, text = before ++ behind ∧ before.utf8ByteSize = m.head.start ∧
      (m.head.place.line - 1) + (m.head.place.column - 1) ≤ before.length

theorem sound_beside {limit : Nat} {text : String} {done : List Char} {s : Scanner}
    (width : Option Nat) (pending : Option Token) (h : s.Poised text.toList done) :
    (beside limit done s width pending).Sound text := by
  have whole : text = .ofList (done ++ s.cursor.ahead) := by
    have whole := h.whole
    rw [Cursor.remaining, h.window, List.nil_append] at whole
    rw [whole, String.ofList_toList]
  have level : bytes (done ++ s.cursor.window) = bytes done := by rw [h.window, List.append_nil]
  have valid := isValid_of_eq_append whole level
  have within : bytes (done ++ s.cursor.window) ≤ text.utf8ByteSize :=
    String.Pos.Raw.le_iff.mp valid.le_rawEndPos
  have next := get?_of_eq_append whole level valid
  have counted := Position.start_after_le done
  refine ⟨?_, Nat.le_of_eq level.symm, within, isValid_of_eq_append whole rfl, valid, level.symm,
    ?_, ?_, counted.1, counted.2.1, .ofList done, .ofList s.cursor.ahead, ?_, rfl, ?_⟩
  · rw [beside, Head.between, h.window, List.nil_append, ← whole]
  · exact fun mode => (congrArg _ next).trans (h.word mode)
  · exact fun mode => (congrArg _ next).trans (h.number mode)
  · rw [← String.ofList_append, ← whole]
  · rw [String.length_ofList]
    show (Position.start.after done).line - 1 + ((Position.start.after done).column - 1) ≤ done.length
    omega

theorem exists_beside_of_visits {limit : Nat} {text done : List Char} {s : Scanner} {width : Option Nat}
    {x : Machine} (fits : bytes text < limit) (h : s.Poised text done)
    (visits : (beside limit done s width none).Visits x) :
    ∃ done' s' width', x = beside limit done' s' width' x.pending ∧ s'.Poised text done' := by
  induction visits with
  | first => exact ⟨done, s, width, rfl, h⟩
  | run _ clear _ ran ih =>
    obtain ⟨done', s', width', same, poised⟩ := ih
    rw [clear] at same
    obtain ⟨done'', width'', ran', poised⟩ := agrees_run fits poised
    rw [same, ran'] at ran
    obtain rfl := Except.ok.inj ran
    exact ⟨done'', _, width'', rfl, poised⟩

end Machine

/-- **The machine is never misused** on a text that has fewer bytes than a counter can tell: every call
comes through, with the tokens of the scanner, and what should hold holds at every stop. -/
theorem machine_never_misused (filename text : String) {limit : Nat}
    (fits : text.utf8ByteSize < limit) (n : Nat) :
    ∃ m, (Machine.ofText limit filename text).calls n =
        .ok (((Scanner.ofText filename text).calls n).1, m) ∧
      m.pending = none ∧ m.error = ((Scanner.ofText filename text).calls n).2.error ∧
      ∀ x, m.Visits x → x.Sound text ∧
        (x.pending = none → x.mode ≠ .done → ∃ y, x.run = .ok y ∧
          (x.mode = .word ∨ x.mode = .number → ∃ token, y.pending = some token ∧ token.text ≠ "")) := by
  have first : Machine.ofText limit filename text =
      .beside limit [] (.ofText filename text) none none := by
    rw [Machine.ofText, Head.ofText_eq_between]
    rfl
  have fits : bytes text.toList < limit := by rwa [bytes, String.ofList_toList]
  obtain ⟨done, width, called, poised⟩ :=
    Machine.calls_beside fits (Scanner.poised_ofText filename text) n
  rw [← first] at called
  refine ⟨_, called, rfl, rfl, fun x visits => ?_⟩
  obtain ⟨done', s', width', same, poised'⟩ := Machine.exists_beside_of_visits fits poised visits
  rw [same]
  refine ⟨Machine.sound_beside _ _ poised', fun clear running => ?_⟩
  change x.pending = none at clear
  obtain ⟨done'', width'', ran, -⟩ := Machine.agrees_run fits poised'
  rw [clear]
  exact ⟨_, ran, poised'.text_ne_empty⟩

/-- A word is begun where its first letter is, and taken. -/
theorem machine_never_misused_word :
    ∃ x y token, (Machine.ofText 8 "f" "aé").Visits x ∧ x.mode = .word ∧ x.Sound "aé" ∧
      x.run = .ok y ∧ y.pending = some token ∧ token.text ≠ "" := by
  have fits : ("aé" : String).utf8ByteSize < 8 := by decide
  have ran : (Machine.ofText 8 "f" "aé").run =
      .ok { Machine.ofText 8 "f" "aé" with mode := .word } := rfl
  obtain ⟨m, called, -, -, visits⟩ := machine_never_misused "f" "aé" fits 0
  obtain rfl := (Prod.mk.inj (Except.ok.inj called)).2
  have visited := Machine.Visits.run .first rfl (by decide) ran
  obtain ⟨sound, runs⟩ := visits _ visited
  obtain ⟨y, taken, nonempty⟩ := runs rfl (by decide)
  obtain ⟨token, made, text⟩ := nonempty (.inl rfl)
  exact ⟨_, y, token, visited, rfl, sound, taken, made, text⟩

end AssignLang.Lexical
