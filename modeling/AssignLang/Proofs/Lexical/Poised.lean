import AssignLang.Proofs.Lexical.MaximalMunch

/-! Where the scanner stands between two runs of `step`, and what of the text it has left behind by
then. Main statements: every run takes it from one such place to the next (`Poised.step`), and a word
or a number that is taken from there is not empty (`Poised.text_ne_empty`). -/
namespace AssignLang.Lexical.Scanner
set_option autoImplicit false

/-- The scanner has left `done` behind, and the rest of the text is in its cursor. -/
structure Holds (text done : List Char) (s : Scanner) : Prop where
  whole : done ++ s.cursor.remaining = text
  place : s.cursor.place = Position.start.after done

/-- The scanner is between two runs of `step`: nothing is in the window, and a word or a number begins
with the character ahead. -/
structure Poised (text done : List Char) (s : Scanner) : Prop extends Holds text done s where
  window : s.cursor.window = []
  word : s.mode = .word → s.cursor.ahead.head?.any isLetter = true
  number : s.mode = .number → s.cursor.ahead.head?.any isDigit = true

theorem poised_ofText (filename text : String) : (ofText filename text).Poised text.toList [] where
  whole := rfl
  place := rfl
  window := rfl
  word := nofun
  number := nofun

section Poised
variable {text done done' : List Char} {s : Scanner} {mode : Mode}

/-! ## What is left behind -/

/-- What is left behind is what is not in the cursor. -/
theorem Holds.done_eq (h : s.Holds text done) (h' : s.Holds text done') : done = done' :=
  List.append_cancel_right (h.whole.trans h'.whole.symm)

theorem Holds.of_remaining {s' : Scanner} (h : s.Holds text done)
    (remaining : s'.cursor.remaining = s.cursor.remaining) (place : s'.cursor.place = s.cursor.place) :
    s'.Holds text done :=
  ⟨by rw [remaining]; exact h.whole, place.trans h.place⟩

theorem Holds.cut (h : s.Holds text done) (other : mode ≠ .word ∧ mode ≠ .number) :
    Poised text (done ++ s.cursor.window) { s with cursor := s.cursor.cut, mode := mode } where
  whole := by rw [Cursor.remaining_cut, List.append_assoc]; exact h.whole
  place := by rw [Position.after_append, ← h.place]; rfl
  window := rfl
  word := fun same => absurd same other.1
  number := fun same => absurd same other.2

/-! ## One run -/

theorem Poised.poised_root (h : s.Poised text done) (root : s.mode = .root) :
    ∃ taken, s.root.2.Poised text (done ++ taken) := by
  obtain ⟨filename, cursor, anchor, mode, error⟩ := s
  obtain rfl : mode = .root := root
  -- The anchor is set before anything is read, so each branch is about this scanner.
  have anchored : Holds text done ⟨filename, cursor, cursor.place, .root, error⟩ :=
    h.toHolds.of_remaining rfl rfl
  have reads (n : Nat) (error : Option Error) :
      Holds text done ⟨filename, cursor.take n, cursor.place, .root, error⟩ :=
    anchored.of_remaining (Cursor.remaining_take cursor n) rfl
  unfold Scanner.root
  dsimp only
  split
  next => exact ⟨_, anchored.cut (by decide)⟩
  next c rest ahead =>
    split
    · exact ⟨_, (reads 1 error).cut (by decide)⟩
    split
    · exact ⟨_, (reads 1 error).cut (by decide)⟩
    split
    next letter =>
      refine ⟨[], ?_, h.window, fun _ => by simpa [ahead] using letter, nofun⟩
      rw [List.append_nil]
      exact anchored.of_remaining rfl rfl
    split
    next digit =>
      refine ⟨[], ?_, h.window, nofun, fun _ => by simpa [ahead] using digit⟩
      rw [List.append_nil]
      exact anchored.of_remaining rfl rfl
    split
    · exact ⟨_, (reads _ error).cut (by decide)⟩
    · exact ⟨_, (reads 1 _).cut (by decide)⟩

theorem Holds.poised_quoted (h : s.Holds text done) :
    ∃ taken, s.quoted.2.Poised text (done ++ taken) := by
  unfold Scanner.quoted
  split
  next length _ =>
    have body : Holds text done { s with cursor := s.cursor.take length } :=
      h.of_remaining (Cursor.remaining_take _ length) rfl
    have shut : Poised text (done ++ (s.cursor.take length).window)
        { s with cursor := (s.cursor.take length).cut, mode := .root } := body.cut (by decide)
    have read : Holds text (done ++ (s.cursor.take length).window)
        { s with cursor := (s.cursor.take length).cut.take 1, mode := .root } :=
      shut.toHolds.of_remaining (Cursor.remaining_take _ 1) rfl
    have behind : Poised text _
        { s with cursor := (s.cursor.take length).cut.skip 1, mode := .root } := read.cut (by decide)
    rw [List.append_assoc] at behind
    exact ⟨_, behind⟩
  next =>
    have rest (error : Option Error) :
        Holds text done { s with cursor := s.cursor.takeAll, error := error } :=
      h.of_remaining (Cursor.remaining_takeAll _) rfl
    exact ⟨_, (rest _).cut (by decide)⟩

theorem Holds.poised_word (h : s.Holds text done) :
    ∃ taken, s.word.2.Poised text (done ++ taken) := by
  have letters : Holds text done { s with cursor := s.cursor.takeWhile isLetter } :=
    h.of_remaining (Cursor.remaining_takeWhile _ isLetter) rfl
  exact ⟨_, letters.cut (by decide)⟩

theorem Holds.poised_number (h : s.Holds text done) :
    ∃ taken, s.number.2.Poised text (done ++ taken) := by
  have digits : Holds text done { s with cursor := numberCursor s.cursor } :=
    h.of_remaining (remaining_numberCursor _) (place_numberCursor _)
  exact ⟨_, digits.cut (by decide)⟩

/-- **A run leaves the scanner poised again**, with what it has taken left behind as well. -/
theorem Poised.step (h : s.Poised text done) : ∃ taken, s.step.2.Poised text (done ++ taken) := by
  unfold Scanner.step
  split
  next root => exact h.poised_root root
  next => exact h.toHolds.poised_quoted
  next => exact h.toHolds.poised_word
  next => exact h.toHolds.poised_number
  next => exact ⟨[], by rwa [List.append_nil]⟩

/-- A word or a number that is begun is not empty. -/
theorem Poised.text_ne_empty (h : s.Poised text done)
    (mode : s.mode = .word ∨ s.mode = .number) :
    ∃ token, s.step.1 = some token ∧ token.text ≠ "" := by
  have nonempty {p : Char → Bool} (begins : s.cursor.ahead.head?.any p = true) :
      s.cursor.ahead.takeWhile p ≠ [] := by
    cases ahead : s.cursor.ahead <;> simp_all
  rcases mode with mode | mode
  · refine ⟨_, by rw [Scanner.step, mode]; rfl, ?_⟩
    show String.ofList (s.cursor.takeWhile isLetter).window ≠ ""
    rw [Cursor.takeWhile, ne_eq, String.ofList_eq_empty_iff]
    simp [nonempty (h.word mode)]
  · refine ⟨_, by rw [Scanner.step, mode]; rfl, ?_⟩
    show String.ofList (numberCursor s.cursor).window ≠ ""
    obtain ⟨filename, ⟨window, ahead, place⟩, anchor, mode, error⟩ := s
    obtain rfl : window = [] := h.window
    rw [window_numberCursor, leadingNumber, ne_eq, String.ofList_eq_empty_iff]
    simp [nonempty (h.number mode)]

end Poised

end AssignLang.Lexical.Scanner
