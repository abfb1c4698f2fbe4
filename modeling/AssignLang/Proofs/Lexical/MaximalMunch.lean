import AssignLang.Lexical.Stream
import AssignLang.Proofs.Lexical.Longest

/-! The scanner gives the longest lexemes. Between two tokens all that matters of a scanner is the
text ahead and where it begins; the lemmas `next_between_*` say what it gives there, by what the text
begins with once its blanks are gone. Main statement: the stream of a text is the one that maximal
munch yields, and so is the error that ends it (`stream_eq_iff_munches`). -/
namespace AssignLang.Lexical
set_option autoImplicit false

namespace Scanner

/-! ## Between two tokens -/

/-- The scanner with `text` ahead, which begins at `place`. The last token began at `anchor`. -/
def between (filename : String) (anchor place : Position) (text : List Char) : Scanner :=
  ⟨filename, ⟨[], text, place⟩, anchor, .root, none⟩

/-- The scanner after a terminal token that began at `anchor`. -/
def ended (filename : String) (anchor place : Position) (text : List Char) (error : Option Error) :
    Scanner :=
  ⟨filename, ⟨[], text, place⟩, anchor, .done, error⟩

theorem between_running {filename : String} {anchor place : Position} {text : List Char} :
    (between filename anchor place text).mode ≠ .done := by
  simp [between]

theorem ofText_eq_between (filename text : String) :
    ofText filename text = between filename .start .start text.toList := rfl

theorem next_of_step_some {s s' : Scanner} {token : Token} (running : s.mode ≠ .done)
    (h : s.step = (some token, s')) : s.next = (some token, s') := by
  rw [next, dif_neg running, h]
  rfl

theorem next_of_step_none {s s' : Scanner} (running : s.mode ≠ .done) (h : s.step = (none, s')) :
    s.next = s'.next := by
  rw [next, dif_neg running, h]
  rfl

theorem next_of_done {s : Scanner} (done : s.mode = .done) : s.next = (none, s) := by
  rw [next, dif_pos done]

theorem running_of_next {s s' : Scanner} {token : Token} (h : s.next = (some token, s')) :
    s.mode ≠ .done := by
  intro done
  rw [next_of_done done] at h
  exact absurd h (by simp)

theorem step_between (filename : String) (anchor place : Position) (text : List Char) :
    (between filename anchor place text).step = (between filename anchor place text).root := rfl

/-- The scanner takes a new anchor before it looks at the text. -/
theorem next_between_anchor (filename : String) (anchor anchor' place : Position)
    (text : List Char) :
    (between filename anchor place text).next = (between filename anchor' place text).next := by
  have same : (between filename anchor place text).step =
      (between filename anchor' place text).step := rfl
  rw [next, next, dif_neg between_running, dif_neg between_running, same]

theorem next_between_blank {c : Char} (blank : isBlank c = true) (filename : String)
    (anchor place : Position) (rest : List Char) :
    (between filename anchor place (c :: rest)).next =
      (between filename place (place.next c) rest).next := by
  apply next_of_step_none between_running
  rw [step_between]
  simp only [root, between, blank, if_true]
  rfl

theorem next_between_blanks (filename : String) (anchor place : Position) (text : List Char) :
    (between filename anchor place text).next =
      (between filename anchor (place.after (text.takeWhile isBlank))
        (text.dropWhile isBlank)).next := by
  induction text generalizing anchor place with
  | nil => rfl
  | cons c rest ih =>
    cases blank : isBlank c with
    | false => simp [blank]
    | true =>
      rw [next_between_blank blank, ih, List.takeWhile_cons_of_pos blank,
        List.dropWhile_cons_of_pos blank, Position.after_cons]
      exact next_between_anchor ..

/-! ## What the scanner gives where no blank is ahead -/

theorem next_nil (filename : String) (anchor place : Position) :
    (between filename anchor place []).next =
      (some ⟨.eof, "", place⟩, ended filename place place [] none) :=
  next_of_step_some between_running rfl

/-- What is left behind the longest lexeme is what the cursor has ahead once its window is cut. -/
theorem ahead_eq_drop {cursor : Cursor} {text w : List Char} (all : cursor.remaining = text)
    (window : cursor.window = w) : cursor.ahead = text.drop w.length := by
  rw [← all, ← window, Cursor.remaining, List.drop_left]

/-- The window as a token, once the cursor has all of the token in it. -/
theorem emit_eq {s : Scanner} {text w : List Char} (all : s.cursor.remaining = text)
    (window : s.cursor.window = w) (kind : TokenKind) (mode : Mode) :
    s.emit kind mode = (some ⟨kind, String.ofList w, s.anchor⟩,
      { s with
        cursor := ⟨[], text.drop w.length, s.cursor.place.after w⟩
        mode := mode }) := by
  rw [emit, Cursor.cut, window, ahead_eq_drop all window]

theorem next_word {c : Char} {rest : List Char} (blank : isBlank c = false) (quote : c ≠ '"')
    (letter : isLetter c = true) (filename : String) (anchor place : Position) :
    (between filename anchor place (c :: rest)).next =
      (some ⟨wordKind ((c :: rest).takeWhile isLetter),
          String.ofList ((c :: rest).takeWhile isLetter), place⟩,
        between filename place (place.after ((c :: rest).takeWhile isLetter))
          ((c :: rest).drop ((c :: rest).takeWhile isLetter).length)) := by
  have found : (between filename anchor place (c :: rest)).step =
      (none, { between filename place place (c :: rest) with mode := .word }) := by
    rw [step_between]
    simp only [root, between, blank, quote, letter, if_true, if_false, Bool.false_eq_true]
  rw [next_of_step_none between_running found]
  apply next_of_step_some (by simp)
  show word _ = _
  rw [word, emit_eq (Cursor.remaining_takeWhile _ _) rfl]
  rfl

/-- The cursor of the scanner once it has taken a number. -/
def numberCursor (cursor : Cursor) : Cursor :=
  let whole := cursor.takeWhile isDigit
  if whole.ahead.head? = some '.' then (whole.take 1).takeWhile isDigit else whole

theorem window_numberCursor (place : Position) (text : List Char) :
    (numberCursor ⟨[], text, place⟩).window = leadingNumber text := by
  unfold numberCursor leadingNumber
  by_cases point : (text.dropWhile isDigit).head? = some '.'
  · obtain ⟨more, tail⟩ := List.head?_eq_some_iff.mp point
    simp [Cursor.take, Cursor.takeWhile, tail, fraction]
  · have none : fraction (text.dropWhile isDigit) = [] := by
      unfold fraction
      split
      next tail => exact absurd (by rw [tail]; rfl) point
      next => rfl
    simp [Cursor.takeWhile, point, none]

theorem remaining_numberCursor (cursor : Cursor) :
    (numberCursor cursor).remaining = cursor.remaining := by
  unfold numberCursor
  dsimp only
  split <;> simp only [Cursor.remaining_takeWhile, Cursor.remaining_take]

theorem place_numberCursor (cursor : Cursor) : (numberCursor cursor).place = cursor.place := by
  unfold numberCursor
  dsimp only
  split <;> rfl

theorem next_number {c : Char} {rest : List Char} (blank : isBlank c = false) (quote : c ≠ '"')
    (letter : isLetter c = false) (digit : isDigit c = true) (filename : String)
    (anchor place : Position) :
    (between filename anchor place (c :: rest)).next =
      (some ⟨.number, String.ofList (leadingNumber (c :: rest)), place⟩,
        between filename place (place.after (leadingNumber (c :: rest)))
          ((c :: rest).drop (leadingNumber (c :: rest)).length)) := by
  have found : (between filename anchor place (c :: rest)).step =
      (none, { between filename place place (c :: rest) with mode := .number }) := by
    rw [step_between]
    simp only [root, between, blank, quote, letter, digit, if_true, if_false, Bool.false_eq_true]
  rw [next_of_step_none between_running found]
  apply next_of_step_some (by simp)
  show number _ = _
  have taken : number { between filename place place (c :: rest) with mode := .number } =
      ({ between filename place place (c :: rest) with
        mode := .number
        cursor := numberCursor ⟨[], c :: rest, place⟩ } : Scanner).emit .number .root := rfl
  rw [taken, emit_eq (remaining_numberCursor _) (window_numberCursor place _)]
  simp only [place_numberCursor]
  rfl

theorem step_quote (filename : String) (anchor place : Position) (rest : List Char) :
    (between filename anchor place ('"' :: rest)).step =
      (none, { between filename place (place.next '"') rest with mode := .quoted }) := rfl

theorem next_string {body : List Char} (h : IsBody body) (after : List Char) (filename : String)
    (anchor place : Position) :
    (between filename anchor place ('"' :: (body ++ '"' :: after))).next =
      (some ⟨.string, String.ofList body, place⟩,
        between filename place (place.after ('"' :: (body ++ ['"']))) after) := by
  rw [next_of_step_none between_running (step_quote ..)]
  apply next_of_step_some (by simp)
  show quoted _ = _
  simp only [quoted, between, bodyLength?_append h, emit, Cursor.skip, Cursor.take, Cursor.cut,
    List.nil_append, List.take_left, List.drop_left, List.take_succ_cons, List.take_zero,
    List.drop_succ_cons, List.drop_zero, Position.after_cons, Position.after_append,
    Position.after_nil]

theorem next_open {rest : List Char} (h : bodyLength? rest = none) (filename : String)
    (anchor place : Position) :
    (between filename anchor place ('"' :: rest)).next =
      (some ⟨.error, String.ofList rest, place⟩,
        ended filename place (place.after ('"' :: rest)) []
          (some ⟨.unterminatedString, filename, place⟩)) := by
  rw [next_of_step_none between_running (step_quote ..)]
  apply next_of_step_some (by simp)
  show quoted _ = _
  simp only [quoted, between, h]
  rfl

theorem next_symbol {c : Char} {rest : List Char} {s : Symbol} (found : symbol? c = some s)
    (blank : isBlank c = false) (letter : isLetter c = false) (digit : isDigit c = false)
    (quote : c ≠ '"') (filename : String) (anchor place : Position) :
    (between filename anchor place (c :: rest)).next =
      (some ⟨(s.longest (rest.head? = some c)).1,
          String.ofList ((c :: rest).take (s.longest (rest.head? = some c)).2), place⟩,
        between filename place
          (place.after ((c :: rest).take (s.longest (rest.head? = some c)).2))
          ((c :: rest).drop ((c :: rest).take (s.longest (rest.head? = some c)).2).length)) := by
  apply next_of_step_some between_running
  rw [step_between]
  simp only [root, between, blank, quote, letter, digit, found, if_false, Bool.false_eq_true]
  rw [emit_eq (Cursor.remaining_take _ _) rfl]
  rfl

theorem next_unexpected {c : Char} {rest : List Char} (unknown : symbol? c = none)
    (blank : isBlank c = false) (letter : isLetter c = false) (digit : isDigit c = false)
    (quote : c ≠ '"') (filename : String) (anchor place : Position) :
    (between filename anchor place (c :: rest)).next =
      (some ⟨.error, String.ofList [c], place⟩,
        ended filename place (place.next c) rest
          (some ⟨.unexpectedCharacter c, filename, place⟩)) := by
  apply next_of_step_some between_running
  rw [step_between]
  simp only [root, between, blank, quote, letter, digit, unknown, if_false, Bool.false_eq_true]
  rfl

/-! ## The longest lexeme, or the fault where there is none -/

/-- What the scanner gives where a character that is not blank is ahead. -/
theorem next_cons_cases {c : Char} (blank : isBlank c = false) (rest : List Char)
    (filename : String) (anchor place : Position) :
    (∃ w kind value, IsLongest (c :: rest) w kind value ∧
      (between filename anchor place (c :: rest)).next =
        (some ⟨kind, String.ofList value, place⟩,
          between filename place (place.after w) ((c :: rest).drop w.length))) ∨
    (HasNoLexeme (c :: rest) ∧ c = '"' ∧
      (between filename anchor place (c :: rest)).next =
        (some ⟨.error, String.ofList rest, place⟩,
          ended filename place (place.after (c :: rest)) []
            (some ⟨.unterminatedString, filename, place⟩))) ∨
    (HasNoLexeme (c :: rest) ∧ c ≠ '"' ∧
      (between filename anchor place (c :: rest)).next =
        (some ⟨.error, String.ofList [c], place⟩,
          ended filename place (place.next c) rest
            (some ⟨.unexpectedCharacter c, filename, place⟩))) := by
  by_cases quote : c = '"'
  · subst quote
    cases length : bodyLength? rest with
    | none => exact .inr (.inl ⟨hasNoLexeme_of_open length, rfl, next_open length ..⟩)
    | some n =>
      obtain ⟨body, after, rfl, isBody, -⟩ := exists_body_of_bodyLength? length
      refine .inl ⟨_, _, _, isLongest_string isBody after, ?_⟩
      rw [next_string isBody]
      have left : ('"' :: (body ++ '"' :: after)).drop ('"' :: (body ++ ['"'])).length = after := by
        have split : '"' :: (body ++ '"' :: after) = '"' :: (body ++ ['"']) ++ after := by simp
        rw [split, List.drop_left]
      rw [left]
  · cases letter : isLetter c with
    | true => exact .inl ⟨_, _, _, isLongest_word letter rest, next_word blank quote letter ..⟩
    | false =>
      cases digit : isDigit c with
      | true => exact .inl ⟨_, _, _, isLongest_number digit rest, next_number blank quote letter digit ..⟩
      | false =>
        cases found : symbol? c with
        | none =>
          exact .inr (.inr ⟨hasNoLexeme_of_other found letter digit quote, quote,
            next_unexpected found blank letter digit quote ..⟩)
        | some s =>
          exact .inl ⟨_, _, _, isLongest_symbol found letter digit quote rest,
            next_symbol found blank letter digit quote ..⟩

section Ahead
variable {text : List Char} (filename : String) (anchor place : Position)

/-- Where the next token begins. -/
theorem head_dropWhile_isBlank {c : Char} {rest : List Char}
    (ahead : text.dropWhile isBlank = c :: rest) : isBlank c = false := by
  have first := List.head?_dropWhile_not isBlank text
  rw [ahead] at first
  simpa using first

theorem next_between_nil (ahead : text.dropWhile isBlank = []) :
    (between filename anchor place text).next =
      (some ⟨.eof, "", place.after (text.takeWhile isBlank)⟩,
        ended filename (place.after (text.takeWhile isBlank))
          (place.after (text.takeWhile isBlank)) [] none) := by
  rw [next_between_blanks, ahead, next_nil]

theorem next_between_lexeme {w value : List Char} {kind : TokenKind}
    (h : IsLongest (text.dropWhile isBlank) w kind value) :
    (between filename anchor place text).next =
      (some ⟨kind, String.ofList value, place.after (text.takeWhile isBlank)⟩,
        between filename (place.after (text.takeWhile isBlank))
          ((place.after (text.takeWhile isBlank)).after w)
          ((text.dropWhile isBlank).drop w.length)) := by
  rw [next_between_blanks]
  cases ahead : text.dropWhile isBlank with
  | nil => exact absurd (ahead ▸ hasNoLexeme_nil) h.not_hasNoLexeme
  | cons c rest =>
    rw [ahead] at h
    have blank := head_dropWhile_isBlank ahead
    rcases next_cons_cases blank rest filename anchor (place.after (text.takeWhile isBlank)) with
      ⟨w', kind', value', longest, given⟩ | ⟨none, -⟩ | ⟨none, -⟩
    · obtain ⟨rfl, rfl, rfl⟩ := h.unique longest
      exact given
    · exact absurd none h.not_hasNoLexeme
    · exact absurd none h.not_hasNoLexeme

/-- A lexeme is not blank where it begins. -/
theorem takeWhile_isBlank_append {gap w value : List Char} {kind : TokenKind}
    (blanks : ∀ c ∈ gap, isBlank c = true) (h : IsLexeme w kind value) (tail : List Char) :
    (gap ++ (w ++ tail)).takeWhile isBlank = gap ∧
      (gap ++ (w ++ tail)).dropWhile isBlank = w ++ tail := by
  obtain ⟨c, rest, rfl⟩ := List.exists_cons_of_ne_nil h.ne_nil
  refine takeWhile_append_of_stop blanks fun x first => ?_
  obtain rfl := Option.some.inj first
  exact h.isBlank_head

theorem next_between_append {gap w tail value : List Char} {kind : TokenKind}
    (blanks : ∀ c ∈ gap, isBlank c = true) (h : IsLongest (w ++ tail) w kind value) :
    (between filename anchor place (gap ++ (w ++ tail))).next =
      (some ⟨kind, String.ofList value, place.after gap⟩,
        between filename (place.after gap) ((place.after gap).after w) tail) := by
  have parts := takeWhile_isBlank_append blanks h.isLexeme tail
  have given := next_between_lexeme filename anchor place (parts.2.symm ▸ h)
  rwa [parts.1, parts.2, List.drop_left] at given

theorem next_between_open {rest : List Char} (ahead : text.dropWhile isBlank = '"' :: rest)
    (h : HasNoLexeme ('"' :: rest)) :
    (between filename anchor place text).next =
      (some ⟨.error, String.ofList rest, place.after (text.takeWhile isBlank)⟩,
        ended filename (place.after (text.takeWhile isBlank))
          ((place.after (text.takeWhile isBlank)).after ('"' :: rest)) []
          (some ⟨.unterminatedString, filename, place.after (text.takeWhile isBlank)⟩)) := by
  rw [next_between_blanks, ahead]
  rcases next_cons_cases (c := '"') rfl rest filename anchor (place.after (text.takeWhile isBlank)) with
    ⟨w, kind, value, longest, -⟩ | ⟨-, -, given⟩ | ⟨-, quote, -⟩
  · exact absurd h longest.not_hasNoLexeme
  · exact given
  · exact absurd rfl quote

theorem next_between_unexpected {c : Char} {rest : List Char}
    (ahead : text.dropWhile isBlank = c :: rest) (quote : c ≠ '"') (h : HasNoLexeme (c :: rest)) :
    (between filename anchor place text).next =
      (some ⟨.error, String.ofList [c], place.after (text.takeWhile isBlank)⟩,
        ended filename (place.after (text.takeWhile isBlank))
          ((place.after (text.takeWhile isBlank)).next c) rest
          (some ⟨.unexpectedCharacter c, filename, place.after (text.takeWhile isBlank)⟩)) := by
  rw [next_between_blanks, ahead]
  rcases next_cons_cases (head_dropWhile_isBlank ahead) rest filename anchor
    (place.after (text.takeWhile isBlank)) with
    ⟨w, kind, value, longest, -⟩ | ⟨-, isQuote, -⟩ | ⟨-, -, given⟩
  · exact absurd h longest.not_hasNoLexeme
  · exact absurd isQuote quote
  · exact given

/-- A token that is not terminal is that of the longest lexeme. -/
theorem exists_isLongest_of_next {token : Token} {s : Scanner}
    (h : (between filename anchor place text).next = (some token, s)) (eof : token.kind ≠ .eof)
    (error : token.kind ≠ .error) :
    ∃ w rest value, text.dropWhile isBlank = w ++ rest ∧
      IsLongest (w ++ rest) w token.kind value ∧ token.text = String.ofList value ∧
      s = between filename (place.after (text.takeWhile isBlank))
        ((place.after (text.takeWhile isBlank)).after w) rest := by
  cases ahead : text.dropWhile isBlank with
  | nil =>
    rw [next_between_nil _ _ _ ahead, Prod.mk.injEq, Option.some.injEq] at h
    obtain ⟨rfl, -⟩ := h
    exact absurd rfl eof
  | cons c tail =>
    rw [next_between_blanks, ahead] at h
    rcases next_cons_cases (head_dropWhile_isBlank ahead) tail filename anchor
      (place.after (text.takeWhile isBlank)) with
      ⟨w, kind, value, longest, given⟩ | ⟨-, -, given⟩ | ⟨-, -, given⟩
    all_goals
      rw [given, Prod.mk.injEq, Option.some.injEq] at h
      obtain ⟨rfl, rfl⟩ := h
    · obtain ⟨rest, split⟩ := longest.begins
      refine ⟨w, rest, value, split.symm, split.symm ▸ longest, rfl, ?_⟩
      rw [← split, List.drop_left]
    · exact absurd rfl error
    · exact absurd rfl error

end Ahead

/-! ## All that are left -/

theorem drain_of_done {s : Scanner} (done : s.mode = .done) : s.drain = ([], s) := by
  rw [drain, dif_pos done]

theorem drain_of_next {s s' : Scanner} {token : Token} (h : s.next = (some token, s')) :
    s.drain = (token :: s'.drain.1, s'.drain.2) := by
  rw [drain, dif_neg (running_of_next h), h]
  rfl

end Scanner

/-! ## Maximal munch -/

/-- `Munches filename place text tokens error`: maximal munch makes these tokens of a text that
begins at `place`. Blanks are dropped before each token, and each token takes the longest lexeme
that is ahead and nothing more. Where no lexeme is ahead the stream ends with an error: of a string
without an end, which takes in all that is left, or of a character that begins no lexeme. -/
inductive Munches (filename : String) :
    Position → List Char → List Token → Option Error → Prop
  | eof {place : Position} {text : List Char} (ahead : text.dropWhile isBlank = []) :
      Munches filename place text [⟨.eof, "", place.after (text.takeWhile isBlank)⟩] none
  | lexeme {place : Position} {text w rest value : List Char} {kind : TokenKind}
      {tokens : List Token} {error : Option Error} (ahead : text.dropWhile isBlank = w ++ rest)
      (longest : IsLongest (w ++ rest) w kind value)
      (more : Munches filename ((place.after (text.takeWhile isBlank)).after w) rest tokens error) :
      Munches filename place text
        (⟨kind, String.ofList value, place.after (text.takeWhile isBlank)⟩ :: tokens) error
  | unterminated {place : Position} {text rest : List Char}
      (ahead : text.dropWhile isBlank = '"' :: rest) (none : HasNoLexeme ('"' :: rest)) :
      Munches filename place text
        [⟨.error, String.ofList rest, place.after (text.takeWhile isBlank)⟩]
        (some ⟨.unterminatedString, filename, place.after (text.takeWhile isBlank)⟩)
  | unexpected {place : Position} {text rest : List Char} {c : Char}
      (ahead : text.dropWhile isBlank = c :: rest) (notQuote : c ≠ '"')
      (none : HasNoLexeme (c :: rest)) :
      Munches filename place text
        [⟨.error, String.ofList [c], place.after (text.takeWhile isBlank)⟩]
        (some ⟨.unexpectedCharacter c, filename, place.after (text.takeWhile isBlank)⟩)

/-- The scanner makes what maximal munch makes. -/
theorem Munches.drain_eq {filename : String} {place : Position} {text : List Char}
    {tokens : List Token} {error : Option Error} (h : Munches filename place text tokens error)
    (anchor : Position) :
    (Scanner.between filename anchor place text).drain.1 = tokens ∧
      (Scanner.between filename anchor place text).drain.2.error = error := by
  induction h generalizing anchor with
  | eof ahead =>
    rw [Scanner.drain_of_next (Scanner.next_between_nil _ _ _ ahead),
      Scanner.drain_of_done rfl]
    exact ⟨rfl, rfl⟩
  | lexeme ahead longest more ih =>
    rw [Scanner.drain_of_next (Scanner.next_between_lexeme _ _ _ (ahead ▸ longest)), ahead,
      List.drop_left]
    obtain ⟨tokens, error⟩ := ih _
    exact ⟨congrArg _ tokens, error⟩
  | unterminated ahead none =>
    rw [Scanner.drain_of_next (Scanner.next_between_open _ _ _ ahead none),
      Scanner.drain_of_done rfl]
    exact ⟨rfl, rfl⟩
  | unexpected ahead notQuote none =>
    rw [Scanner.drain_of_next (Scanner.next_between_unexpected _ _ _ ahead notQuote none),
      Scanner.drain_of_done rfl]
    exact ⟨rfl, rfl⟩

/-- Maximal munch never gets stuck. -/
theorem exists_munches (filename : String) (place : Position) (text : List Char) :
    ∃ tokens error, Munches filename place text tokens error := by
  cases ahead : text.dropWhile isBlank with
  | nil => exact ⟨_, _, .eof ahead⟩
  | cons c rest =>
    by_cases lexeme : ∃ w kind value, IsLongest (c :: rest) w kind value
    · obtain ⟨w, kind, value, longest⟩ := lexeme
      obtain ⟨after, split⟩ := longest.begins
      have shorter : after.length < text.length := by
        have dropped := Scanner.length_dropWhile_le isBlank text
        have nonempty := List.length_pos_iff.mpr longest.isLexeme.ne_nil
        have lengths := congrArg List.length split
        rw [ahead] at dropped
        rw [List.length_append] at lengths
        omega
      obtain ⟨tokens, error, more⟩ := exists_munches filename
        ((place.after (text.takeWhile isBlank)).after w) after
      exact ⟨_, error, .lexeme (ahead.trans split.symm) (split ▸ longest) more⟩
    · have blank := Scanner.head_dropWhile_isBlank ahead
      rcases Scanner.next_cons_cases blank rest filename place place with
        ⟨w, kind, value, longest, -⟩ | ⟨none, rfl, -⟩ | ⟨none, notQuote, -⟩
      · exact absurd ⟨w, kind, value, longest⟩ lexeme
      · exact ⟨_, _, .unterminated ahead none⟩
      · exact ⟨_, _, .unexpected ahead notQuote none⟩
termination_by text.length

theorem munches_stream (filename text : String) :
    Munches filename .start text.toList (stream filename text) (error? filename text) := by
  obtain ⟨tokens, error, munches⟩ := exists_munches filename .start text.toList
  obtain ⟨same, sameError⟩ := munches.drain_eq .start
  rwa [stream, error?, Scanner.ofText_eq_between, same, sameError]

/-! ## One lexeme after another -/

section Munches
variable {filename : String} {place : Position} {text : List Char} {tokens tokens' : List Token}
  {error error' : Option Error}

theorem Munches.unique (h : Munches filename place text tokens error)
    (h' : Munches filename place text tokens' error') : tokens = tokens' ∧ error = error' := by
  obtain ⟨given, ended⟩ := h.drain_eq .start
  obtain ⟨given', ended'⟩ := h'.drain_eq .start
  exact ⟨given.symm.trans given', ended.symm.trans ended'⟩

theorem Munches.lexeme_append {gap w rest value : List Char} {kind : TokenKind}
    (blanks : ∀ c ∈ gap, isBlank c = true) (longest : IsLongest (w ++ rest) w kind value)
    (more : Munches filename ((place.after gap).after w) rest tokens error) :
    Munches filename place (gap ++ (w ++ rest))
      (⟨kind, String.ofList value, place.after gap⟩ :: tokens) error := by
  obtain ⟨taken, dropped⟩ := Scanner.takeWhile_isBlank_append blanks longest.isLexeme rest
  rw [← taken] at more
  have first := Munches.lexeme dropped longest more
  rwa [taken] at first

theorem Munches.lexeme_tail {gap w rest value : List Char} {kind : TokenKind}
    (blanks : ∀ c ∈ gap, isBlank c = true) (longest : IsLongest (w ++ rest) w kind value)
    (h : Munches filename place (gap ++ (w ++ rest)) tokens error) :
    ∃ behind, tokens = ⟨kind, String.ofList value, place.after gap⟩ :: behind ∧
      Munches filename ((place.after gap).after w) rest behind error := by
  obtain ⟨behind, error', more⟩ := exists_munches filename ((place.after gap).after w) rest
  obtain ⟨rfl, rfl⟩ := h.unique (.lexeme_append blanks longest more)
  exact ⟨behind, rfl, more⟩

end Munches

/-- **The scanner is maximal munch.** -/
theorem stream_eq_iff_munches (filename text : String) (tokens : List Token)
    (error : Option Error) :
    (stream filename text = tokens ∧ error? filename text = error) ↔
      Munches filename .start text.toList tokens error := by
  constructor
  · rintro ⟨rfl, rfl⟩
    obtain ⟨tokens, error, munches⟩ := exists_munches filename .start text.toList
    obtain ⟨same, sameError⟩ := munches.drain_eq .start
    rw [stream, error?, Scanner.ofText_eq_between, same, sameError]
    exact munches
  · intro munches
    exact munches.drain_eq .start

end AssignLang.Lexical
