import AssignLang.Lexical.Spelling

/-! The lexical grammar, said on its own and not by way of the scanner: which spellings are lexemes,
of which kind, and what text their tokens hold. Main statements: a spelling has at most one kind and
one text (`IsLexeme.unique`), so a text has at most one longest lexeme (`IsLongest.unique`). -/
namespace AssignLang.Lexical
set_option autoImplicit false

/-! ## The grammar -/

/-- What may stand between the quotes of a string: characters other than the quote and the
backslash, and pairs of a backslash with any character. -/
inductive IsBody : List Char → Prop
  | nil : IsBody []
  | plain {c : Char} {body : List Char} (notQuote : c ≠ '"') (notBackslash : c ≠ '\\')
      (rest : IsBody body) : IsBody (c :: body)
  | escape (c : Char) {body : List Char} (rest : IsBody body) : IsBody ('\\' :: c :: body)

/-- The operators and brackets with their kinds. -/
def symbols : List (List Char × TokenKind) :=
  [(['-'], .binaryOp), (['/'], .binaryOp), (['+', '+'], .binaryOp), (['&', '&'], .binaryOp),
    (['*', '*'], .binaryOp), (['=', '='], .binaryOp), (['|'], .binaryOp), (['|', '|'], .binaryOp),
    (['+'], .binaryOrUnaryOp), (['&'], .binaryOrUnaryOp), (['*'], .binaryOrUnaryOp),
    (['='], .assign), (['!'], .unaryOp), (['('], .leftParen), ([')'], .rightParen),
    (['['], .leftSquare), ([']'], .rightSquare), (['\x7b'], .leftCurly), (['\x7d'], .rightCurly)]

/-- `IsLexeme w kind text`: the spelling `w` is a lexeme of this kind, and its token has this text.
The text is the spelling itself but for strings, which leave their quotes out. -/
inductive IsLexeme : List Char → TokenKind → List Char → Prop
  | keyword {w : List Char} (h : w = ['v', 'a', 'l'] ∨ w = ['v', 'a', 'r']) : IsLexeme w .declare w
  | identifier {w : List Char} (nonempty : w ≠ []) (letters : ∀ c ∈ w, isLetter c = true)
      (notVal : w ≠ ['v', 'a', 'l']) (notVar : w ≠ ['v', 'a', 'r']) : IsLexeme w .identifier w
  | integer {whole : List Char} (nonempty : whole ≠ []) (digits : ∀ c ∈ whole, isDigit c = true) :
      IsLexeme whole .number whole
  | decimal {whole fraction : List Char} (nonempty : whole ≠ [])
      (digits : ∀ c ∈ whole, isDigit c = true) (more : ∀ c ∈ fraction, isDigit c = true) :
      IsLexeme (whole ++ '.' :: fraction) .number (whole ++ '.' :: fraction)
  | string {body : List Char} (h : IsBody body) : IsLexeme ('"' :: (body ++ ['"'])) .string body
  | symbol {w : List Char} {kind : TokenKind} (h : (w, kind) ∈ symbols) : IsLexeme w kind w

/-- Among the spellings with which a text begins, `w` is the longest that is a lexeme. -/
structure IsLongest (text w : List Char) (kind : TokenKind) (value : List Char) : Prop where
  begins : w <+: text
  isLexeme : IsLexeme w kind value
  longest : ∀ v kind' value', v <+: text → IsLexeme v kind' value' → v.length ≤ w.length

/-- A text that begins with no lexeme. -/
def HasNoLexeme (text : List Char) : Prop :=
  ∀ w kind value, w <+: text → ¬ IsLexeme w kind value

/-! ## Characters that begin a lexeme -/

theorem isLetter_iff (c : Char) :
    isLetter c = true ↔
      ('A'.val ≤ c.val ∧ c.val ≤ 'Z'.val) ∨ ('a'.val ≤ c.val ∧ c.val ≤ 'z'.val) := by
  show (decide (c.val ≥ 'A'.val ∧ c.val ≤ 'Z'.val) ||
    (decide (c.val ≥ 'a'.val) && decide (c.val ≤ 'z'.val))) = true ↔ _
  rw [Bool.or_eq_true, Bool.and_eq_true, decide_eq_true_eq, decide_eq_true_eq, decide_eq_true_eq]

theorem isDigit_eq_false_of_isLetter {c : Char} (h : isLetter c = true) : isDigit c = false := by
  have nine : '9'.val.toNat = 57 := rfl
  have upper : 'A'.val.toNat = 65 := rfl
  have lower : 'a'.val.toNat = 97 := rfl
  show (decide (c.val ≥ '0'.val) && decide (c.val ≤ '9'.val)) = false
  rw [Bool.and_eq_false_iff, decide_eq_false_iff_not, decide_eq_false_iff_not]
  rw [isLetter_iff] at h
  simp only [ge_iff_le, UInt32.le_iff_toNat_le] at h ⊢
  omega

theorem head_symbols_not_letter : ∀ p ∈ symbols, p.1.head?.any isLetter = false := by decide

theorem head_symbols_not_digit : ∀ p ∈ symbols, p.1.head?.any isDigit = false := by decide

theorem head_symbols_not_quote : ∀ p ∈ symbols, p.1.head? ≠ some '"' := by decide

theorem symbols_ne_nil : ∀ p ∈ symbols, p.1 ≠ [] := by decide

theorem letters_of_keyword {w : List Char} (h : w = ['v', 'a', 'l'] ∨ w = ['v', 'a', 'r']) :
    ∀ c ∈ w, isLetter c = true := by
  rw [← List.all_eq_true]
  rcases h with rfl | rfl <;> rfl

theorem IsLexeme.ne_nil {w value : List Char} {kind : TokenKind} (h : IsLexeme w kind value) :
    w ≠ [] := by
  cases h with
  | keyword h => rcases h with rfl | rfl <;> simp
  | identifier nonempty => exact nonempty
  | integer nonempty => exact nonempty
  | decimal => simp
  | string => simp
  | symbol h => exact symbols_ne_nil _ h

/-- The shape of a number: digits, and perhaps a point with more digits. -/
def IsNumber (w : List Char) : Prop :=
  ∃ whole tail, w = whole ++ tail ∧ whole ≠ [] ∧ (∀ c ∈ whole, isDigit c = true) ∧
    (tail = [] ∨ ∃ fraction, tail = '.' :: fraction ∧ ∀ c ∈ fraction, isDigit c = true)

theorem isLexeme_of_isNumber {w : List Char} (h : IsNumber w) : IsLexeme w .number w := by
  obtain ⟨whole, tail, rfl, nonempty, digits, rfl | ⟨fraction, rfl, more⟩⟩ := h
  · rw [List.append_nil]
    exact .integer nonempty digits
  · exact .decimal nonempty digits more

/-- A lexeme is of one of four classes, and its first character tells of which. -/
theorem IsLexeme.cases_head {c : Char} {w value : List Char} {kind : TokenKind}
    (h : IsLexeme (c :: w) kind value) :
    (isLetter c = true ∧ (∀ x ∈ c :: w, isLetter x = true) ∧ kind = wordKind (c :: w) ∧
        value = c :: w) ∨
      (isDigit c = true ∧ IsNumber (c :: w) ∧ kind = .number ∧ value = c :: w) ∨
      (c = '"' ∧ IsBody value ∧ w = value ++ ['"'] ∧ kind = .string) ∨
      ((c :: w, kind) ∈ symbols ∧ value = c :: w) := by
  generalize spelling : c :: w = v at h ⊢
  have first : c ∈ v := spelling ▸ List.mem_cons_self
  cases h with
  | keyword h =>
    have letters := letters_of_keyword h
    have kind : wordKind value = .declare := by rcases h with rfl | rfl <;> rfl
    exact .inl ⟨letters c first, letters, kind.symm, rfl⟩
  | identifier nonempty letters notVal notVar =>
    have kind : wordKind value = .identifier := by simp [wordKind, isKeyword, notVal, notVar]
    exact .inl ⟨letters c first, letters, kind.symm, rfl⟩
  | integer nonempty digits =>
    have shape : IsNumber value :=
      ⟨value, [], (List.append_nil value).symm, nonempty, digits, .inl rfl⟩
    exact .inr (.inl ⟨digits c first, shape, rfl, rfl⟩)
  | @decimal whole fraction nonempty digits more =>
    have shape : IsNumber (whole ++ '.' :: fraction) :=
      ⟨whole, _, rfl, nonempty, digits, .inr ⟨fraction, rfl, more⟩⟩
    obtain ⟨d, rest, rfl⟩ := List.exists_cons_of_ne_nil nonempty
    obtain ⟨rfl, -⟩ := List.cons.inj spelling
    exact .inr (.inl ⟨digits c List.mem_cons_self, shape, rfl, rfl⟩)
  | string h =>
    obtain ⟨rfl, rfl⟩ := List.cons.inj spelling
    exact .inr (.inr (.inl ⟨rfl, h, rfl, rfl⟩))
  | symbol h => exact .inr (.inr (.inr ⟨h, rfl⟩))

theorem IsLexeme.of_letter {c : Char} {w value : List Char} {kind : TokenKind}
    (h : IsLexeme (c :: w) kind value) (letter : isLetter c = true) :
    (∀ x ∈ c :: w, isLetter x = true) ∧ kind = wordKind (c :: w) ∧ value = c :: w := by
  rcases h.cases_head with ⟨-, word⟩ | ⟨digit, -⟩ | ⟨rfl, -⟩ | ⟨member, -⟩
  · exact word
  · exact absurd digit (by simp [isDigit_eq_false_of_isLetter letter])
  · exact absurd letter (by decide)
  · exact absurd letter (by simpa using head_symbols_not_letter _ member)

theorem IsLexeme.of_digit {c : Char} {w value : List Char} {kind : TokenKind}
    (h : IsLexeme (c :: w) kind value) (digit : isDigit c = true) :
    IsNumber (c :: w) ∧ kind = .number ∧ value = c :: w := by
  rcases h.cases_head with ⟨letter, -⟩ | ⟨-, number⟩ | ⟨rfl, -⟩ | ⟨member, -⟩
  · exact absurd digit (by simp [isDigit_eq_false_of_isLetter letter])
  · exact number
  · exact absurd digit (by decide)
  · exact absurd digit (by simpa using head_symbols_not_digit _ member)

theorem IsLexeme.of_quote {w value : List Char} {kind : TokenKind}
    (h : IsLexeme ('"' :: w) kind value) : IsBody value ∧ w = value ++ ['"'] ∧ kind = .string := by
  rcases h.cases_head with ⟨letter, -⟩ | ⟨digit, -⟩ | ⟨-, string⟩ | ⟨member, -⟩
  · exact absurd letter (by decide)
  · exact absurd digit (by decide)
  · exact string
  · exact absurd rfl (head_symbols_not_quote _ member)

theorem IsLexeme.of_other {c : Char} {w value : List Char} {kind : TokenKind}
    (h : IsLexeme (c :: w) kind value) (letter : isLetter c = false) (digit : isDigit c = false)
    (quote : c ≠ '"') : (c :: w, kind) ∈ symbols ∧ value = c :: w := by
  rcases h.cases_head with ⟨isLetter, -⟩ | ⟨isDigit, -⟩ | ⟨isQuote, -⟩ | symbol
  · exact absurd isLetter (by simp [letter])
  · exact absurd isDigit (by simp [digit])
  · exact absurd isQuote quote
  · exact symbol

theorem isBlank_eq_false_of_isLetter {c : Char} (h : isLetter c = true) : isBlank c = false := by
  cases blank : isBlank c with
  | false => rfl
  | true =>
    simp only [isBlank, Bool.or_eq_true, decide_eq_true_eq] at blank
    rcases blank with (rfl | rfl) | rfl <;> exact absurd h (by decide)

theorem isBlank_eq_false_of_isDigit {c : Char} (h : isDigit c = true) : isBlank c = false := by
  cases blank : isBlank c with
  | false => rfl
  | true =>
    simp only [isBlank, Bool.or_eq_true, decide_eq_true_eq] at blank
    rcases blank with (rfl | rfl) | rfl <;> exact absurd h (by decide)

theorem IsLexeme.isBlank_head {c : Char} {w value : List Char} {kind : TokenKind}
    (h : IsLexeme (c :: w) kind value) : isBlank c = false := by
  rcases h.cases_head with ⟨letter, -⟩ | ⟨digit, -⟩ | ⟨rfl, -⟩ | ⟨member, -⟩
  · exact isBlank_eq_false_of_isLetter letter
  · exact isBlank_eq_false_of_isDigit digit
  · rfl
  · simpa using (by decide : ∀ p ∈ symbols, p.1.head?.any isBlank = false) _ member

/-! ## What the kind tells of the spelling -/

theorem IsLexeme.of_identifier {w value : List Char} (h : IsLexeme w .identifier value) :
    value = w ∧ w ≠ [] ∧ (∀ c ∈ w, isLetter c = true) ∧ w ≠ ['v', 'a', 'l'] ∧
      w ≠ ['v', 'a', 'r'] := by
  cases h with
  | identifier nonempty letters notVal notVar =>
    exact ⟨rfl, nonempty, letters, notVal, notVar⟩
  | symbol member =>
    exact absurd rfl ((by decide : ∀ p ∈ symbols, p.2 ≠ .identifier) _ member)

theorem IsLexeme.of_assign {w value : List Char} (h : IsLexeme w .assign value) : w = ['='] := by
  cases h with
  | symbol member => exact (by decide : ∀ p ∈ symbols, p.2 = .assign → p.1 = ['=']) _ member rfl

theorem IsLexeme.of_number {w value : List Char} (h : IsLexeme w .number value) :
    value = w ∧ ∃ c rest, w = c :: rest ∧ isDigit c = true := by
  cases h with
  | integer nonempty digits =>
    obtain ⟨c, rest, rfl⟩ := List.exists_cons_of_ne_nil nonempty
    exact ⟨rfl, c, rest, rfl, digits c List.mem_cons_self⟩
  | decimal nonempty digits more =>
    obtain ⟨c, rest, rfl⟩ := List.exists_cons_of_ne_nil nonempty
    exact ⟨rfl, c, _, rfl, digits c List.mem_cons_self⟩
  | symbol member => exact absurd rfl ((by decide : ∀ p ∈ symbols, p.2 ≠ .number) _ member)

/-! ## A text has at most one longest lexeme -/

theorem symbols_unique : ∀ p ∈ symbols, ∀ q ∈ symbols, p.1 = q.1 → p.2 = q.2 := by decide

theorem IsLexeme.unique {w value value' : List Char} {kind kind' : TokenKind}
    (h : IsLexeme w kind value) (h' : IsLexeme w kind' value') : kind = kind' ∧ value = value' := by
  obtain ⟨c, w, rfl⟩ := List.exists_cons_of_ne_nil h.ne_nil
  cases letter : isLetter c with
  | true =>
    obtain ⟨-, rfl, rfl⟩ := h.of_letter letter
    obtain ⟨-, rfl, rfl⟩ := h'.of_letter letter
    exact ⟨rfl, rfl⟩
  | false =>
    cases digit : isDigit c with
    | true =>
      obtain ⟨-, rfl, rfl⟩ := h.of_digit digit
      obtain ⟨-, rfl, rfl⟩ := h'.of_digit digit
      exact ⟨rfl, rfl⟩
    | false =>
      by_cases quote : c = '"'
      · subst quote
        obtain ⟨-, shape, rfl⟩ := h.of_quote
        obtain ⟨-, shape', rfl⟩ := h'.of_quote
        exact ⟨rfl, List.append_cancel_right (shape.symm.trans shape')⟩
      · obtain ⟨member, rfl⟩ := h.of_other letter digit quote
        obtain ⟨member', rfl⟩ := h'.of_other letter digit quote
        exact ⟨symbols_unique _ member _ member' rfl, rfl⟩

theorem IsLongest.unique {text w w' value value' : List Char} {kind kind' : TokenKind}
    (h : IsLongest text w kind value) (h' : IsLongest text w' kind' value') :
    w = w' ∧ kind = kind' ∧ value = value' := by
  have shorter := h.longest w' kind' value' h'.begins h'.isLexeme
  have longer := h'.longest w kind value h.begins h.isLexeme
  have same : w = w' :=
    (List.prefix_of_prefix_length_le h.begins h'.begins longer).eq_of_length_le shorter
  subst same
  exact ⟨rfl, h.isLexeme.unique h'.isLexeme⟩

theorem IsLongest.not_hasNoLexeme {text w value : List Char} {kind : TokenKind}
    (h : IsLongest text w kind value) : ¬ HasNoLexeme text :=
  fun none => none w kind value h.begins h.isLexeme

theorem IsLongest.not_isLexeme_concat {w tail value : List Char} {c : Char} {kind : TokenKind}
    (h : IsLongest (w ++ c :: tail) w kind value) (kind' : TokenKind) (value' : List Char) :
    ¬ IsLexeme (w ++ [c]) kind' value' := by
  intro lexeme
  have begins : w ++ [c] <+: w ++ c :: tail := ⟨tail, by simp⟩
  have length := h.longest _ _ _ begins lexeme
  rw [List.length_append, List.length_singleton] at length
  omega

theorem hasNoLexeme_nil : HasNoLexeme [] := by
  intro w kind value begins lexeme
  exact lexeme.ne_nil (List.prefix_nil.mp begins)

/-- It is enough to look at the lexemes that share the first character with the text. -/
theorem isLongest_of_cons {c : Char} {rest w value : List Char} {kind : TokenKind}
    (begins : w <+: c :: rest) (isLexeme : IsLexeme w kind value)
    (longest : ∀ v kind' value', c :: v <+: c :: rest → IsLexeme (c :: v) kind' value' →
      (c :: v).length ≤ w.length) : IsLongest (c :: rest) w kind value := by
  refine ⟨begins, isLexeme, fun v kind' value' begins' lexeme => ?_⟩
  rcases List.prefix_cons_iff.mp begins' with rfl | ⟨v, rfl, -⟩
  · exact Nat.zero_le _
  · exact longest v kind' value' begins' lexeme

end AssignLang.Lexical
