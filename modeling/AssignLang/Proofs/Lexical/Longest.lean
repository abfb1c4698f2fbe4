import AssignLang.Proofs.Lexical.Lexeme

/-! The longest lexeme of a text, for each first character that it can have: a word and the digits of
a number take all they can, with at most one point (`isLongest_word`, `isLongest_number`), a string
ends at the first quote that closes it (`isLongest_string`), and a symbol is doubled where it may be
(`isLongest_symbol`). -/
namespace AssignLang.Lexical
set_option autoImplicit false

/-! ## Words -/

theorem isLexeme_word {w : List Char} (nonempty : w ≠ []) (letters : ∀ c ∈ w, isLetter c = true) :
    IsLexeme w (wordKind w) w := by
  unfold wordKind
  split
  next keyword =>
    rw [isKeyword, Bool.or_eq_true, decide_eq_true_eq, decide_eq_true_eq] at keyword
    exact .keyword keyword
  next other =>
    rw [isKeyword, Bool.or_eq_true, decide_eq_true_eq, decide_eq_true_eq, not_or] at other
    exact .identifier nonempty letters other.1 other.2

theorem length_le_takeWhile {p : Char → Bool} {v text : List Char} (begins : v <+: text)
    (all : ∀ c ∈ v, p c = true) : v.length ≤ (text.takeWhile p).length := by
  obtain ⟨after, rfl⟩ := begins
  rw [List.takeWhile_append_of_pos all, List.length_append]
  exact Nat.le_add_right _ _

theorem mem_takeWhile {p : Char → Bool} {text : List Char} :
    ∀ c ∈ text.takeWhile p, p c = true :=
  List.all_eq_true.mp List.all_takeWhile

theorem isLongest_word {c : Char} (letter : isLetter c = true) (rest : List Char) :
    IsLongest (c :: rest) ((c :: rest).takeWhile isLetter)
      (wordKind ((c :: rest).takeWhile isLetter)) ((c :: rest).takeWhile isLetter) := by
  have nonempty : (c :: rest).takeWhile isLetter ≠ [] := by simp [letter]
  refine isLongest_of_cons (List.takeWhile_prefix _) (isLexeme_word nonempty mem_takeWhile) ?_
  intro v kind value begins lexeme
  exact length_le_takeWhile begins (lexeme.of_letter letter).1

theorem takeWhile_append_of_stop {p : Char → Bool} {w tail : List Char}
    (all : ∀ c ∈ w, p c = true) (stop : ∀ c ∈ tail.head?, p c = false) :
    (w ++ tail).takeWhile p = w ∧ (w ++ tail).dropWhile p = tail := by
  rw [List.takeWhile_append_of_pos all, List.dropWhile_append_of_pos all]
  cases tail with
  | nil => simp
  | cons c rest =>
    have first : p c = false := stop c rfl
    simp [first]

theorem isLongest_word_append {w tail : List Char} (nonempty : w ≠ [])
    (letters : ∀ c ∈ w, isLetter c = true) (stop : ∀ c ∈ tail.head?, isLetter c = false) :
    IsLongest (w ++ tail) w (wordKind w) w := by
  obtain ⟨c, rest, rfl⟩ := List.exists_cons_of_ne_nil nonempty
  have longest := isLongest_word (letters c List.mem_cons_self) (rest ++ tail)
  rwa [← List.cons_append, (takeWhile_append_of_stop letters stop).1] at longest

/-! ## Numbers -/

/-- The point and the digits that go on with a number. -/
def fraction : List Char → List Char
  | '.' :: rest => '.' :: rest.takeWhile isDigit
  | _ => []

/-- The longest number with which a text begins. -/
def leadingNumber (text : List Char) : List Char :=
  text.takeWhile isDigit ++ fraction (text.dropWhile isDigit)

theorem fraction_begins (tail : List Char) : fraction tail <+: tail := by
  unfold fraction
  split
  · exact (List.cons_prefix_cons).mpr ⟨rfl, List.takeWhile_prefix _⟩
  · exact List.nil_prefix

theorem leadingNumber_begins (text : List Char) : leadingNumber text <+: text := by
  conv => rhs; rw [← List.takeWhile_append_dropWhile (p := isDigit) (l := text)]
  exact (List.prefix_append_right_inj _).mpr (fraction_begins _)

theorem isNumber_leadingNumber {c : Char} {rest : List Char} (digit : isDigit c = true) :
    IsNumber (leadingNumber (c :: rest)) := by
  refine ⟨(c :: rest).takeWhile isDigit, _, rfl, by simp [digit], mem_takeWhile, ?_⟩
  unfold fraction
  split
  · exact .inr ⟨_, rfl, mem_takeWhile⟩
  · exact .inl rfl

theorem length_le_leadingNumber {v text : List Char} (begins : v <+: text) (number : IsNumber v) :
    v.length ≤ (leadingNumber text).length := by
  obtain ⟨whole, tail, rfl, -, digits, rfl | ⟨more, rfl, moreDigits⟩⟩ := number
  · rw [List.append_nil] at begins ⊢
    have shorter := length_le_takeWhile begins digits
    rw [leadingNumber, List.length_append]
    omega
  · obtain ⟨after, rfl⟩ := begins
    have point : isDigit '.' = false := by decide
    rw [leadingNumber, List.append_assoc, List.takeWhile_append_of_pos digits,
      List.dropWhile_append_of_pos digits, List.cons_append,
      List.takeWhile_cons_of_neg (by simp [point]), List.dropWhile_cons_of_neg (by simp [point]),
      fraction, List.takeWhile_append_of_pos moreDigits]
    simp only [List.length_append, List.length_cons, List.length_nil]
    omega

theorem isLongest_number {c : Char} (digit : isDigit c = true) (rest : List Char) :
    IsLongest (c :: rest) (leadingNumber (c :: rest)) .number (leadingNumber (c :: rest)) := by
  refine isLongest_of_cons (leadingNumber_begins _)
    (isLexeme_of_isNumber (isNumber_leadingNumber digit)) ?_
  intro v kind value begins lexeme
  exact length_le_leadingNumber begins (lexeme.of_digit digit).1

theorem leadingNumber_append {w tail : List Char} (number : IsNumber w)
    (stop : ∀ c ∈ tail.head?, isDigit c = false ∧ c ≠ '.') : leadingNumber (w ++ tail) = w := by
  obtain ⟨whole, more, rfl, -, digits, rfl | ⟨rest, rfl, moreDigits⟩⟩ := number
  · have none : fraction tail = [] := by
      unfold fraction
      split
      next => exact absurd rfl (stop '.' rfl).2
      next => rfl
    have parts := takeWhile_append_of_stop digits fun c first => (stop c first).1
    rw [List.append_nil, leadingNumber, parts.1, parts.2, none, List.append_nil]
  · have point : ∀ c ∈ ('.' :: (rest ++ tail)).head?, isDigit c = false := by
      intro c first
      obtain rfl := Option.some.inj first
      rfl
    have whole := takeWhile_append_of_stop digits point
    have behind := takeWhile_append_of_stop moreDigits fun c first => (stop c first).1
    rw [List.append_assoc, List.cons_append, leadingNumber, whole.1, whole.2, fraction, behind.1]

theorem isLongest_number_append {w tail : List Char} (number : IsNumber w)
    (stop : ∀ c ∈ tail.head?, isDigit c = false ∧ c ≠ '.') :
    IsLongest (w ++ tail) w .number w := by
  have only := leadingNumber_append number stop
  obtain ⟨c, rest, rfl, digit⟩ := (isLexeme_of_isNumber number).of_number.2
  have longest := isLongest_number digit (rest ++ tail)
  rwa [← List.cons_append, only] at longest

theorem isLongest_digits_append {w tail : List Char} (nonempty : w ≠ [])
    (digits : ∀ c ∈ w, isDigit c = true)
    (stop : ∀ c ∈ tail.head?, isDigit c = false ∧ c ≠ '.') :
    IsLongest (w ++ tail) w .number w :=
  isLongest_number_append ⟨w, [], (List.append_nil w).symm, nonempty, digits, .inl rfl⟩ stop

theorem IsNumber.concat {w : List Char} {c : Char} (h : IsNumber w) (digit : isDigit c = true) :
    IsNumber (w ++ [c]) := by
  have last : ∀ x ∈ [c], isDigit x = true := List.forall_mem_singleton.mpr digit
  obtain ⟨whole, more, rfl, nonempty, digits, rfl | ⟨rest, rfl, moreDigits⟩⟩ := h
  · have all := List.forall_mem_append.mpr ⟨digits, last⟩
    exact ⟨whole ++ [c], [], by simp, by simp, all, .inl rfl⟩
  · have all := List.forall_mem_append.mpr ⟨moreDigits, last⟩
    exact ⟨whole, '.' :: (rest ++ [c]), by simp, nonempty, digits, .inr ⟨_, rfl, all⟩⟩

/-- No digit and no point follows the longest number where it is made of digits alone. -/
theorem IsLongest.stop_of_digits {w tail value : List Char} {kind : TokenKind}
    (h : IsLongest (w ++ tail) w kind value) (nonempty : w ≠ [])
    (digits : ∀ c ∈ w, isDigit c = true) : ∀ c ∈ tail.head?, isDigit c = false ∧ c ≠ '.' := by
  intro c first
  obtain ⟨rest, rfl⟩ := List.head?_eq_some_iff.mp first
  constructor
  · cases digit : isDigit c with
    | false => rfl
    | true =>
      have all := List.forall_mem_append.mpr ⟨digits, List.forall_mem_singleton.mpr digit⟩
      exact absurd (.integer (by simp) all) (h.not_isLexeme_concat _ _)
  · rintro rfl
    exact h.not_isLexeme_concat _ _ (.decimal nonempty digits (by simp))

/-! ## Strings -/

theorem bodyLength?_append {body : List Char} (h : IsBody body) (after : List Char) :
    bodyLength? (body ++ '"' :: after) = some body.length := by
  induction h with
  | nil => rfl
  | @plain c body notQuote notBackslash rest ih =>
    rw [List.cons_append, bodyLength?.eq_4 _ _ (by simpa using notQuote)
      (by rintro d tail rfl; exact absurd rfl notBackslash), ih]
    rfl
  | @escape c body rest ih =>
    rw [List.cons_append, List.cons_append, bodyLength?, ih]
    rfl

theorem exists_body_of_bodyLength? {text : List Char} {n : Nat} (h : bodyLength? text = some n) :
    ∃ body after, text = body ++ '"' :: after ∧ IsBody body ∧ body.length = n := by
  fun_induction bodyLength? text generalizing n with
  | case1 => exact absurd h (by simp)
  | case2 after =>
    obtain rfl := Option.some.inj h
    exact ⟨[], after, rfl, .nil, rfl⟩
  | case3 c rest ih =>
    obtain ⟨m, found, rfl⟩ := Option.map_eq_some_iff.mp h
    obtain ⟨body, after, rfl, isBody, rfl⟩ := ih found
    exact ⟨'\\' :: c :: body, after, rfl, .escape c isBody, rfl⟩
  | case4 c rest notQuote notPair ih =>
    obtain ⟨m, found, rfl⟩ := Option.map_eq_some_iff.mp h
    obtain ⟨body, after, rfl, isBody, rfl⟩ := ih found
    have notBackslash : c ≠ '\\' := by
      rintro rfl
      cases body with
      | nil => exact notPair _ _ rfl rfl
      | cons d body => exact notPair _ _ rfl rfl
    exact ⟨c :: body, after, rfl, .plain notQuote notBackslash isBody, rfl⟩

theorem bodyLength?_of_begins {body rest : List Char} (h : IsBody body)
    (begins : body ++ ['"'] <+: rest) : bodyLength? rest = some body.length := by
  obtain ⟨after, rfl⟩ := begins
  rw [List.append_assoc]
  exact bodyLength?_append h after

theorem isLongest_string {body : List Char} (h : IsBody body) (after : List Char) :
    IsLongest ('"' :: (body ++ '"' :: after)) ('"' :: (body ++ ['"'])) .string body := by
  refine isLongest_of_cons ⟨after, by simp⟩ (.string h) ?_
  intro v kind value begins lexeme
  obtain ⟨isBody, rfl, -⟩ := lexeme.of_quote
  have length := bodyLength?_of_begins isBody (List.cons_prefix_cons.mp begins).2
  rw [bodyLength?_append h] at length
  simp only [List.length_cons, List.length_append, Option.some.inj length]
  exact Nat.le_refl _

theorem hasNoLexeme_of_open {rest : List Char} (h : bodyLength? rest = none) :
    HasNoLexeme ('"' :: rest) := by
  intro w kind value begins lexeme
  rcases List.prefix_cons_iff.mp begins with rfl | ⟨w, rfl, inner⟩
  · exact lexeme.ne_nil rfl
  · obtain ⟨isBody, rfl, -⟩ := lexeme.of_quote
    rw [bodyLength?_of_begins isBody inner] at h
    exact absurd h (by simp)

/-! ## Symbols -/

/-- Every symbol is its first character, alone or doubled. -/
theorem mem_symbols_iff (c : Char) (w : List Char) (kind : TokenKind) :
    (c :: w, kind) ∈ symbols ↔
      ∃ s, symbol? c = some s ∧ (w = [] ∧ kind = s.alone ∨ w = [c] ∧ s.doubled = some kind) := by
  constructor
  · intro h
    simp only [symbols, List.mem_cons, Prod.mk.injEq, List.cons.injEq, List.not_mem_nil,
      or_false] at h
    rcases h with h | h | h | h | h | h | h | h | h | h | h | h | h | h | h | h | h | h | h <;>
      (obtain ⟨⟨rfl, rfl⟩, rfl⟩ := h; exact ⟨_, rfl, by simp⟩)
  · rintro ⟨s, hs, h⟩
    unfold symbol? at hs
    split at hs <;> cases hs <;> rcases h with ⟨rfl, rfl⟩ | ⟨rfl, h⟩ <;> simp_all [symbols]

theorem isLongest_symbol {c : Char} {s : Symbol} (found : symbol? c = some s)
    (letter : isLetter c = false) (digit : isDigit c = false) (quote : c ≠ '"')
    (rest : List Char) :
    IsLongest (c :: rest) ((c :: rest).take (s.longest (rest.head? = some c)).2)
      (s.longest (rest.head? = some c)).1
      ((c :: rest).take (s.longest (rest.head? = some c)).2) := by
  have shape : ∀ v kind value, c :: v <+: c :: rest → IsLexeme (c :: v) kind value →
      v = [] ∨ v = [c] ∧ s.doubled.isSome = true ∧ rest.head? = some c := by
    intro v kind value begins lexeme
    have member := (lexeme.of_other letter digit quote).1
    obtain ⟨s', found', ⟨rfl, -⟩ | ⟨rfl, doubled⟩⟩ := (mem_symbols_iff c v kind).mp member
    · exact .inl rfl
    · obtain rfl := Option.some.inj (found.symm.trans found')
      obtain ⟨after, rfl⟩ := (List.cons_prefix_cons.mp begins).2
      exact .inr ⟨rfl, by simp [doubled], rfl⟩
  refine isLongest_of_cons (List.take_prefix _ _) ?_ ?_
  all_goals unfold Symbol.longest
  all_goals split
  · next kind again doubled =>
    obtain ⟨tail, rfl⟩ := List.head?_eq_some_iff.mp (of_decide_eq_true again)
    exact .symbol ((mem_symbols_iff c [c] kind).mpr ⟨s, found, .inr ⟨rfl, doubled⟩⟩)
  · exact .symbol ((mem_symbols_iff c [] s.alone).mpr ⟨s, found, .inl ⟨rfl, rfl⟩⟩)
  · next kind again doubled =>
    intro v kind' value begins lexeme
    obtain ⟨tail, rfl⟩ := List.head?_eq_some_iff.mp (of_decide_eq_true again)
    rcases shape v kind' value begins lexeme with rfl | ⟨rfl, -⟩
    · simp
    · simp
  · next once =>
    intro v kind' value begins lexeme
    rcases shape v kind' value begins lexeme with rfl | ⟨rfl, doubled, again⟩
    · simp
    · obtain ⟨kind, some⟩ := Option.isSome_iff_exists.mp doubled
      exact absurd some (once kind (decide_eq_true again))

theorem isLongest_equals {tail : List Char} (stop : tail.head? ≠ some '=') :
    IsLongest (['='] ++ tail) ['='] .assign ['='] := by
  have longest := isLongest_symbol (c := '=') rfl rfl rfl (by decide) tail
  rwa [decide_eq_false stop] at longest

theorem hasNoLexeme_of_other {c : Char} {rest : List Char} (h : symbol? c = none)
    (letter : isLetter c = false) (digit : isDigit c = false) (quote : c ≠ '"') :
    HasNoLexeme (c :: rest) := by
  intro w kind value begins lexeme
  rcases List.prefix_cons_iff.mp begins with rfl | ⟨w, rfl, -⟩
  · exact lexeme.ne_nil rfl
  · have member := (lexeme.of_other letter digit quote).1
    obtain ⟨s, found, -⟩ := (mem_symbols_iff c w kind).mp member
    rw [h] at found
    exact absurd found (by simp)

end AssignLang.Lexical
