import AssignLang.Proofs.Lexical.Tiling
import Mathlib.Data.List.Chain
import Mathlib.Data.List.TakeWhile

/-! Lexemes written down one after another, with blanks between them or not, and scanned again. A
lexeme comes back where what is behind it does not go on with it (`IsLexeme.isLongest_append`), and
a lexeme behind it goes on with it only where the two merge: two words, two numbers, or a single
operator before one that begins with it. Main statement: `stream_layout_iff`. -/
namespace AssignLang.Lexical
set_option autoImplicit false

/-! ## What is written down -/

/-- Characters that leave no trace among the tokens. -/
abbrev Blanks := {gap : List Char // ∀ c ∈ gap, isBlank c = true}

/-- A lexeme to be written down, and the blanks before it. -/
structure Piece where
  gap : Blanks
  spelling : List Char
  kind : TokenKind
  value : List Char
  isLexeme : IsLexeme spelling kind value

/-- The pieces in a row, with blanks at the end. -/
def layout (tail : Blanks) : List Piece → List Char
  | [] => tail.val
  | piece :: rest => piece.gap.val ++ (piece.spelling ++ layout tail rest)

/-- The operators that stand alone or doubled. -/
def doubling : List Char := ['+', '&', '*', '=', '|']

/-- Lexemes that merge when nothing stands between them. -/
inductive Mergeable : List Char → List Char → Prop
  | words {u v : List Char} (first : ∀ c ∈ u, isLetter c = true)
      (second : ∀ c ∈ v, isLetter c = true) : Mergeable u v
  | numbers {u v : List Char} (first : IsNumber u) (second : IsNumber v) : Mergeable u v
  | operator {c : Char} (rest : List Char) (doubles : c ∈ doubling) :
      Mergeable [c] (c :: rest)

/-- The two do not merge, or there are blanks between them. -/
def Piece.Apart (u v : Piece) : Prop :=
  v.gap.val = [] → ¬ Mergeable u.spelling v.spelling

/-! ## What may go on with a lexeme -/

/-- `Extends u c`: the lexeme `u` may go on with the character `c`. -/
inductive Extends : List Char → Char → Prop
  | word {u : List Char} {c : Char} (letters : ∀ x ∈ u, isLetter x = true)
      (letter : isLetter c = true) : Extends u c
  | number {u : List Char} {c : Char} (number : IsNumber u) (more : isDigit c = true ∨ c = '.') :
      Extends u c
  | operator {c : Char} (doubles : c ∈ doubling) : Extends [c] c

theorem doubled_isSome_iff {c : Char} {s : Symbol} (found : symbol? c = some s) :
    s.doubled.isSome = true ↔ c ∈ doubling := by
  unfold symbol? at found
  split at found
  case h_15 => exact absurd found (by simp)
  all_goals
    obtain rfl := Option.some.inj found
    decide

theorem isLexeme_doubled {c : Char} (doubles : c ∈ doubling) :
    IsLexeme [c, c] .binaryOp [c, c] := by
  simp only [doubling, List.mem_cons, List.not_mem_nil, or_false] at doubles
  rcases doubles with rfl | rfl | rfl | rfl | rfl <;> exact .symbol (by decide)

theorem IsLexeme.isLongest_append {u value tail : List Char} {kind : TokenKind}
    (h : IsLexeme u kind value) (stop : ∀ c ∈ tail.head?, ¬ Extends u c) :
    IsLongest (u ++ tail) u kind value := by
  obtain ⟨c, w, rfl⟩ := List.exists_cons_of_ne_nil h.ne_nil
  cases letter : isLetter c with
  | true =>
    obtain ⟨letters, rfl, rfl⟩ := h.of_letter letter
    refine isLongest_word_append (by simp) letters fun x first => ?_
    rw [← Bool.not_eq_true]
    exact fun more => stop x first (.word letters more)
  | false =>
    cases digit : isDigit c with
    | true =>
      obtain ⟨number, rfl, rfl⟩ := h.of_digit digit
      refine isLongest_number_append number fun x first => ?_
      rw [← Bool.not_eq_true]
      exact ⟨fun more => stop x first (.number number (.inl more)),
        fun point => stop x first (.number number (.inr point))⟩
    | false =>
      by_cases quote : c = '"'
      · subst quote
        obtain ⟨isBody, rfl, rfl⟩ := h.of_quote
        have longest := isLongest_string isBody tail
        rwa [List.cons_append, List.append_assoc]
      · obtain ⟨member, rfl⟩ := h.of_other letter digit quote
        obtain ⟨s, -, shape⟩ := (mem_symbols_iff c w kind).mp member
        refine isLongest_of_cons (List.prefix_append _ _) h fun v kind' value' begins lexeme => ?_
        have member' := (lexeme.of_other letter digit quote).1
        obtain ⟨s', found, ⟨rfl, -⟩ | ⟨rfl, doubled⟩⟩ := (mem_symbols_iff c v kind').mp member'
        · simp
        · rcases shape with ⟨rfl, -⟩ | ⟨rfl, -⟩
          · -- A single operator is doubled only where the same character follows.
            obtain ⟨after, rfl⟩ := (List.cons_prefix_cons.mp begins).2
            have doubles := (doubled_isSome_iff found).mp (by rw [doubled]; rfl)
            exact absurd (.operator doubles) (stop c rfl)
          · simp

theorem not_extends_of_isBlank {u : List Char} {c : Char} (blank : isBlank c = true) :
    ¬ Extends u c := by
  intro h
  rw [← Bool.not_eq_false] at blank
  apply blank
  cases h with
  | word _ letter => exact isBlank_eq_false_of_isLetter letter
  | number _ more =>
    rcases more with digit | rfl
    · exact isBlank_eq_false_of_isDigit digit
    · rfl
  | operator doubles => exact (isLexeme_doubled doubles).isBlank_head

/-! ## Lexemes that merge -/

theorem IsLexeme.mergeable_of_extends {u v value : List Char} {c : Char} {kind : TokenKind}
    (h : IsLexeme (c :: v) kind value) (more : Extends u c) : Mergeable u (c :: v) := by
  cases more with
  | word letters letter => exact .words letters (h.of_letter letter).1
  | number number more =>
    rcases more with digit | rfl
    · exact .numbers number (h.of_digit digit).1
    · -- A number may go on with a point, but no lexeme begins with one.
      have member := (h.of_other (by decide) (by decide) (by decide)).1
      exact absurd rfl ((by decide : ∀ p ∈ symbols, p.1.head? ≠ some '.') _ member)
  | operator doubles => exact .operator v doubles

theorem Mergeable.not_isLongest {u v value value' tail : List Char} {kind kind' : TokenKind}
    (h : Mergeable u v) (second : IsLexeme v kind' value') :
    ¬ IsLongest (u ++ (v ++ tail)) u kind value := by
  obtain ⟨c, w, rfl⟩ := List.exists_cons_of_ne_nil second.ne_nil
  intro longest
  cases h with
  | words first letters =>
    have next := letters c List.mem_cons_self
    have all := List.forall_mem_append.mpr ⟨first, List.forall_mem_singleton.mpr next⟩
    exact longest.not_isLexeme_concat _ _ (isLexeme_word (by simp) all)
  | numbers first number =>
    obtain ⟨d, rest, split, digit⟩ := (isLexeme_of_isNumber number).of_number.2
    obtain ⟨rfl, rfl⟩ := List.cons.inj split
    exact longest.not_isLexeme_concat _ _ (isLexeme_of_isNumber (first.concat digit))
  | operator rest doubles => exact longest.not_isLexeme_concat _ _ (isLexeme_doubled doubles)

theorem Piece.isLongest_iff (u : Piece) (pieces : List Piece) (tail : Blanks) :
    IsLongest (u.spelling ++ layout tail pieces) u.spelling u.kind u.value ↔
      ∀ v ∈ pieces.head?, u.Apart v := by
  constructor
  · intro longest v first empty merge
    obtain ⟨rest, rfl⟩ := List.head?_eq_some_iff.mp first
    rw [layout, empty, List.nil_append] at longest
    exact merge.not_isLongest v.isLexeme longest
  · intro apart
    refine u.isLexeme.isLongest_append fun c first => ?_
    cases pieces with
    | nil => exact not_extends_of_isBlank (tail.property c (List.mem_of_mem_head? first))
    | cons v rest =>
      rw [layout] at first
      cases empty : v.gap.val with
      | cons d gap =>
        rw [empty] at first
        obtain rfl := Option.some.inj first
        exact not_extends_of_isBlank (v.gap.property d (empty ▸ List.mem_cons_self))
      | nil =>
        obtain ⟨d, w, split⟩ := List.exists_cons_of_ne_nil v.isLexeme.ne_nil
        have lexeme := v.isLexeme
        have merge := apart v rfl empty
        rw [empty, split] at first
        rw [split] at lexeme merge
        obtain rfl := Option.some.inj first
        exact fun more => merge (lexeme.mergeable_of_extends more)

/-! ## What comes back -/

/-- The kind and the text of a token tell the lexeme that it was made of. -/
theorem IsLexeme.eq_of_content {w w' value value' : List Char} {kind kind' : TokenKind}
    (h : IsLexeme w kind value) (h' : IsLexeme w' kind' value')
    (same : (kind, String.ofList value) = (kind', String.ofList value')) :
    w = w' ∧ kind = kind' ∧ value = value' := by
  obtain ⟨rfl, text⟩ := Prod.mk.inj same
  obtain rfl := String.ofList_injective text
  have spelled := h.spelling_eq none .start
  exact ⟨spelled.symm.trans (h'.spelling_eq none .start), rfl, rfl⟩

theorem Munches.layout_iff {filename : String} {place : Position} {tail : Blanks}
    {pieces : List Piece} {tokens : List Token} {error : Option Error}
    (h : Munches filename place (layout tail pieces) tokens error) :
    tokens.map (fun t => (t.kind, t.text)) =
      pieces.map (fun p => (p.kind, String.ofList p.value)) ++ [(.eof, "")] ↔
      pieces.IsChain Piece.Apart := by
  induction pieces generalizing place tokens with
  | nil =>
    have none : tail.val.dropWhile isBlank = [] := List.dropWhile_eq_nil_iff.mpr tail.property
    cases h with
    | eof => exact ⟨fun _ => .nil, fun _ => rfl⟩
    | lexeme ahead longest =>
      rw [layout, none] at ahead
      exact absurd (List.append_eq_nil_iff.mp ahead.symm).1 longest.isLexeme.ne_nil
    | unterminated ahead | unexpected ahead =>
      rw [layout, none] at ahead
      exact absurd ahead (by simp)
  | cons u rest ih =>
    rw [List.isChain_cons, ← u.isLongest_iff rest tail, List.map_cons, List.cons_append]
    rw [layout] at h
    have parts := Scanner.takeWhile_isBlank_append u.gap.property u.isLexeme (layout tail rest)
    have some : ¬ HasNoLexeme (u.spelling ++ layout tail rest) := fun none =>
      none _ _ _ (List.prefix_append _ _) u.isLexeme
    cases h with
    | eof ahead =>
      rw [parts.2] at ahead
      exact absurd (ahead ▸ hasNoLexeme_nil) some
    | unterminated ahead none | unexpected ahead _ none =>
      rw [parts.2] at ahead
      exact absurd (ahead ▸ none) some
    | lexeme ahead longest more =>
      rw [parts.2] at ahead
      rw [← ahead] at longest
      rw [List.map_cons, List.cons.injEq]
      constructor
      · rintro ⟨first, behind⟩
        obtain ⟨rfl, rfl, rfl⟩ := longest.isLexeme.eq_of_content u.isLexeme first
        obtain rfl := List.append_cancel_left ahead
        exact ⟨longest, (ih more).mp behind⟩
      · rintro ⟨given, apart⟩
        obtain ⟨rfl, rfl, rfl⟩ := given.unique longest
        obtain rfl := List.append_cancel_left ahead
        exact ⟨rfl, (ih more).mpr apart⟩

/-- **Lexemes come back as they were written down** exactly if no two of them merge. -/
theorem stream_layout_iff (filename : String) (pieces : List Piece) (tail : Blanks) :
    (stream filename (String.ofList (layout tail pieces))).map (fun t => (t.kind, t.text)) =
      pieces.map (fun p => (p.kind, String.ofList p.value)) ++ [(.eof, "")] ↔
      pieces.IsChain Piece.Apart := by
  have munches := munches_stream filename (String.ofList (layout tail pieces))
  rw [String.toList_ofList] at munches
  exact munches.layout_iff

end AssignLang.Lexical
