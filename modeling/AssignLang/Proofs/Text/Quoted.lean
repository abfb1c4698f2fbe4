import AssignLang.Proofs.Text.Splitting
import AssignLang.Text.Quoted

/-! Quoted text read from the left. What a character is written as tells the character and where it
ends (`encodeChar_append_inj`), and none is written with the mark in front, so a quoted text tells the
text and its own end (`enclose_append_inj`). It has no line break in it (`newline_not_mem_enclose`). -/
namespace AssignLang.Text.Quoted
set_option autoImplicit false

/-! ## One character -/

/-- The marks of a string and of a character. -/
def IsMark (mark : Char) : Prop :=
  mark = '"' ∨ mark = '\''

/-- The character that is written as this one behind a backslash. -/
def unescape : Char → Char
  | '0' => '\x00'
  | 't' => '\t'
  | 'n' => '\n'
  | 'r' => '\r'
  | c => c

/-- The three ways to write a character. -/
theorem encodeChar_cases {mark : Char} (isMark : IsMark mark) (c : Char) :
    (encodeChar mark c = [c] ∧ c ≠ mark ∧ c ≠ '\\' ∧ c ≠ '\n') ∨
      (∃ d, encodeChar mark c = ['\\', d] ∧ d ≠ 'u' ∧ d ≠ '\n' ∧ unescape d = c) ∨
      encodeChar mark c = codePoint c := by
  unfold encodeChar
  split
  next null => exact .inr (.inl ⟨'0', rfl, by decide, by decide, null.symm⟩)
  split
  next tab => exact .inr (.inl ⟨'t', rfl, by decide, by decide, tab.symm⟩)
  split
  next newline => exact .inr (.inl ⟨'n', rfl, by decide, by decide, newline.symm⟩)
  split
  next carriage => exact .inr (.inl ⟨'r', rfl, by decide, by decide, carriage.symm⟩)
  split
  next own =>
    refine .inr (.inl ⟨c, rfl, ?_⟩)
    rcases own with rfl | rfl
    · rcases isMark with rfl | rfl <;> decide
    · decide
  next newline _ other =>
    split
    · exact .inr (.inr rfl)
    · exact .inl ⟨rfl, fun mark => other (.inl mark), fun backslash => other (.inr backslash), newline⟩

theorem brace_not_mem_toDigits (n : Nat) : '\x7d' ∉ Nat.toDigits 16 n := by
  intro mem
  obtain ⟨d, below, digit⟩ := exists_digitChar_of_mem_toDigits (by decide) mem
  exact (by decide : ∀ d < 16, '\x7d' ≠ Nat.digitChar d) d below digit

theorem codePoint_append_inj {c d : Char} {s t : List Char}
    (same : codePoint c ++ s = codePoint d ++ t) : c = d ∧ s = t := by
  simp only [codePoint, List.cons_append, List.append_assoc, List.nil_append, List.cons.injEq,
    true_and] at same
  obtain ⟨digits, behind⟩ :=
    append_cons_inj (brace_not_mem_toDigits _) (brace_not_mem_toDigits _) same
  exact ⟨Char.toNat_inj.mp (toDigits_inj (by decide) (Nat.le_refl _) digits), behind⟩

section Mark
variable {mark : Char} (isMark : IsMark mark)
include isMark

theorem encodeChar_append_inj {c d : Char} {s t : List Char}
    (same : encodeChar mark c ++ s = encodeChar mark d ++ t) : c = d ∧ s = t := by
  rcases encodeChar_cases isMark c with ⟨plain, -, visible, -⟩ | ⟨x, pair, notPoint, -, rfl⟩ | point <;>
    rcases encodeChar_cases isMark d with
      ⟨plain', -, visible', -⟩ | ⟨y, pair', notPoint', -, rfl⟩ | point'
  · simpa [plain, plain'] using same
  · simp [plain, pair', visible] at same
  · simp [plain, point', codePoint, visible] at same
  · simp [pair, plain', Ne.symm visible'] at same
  · simp only [pair, pair', List.cons_append, List.nil_append, List.cons.injEq, true_and] at same
    exact ⟨congrArg unescape same.1, same.2⟩
  · simp [pair, point', codePoint, notPoint] at same
  · simp [point, plain', codePoint, Ne.symm visible'] at same
  · simp [point, pair', codePoint, Ne.symm notPoint'] at same
  · rw [point, point'] at same
    exact codePoint_append_inj same

theorem encodeChar_append_ne (c : Char) (s t : List Char) : encodeChar mark c ++ s ≠ mark :: t := by
  have other : '\\' ≠ mark := by rcases isMark with rfl | rfl <;> decide
  rcases encodeChar_cases isMark c with ⟨plain, apart, -⟩ | ⟨d, pair, -⟩ | point
  · simp [plain, apart]
  · simp [pair, other]
  · simp [point, codePoint, other]

theorem newline_not_mem_encodeChar (c : Char) : '\n' ∉ encodeChar mark c := by
  rcases encodeChar_cases isMark c with ⟨plain, -, -, other⟩ | ⟨d, pair, -, other, -⟩ | point
  · simp [plain, Ne.symm other]
  · simp [pair, Ne.symm other]
  · have digits : '\n' ∉ Nat.toDigits 16 c.toNat := by
      intro mem
      obtain ⟨d, below, digit⟩ := exists_digitChar_of_mem_toDigits (by decide) mem
      exact (by decide : ∀ d < 16, '\n' ≠ Nat.digitChar d) d below digit
    simp [point, codePoint, digits]

/-! ## A whole text -/

theorem encode_append_inj {text text' s t : List Char}
    (same : encode mark text ++ mark :: s = encode mark text' ++ mark :: t) :
    text = text' ∧ s = t := by
  induction text generalizing text' with
  | nil =>
    cases text' with
    | nil => exact ⟨rfl, List.tail_eq_of_cons_eq same⟩
    | cons d text' =>
      rw [encode_cons, List.append_assoc] at same
      exact absurd same.symm (encodeChar_append_ne isMark d _ _)
  | cons c text ih =>
    rw [encode_cons, List.append_assoc] at same
    cases text' with
    | nil => exact absurd same (encodeChar_append_ne isMark c _ _)
    | cons d text' =>
      rw [encode_cons, List.append_assoc] at same
      obtain ⟨rfl, rest⟩ := encodeChar_append_inj isMark same
      obtain ⟨rfl, behind⟩ := ih rest
      exact ⟨rfl, behind⟩

/-- **A quoted text is told by what is written**, and so is what comes behind it. -/
theorem enclose_append_inj {text text' s t : List Char}
    (same : enclose mark text ++ s = enclose mark text' ++ t) : text = text' ∧ s = t := by
  simp only [enclose, List.cons_append, List.append_assoc, List.nil_append, List.cons.injEq,
    true_and] at same
  exact encode_append_inj isMark same

theorem newline_not_mem_enclose (text : List Char) : '\n' ∉ enclose mark text := by
  have other : '\n' ≠ mark := by rcases isMark with rfl | rfl <;> decide
  have inside : '\n' ∉ encode mark text := by
    intro mem
    obtain ⟨c, -, mem⟩ := List.mem_flatMap.mp mem
    exact newline_not_mem_encodeChar isMark c mem
  simp [enclose, other, inside]

end Mark

/-! ## Strings and characters -/

theorem toList_string (s : String) : (string s).toList = enclose '"' s.toList :=
  String.toList_ofList

theorem string_append_inj {a b : String} {s t : List Char}
    (same : (string a).toList ++ s = (string b).toList ++ t) : a = b ∧ s = t := by
  rw [toList_string, toList_string] at same
  obtain ⟨text, behind⟩ := enclose_append_inj (.inl rfl) same
  exact ⟨String.toList_inj.mp text, behind⟩

theorem newline_not_mem_string (s : String) : '\n' ∉ (string s).toList := by
  rw [toList_string]
  exact newline_not_mem_enclose (.inl rfl) s.toList

theorem char_inj {c d : Char} (same : char c = char d) : c = d := by
  have written : enclose '\'' [c] ++ [] = enclose '\'' [d] ++ [] :=
    congrArg (· ++ []) (String.ofList_inj.mp same)
  exact List.singleton_inj.mp (enclose_append_inj (.inr rfl) written).1

end AssignLang.Text.Quoted
