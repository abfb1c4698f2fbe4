import AssignLang.FrontEnd.Direct
import AssignLang.Proofs.Grammar.Program
import AssignLang.Proofs.Lexical.Layout
import AssignLang.Proofs.Text.Numeral

/-! The language that the front end accepts, in terms of characters alone. The three tokens of an
assignment come back from its text, and nothing behind them is scanned (`Statement.next_between`).
Main statement: a text has a program exactly if it begins with a name, an equals sign and a numeral
that is in range, with any blanks before each, and then the program assigns the value of the numeral
to the name (`parse_eq_ok_iff`). -/
namespace AssignLang
set_option autoImplicit false

/-! ## The shape of a text with a program -/

open Lexical

/-- The text begins with a name, an equals sign and digits, each after any blanks. What follows may
be anything that does not go on with the number. -/
def BeginsWithAssignment (text name digits : List Char) : Prop :=
  ∃ before gap lead rest,
    text = before ++ (name ++ (gap ++ '=' :: (lead ++ (digits ++ rest)))) ∧
    (∀ c ∈ before ++ gap ++ lead, isBlank c = true) ∧
    name ≠ [] ∧ (∀ c ∈ name, isLetter c = true) ∧
    name ≠ ['v', 'a', 'l'] ∧ name ≠ ['v', 'a', 'r'] ∧
    digits ≠ [] ∧ (∀ c ∈ digits, isDigit c = true) ∧
    ∀ c ∈ rest.head?, isDigit c = false ∧ c ≠ '.'

theorem isLetter_head_of_blanks {gap : List Char} (blanks : ∀ c ∈ gap, isBlank c = true)
    (tail : List Char) :
    ∀ c ∈ (gap ++ '=' :: tail).head?, isLetter c = false := by
  intro c first
  cases gap with
  | nil =>
    obtain rfl := Option.some.inj first
    rfl
  | cons d gap =>
    obtain rfl := Option.some.inj first
    cases letter : isLetter d with
    | false => rfl
    | true =>
      have blank := blanks d List.mem_cons_self
      rw [isBlank_eq_false_of_isLetter letter] at blank
      exact absurd blank (by simp)

theorem head_ne_equals {lead digits : List Char} (blanks : ∀ c ∈ lead, isBlank c = true)
    (nonempty : digits ≠ []) (all : ∀ c ∈ digits, isDigit c = true) (tail : List Char) :
    (lead ++ (digits ++ tail)).head? ≠ some '=' := by
  intro first
  cases lead with
  | nil =>
    obtain ⟨d, rest, rfl⟩ := List.exists_cons_of_ne_nil nonempty
    have digit := all d List.mem_cons_self
    rw [Option.some.inj first] at digit
    exact absurd digit (by decide)
  | cons d lead =>
    have blank := blanks d List.mem_cons_self
    rw [Option.some.inj first] at blank
    exact absurd blank (by decide)

/-! ## One assignment -/

/-- An assignment as it stands in a text, each part behind any blanks. -/
structure Statement where
  before : Blanks
  name : List Char
  gap : Blanks
  lead : Blanks
  digits : List Char
  named : name ≠ []
  letters : ∀ c ∈ name, isLetter c = true
  notVal : name ≠ ['v', 'a', 'l']
  notVar : name ≠ ['v', 'a', 'r']
  someDigit : digits ≠ []
  digitsOnly : ∀ c ∈ digits, isDigit c = true
  small : Nat.ofDigitChars 10 digits 0 ≤ 2147483647

namespace Statement

def text (u : Statement) : List Char :=
  u.before.val ++ (u.name ++ (u.gap.val ++ '=' :: (u.lead.val ++ u.digits)))

def value (u : Statement) : Int32 :=
  Int32.ofInt (Nat.ofDigitChars 10 u.digits 0)

def program (u : Statement) : Program :=
  ⟨[.assignment (String.ofList u.name) (.integer u.value)]⟩

/-- The tokens of an assignment whose text begins at `place`. -/
def tokens (u : Statement) (place : Position) : List Token :=
  let target := place.after u.before.val
  let sign := (target.after u.name).after u.gap.val
  let number := (sign.after ['=']).after u.lead.val
  [⟨.identifier, String.ofList u.name, target⟩, ⟨.assign, "=", sign⟩,
    ⟨.number, String.ofList u.digits, number⟩]

theorem text_append (u : Statement) (rest : List Char) :
    u.text ++ rest =
      u.before.val ++ (u.name ++ (u.gap.val ++ '=' :: (u.lead.val ++ (u.digits ++ rest)))) := by
  simp [text]

theorem toInt_value (u : Statement) : u.value.toInt = Nat.ofDigitChars 10 u.digits 0 := by
  have small := u.small
  refine Int32.toInt_ofInt_of_le ?_ ?_
  · omega
  · omega

theorem int32?_digits (u : Statement) : Text.Numeral.int32? u.digits = some u.value := by
  have exact := u.toInt_value
  obtain ⟨c, rest, split⟩ := List.exists_cons_of_ne_nil u.someDigit
  have digit := u.digitsOnly c (by simp [split])
  rw [split] at exact ⊢
  refine (Text.Numeral.int32?_eq_some_iff digit).mpr ⟨?_, ?_, exact⟩
  · exact split ▸ u.digitsOnly
  · exact split ▸ u.small

section Next
variable (u : Statement) {rest : List Char} (stop : ∀ c ∈ rest.head?, isDigit c = false ∧ c ≠ '.')
  (filename : String) (anchor place : Position)
include stop

/-- Its tokens come back, and no character behind them is taken. -/
theorem next_between : ∃ target s₁ sign s₂ number last, u.tokens place = [target, sign, number] ∧
    (Scanner.between filename anchor place (u.text ++ rest)).next = (some target, s₁) ∧
    s₁.next = (some sign, s₂) ∧
    s₂.next = (some number, Scanner.between filename last (place.after u.text) rest) := by
  have longestName := isLongest_word_append u.named u.letters
    (isLetter_head_of_blanks u.gap.property (u.lead.val ++ (u.digits ++ rest)))
  have longestSign :=
    isLongest_equals (head_ne_equals u.lead.property u.someDigit u.digitsOnly rest)
  have longestDigits := isLongest_digits_append u.someDigit u.digitsOnly stop
  have word : wordKind u.name = .identifier := by
    simp [wordKind, isKeyword, u.notVal, u.notVar]
  rw [word] at longestName
  have given₁ := Scanner.next_between_append filename anchor place u.before.property longestName
  have given₂ := Scanner.next_between_append filename (place.after u.before.val)
    ((place.after u.before.val).after u.name) u.gap.property longestSign
  have given₃ := Scanner.next_between_append filename
    (((place.after u.before.val).after u.name).after u.gap.val)
    ((((place.after u.before.val).after u.name).after u.gap.val).after ['=']) u.lead.property
    longestDigits
  have behind : place.after u.text = (((((place.after u.before.val).after u.name).after
      u.gap.val).after ['=']).after u.lead.val).after u.digits := by
    simp [text, Position.after_append]
  rw [text_append, behind]
  exact ⟨_, _, _, _, _, _, rfl, given₁, given₂, given₃⟩

theorem parse_between (reader : String) : ∃ last,
    (Scanner.between filename anchor place (u.text ++ rest)).parse reader =
      (.ok u.program, Scanner.between filename last (place.after u.text) rest) := by
  obtain ⟨target, s₁, sign, s₂, number, last, three, given₁, given₂, given₃⟩ :=
    u.next_between stop filename anchor place
  simp only [tokens, List.cons.injEq, and_true] at three
  obtain ⟨rfl, rfl, rfl⟩ := three
  have numeral : Text.Numeral.int32? (String.ofList u.digits).toList = some u.value := by
    rw [String.toList_ofList]
    exact u.int32?_digits
  exact ⟨last, (Grammar.run_program_eq_ok_iff _).mpr
    ⟨_, _, _, _, _, _, given₁, rfl, given₂, rfl, given₃, rfl, numeral, rfl⟩⟩

end Next

end Statement

/-! ## The program of a text -/

theorem parse_eq_ok_iff_run {filename text : String} {program : Program} :
    parse filename text = .ok program ↔
      ∃ s, (Grammar.program filename).run Scanner.next (Scanner.ofText filename text) =
        (.ok program, s) := by
  rw [parse, Scanner.parse]
  constructor
  · intro h
    cases answered : (Grammar.program filename).run Scanner.next (Scanner.ofText filename text) with
    | mk result s =>
      cases result with
      | error refused =>
        rw [answered] at h
        cases h
      | ok found =>
        rw [answered] at h
        exact ⟨s, by rw [Except.ok.inj h]⟩
  · rintro ⟨s, answered⟩
    rw [answered]
    rfl

theorem parse_of_beginsWithAssignment {text : String} {name digits : List Char} {value : Int32}
    (shape : BeginsWithAssignment text.toList name digits)
    (numeral : Text.Numeral.int32? digits = some value) (filename : String) :
    parse filename text = .ok ⟨[.assignment (String.ofList name) (.integer value)]⟩ := by
  obtain ⟨before, gap, lead, rest, split, blanks, nonempty, letters, notVal, notVar, someDigit,
    digitsOnly, stop⟩ := shape
  simp only [List.forall_mem_append] at blanks
  obtain ⟨⟨blanksBefore, blanksGap⟩, blanksLead⟩ := blanks
  have small : Nat.ofDigitChars 10 digits 0 ≤ 2147483647 := by
    obtain ⟨c, more, rfl⟩ := List.exists_cons_of_ne_nil someDigit
    exact ((Text.Numeral.int32?_eq_some_iff (digitsOnly c List.mem_cons_self)).mp numeral).2.1
  let u : Statement := ⟨⟨before, blanksBefore⟩, name, ⟨gap, blanksGap⟩, ⟨lead, blanksLead⟩, digits,
    nonempty, letters, notVal, notVar, someDigit, digitsOnly, small⟩
  have same : u.value = value := Option.some.inj (u.int32?_digits.symm.trans numeral)
  have whole : text.toList = u.text ++ rest := by
    rw [split, u.text_append]
  obtain ⟨last, answered⟩ := u.parse_between stop filename .start .start filename
  rw [← whole, ← Scanner.ofText_eq_between, Statement.program, same] at answered
  exact parse_eq_ok_iff_run.mpr ⟨_, answered⟩

theorem beginsWithAssignment_of_parse {filename text : String} {program : Program}
    (h : parse filename text = .ok program) :
    ∃ name digits value, BeginsWithAssignment text.toList name digits ∧
      Text.Numeral.int32? digits = some value ∧
      program = ⟨[.assignment (String.ofList name) (.integer value)]⟩ := by
  obtain ⟨s, answered⟩ := parse_eq_ok_iff_run.mp h
  rw [Scanner.ofText_eq_between] at answered
  obtain ⟨target, s₁, sign, s₂, number, value, given₁, identifier, given₂, assign, given₃,
    isNumber, numeral, rfl⟩ := (Grammar.run_program_eq_ok_iff _).mp answered
  obtain ⟨_, rest₁, name, split₁, longest₁, text₁, rfl⟩ :=
    Scanner.exists_isLongest_of_next _ _ _ given₁ (by simp [identifier]) (by simp [identifier])
  obtain ⟨w, rest₂, _, split₂, longest₂, -, rfl⟩ :=
    Scanner.exists_isLongest_of_next _ _ _ given₂ (by simp [assign]) (by simp [assign])
  obtain ⟨_, rest₃, digits, split₃, longest₃, text₃, rfl⟩ :=
    Scanner.exists_isLongest_of_next _ _ _ given₃ (by simp [isNumber]) (by simp [isNumber])
  obtain ⟨rfl, nonempty, letters, notVal, notVar⟩ := (identifier ▸ longest₁.isLexeme).of_identifier
  obtain rfl := (assign ▸ longest₂.isLexeme).of_assign
  obtain ⟨rfl, c, tail, rfl, digit⟩ := (isNumber ▸ longest₃.isLexeme).of_number
  rw [text₃, String.toList_ofList] at numeral
  have digitsOnly := ((Text.Numeral.int32?_eq_some_iff digit).mp numeral).1
  refine ⟨name, c :: tail, value, ?_, numeral, by rw [text₁]⟩
  refine ⟨text.toList.takeWhile isBlank, rest₁.takeWhile isBlank, rest₂.takeWhile isBlank, rest₃,
    ?_, ?_, nonempty, letters, notVal, notVar, by simp, digitsOnly,
    longest₃.stop_of_digits (by simp) digitsOnly⟩
  · rw [← split₃, List.takeWhile_append_dropWhile, ← List.singleton_append, ← split₂,
      List.takeWhile_append_dropWhile, ← split₁, List.takeWhile_append_dropWhile]
  · simp only [List.forall_mem_append]
    exact ⟨⟨mem_takeWhile, mem_takeWhile⟩, mem_takeWhile⟩

/-- **The accepted texts and their programs.** -/
theorem parse_eq_ok_iff (filename text : String) (program : Program) :
    parse filename text = .ok program ↔
      ∃ name digits value, BeginsWithAssignment text.toList name digits ∧
        Nat.ofDigitChars 10 digits 0 ≤ 2147483647 ∧
        Int32.toInt value = Nat.ofDigitChars 10 digits 0 ∧
        program = ⟨[.assignment (String.ofList name) (.integer value)]⟩ := by
  constructor
  · intro h
    obtain ⟨name, digits, value, shape, numeral, rfl⟩ := beginsWithAssignment_of_parse h
    have ⟨_, _, _, _, _, _, _, _, _, _, someDigit, all, _⟩ := shape
    obtain ⟨c, rest, rfl⟩ := List.exists_cons_of_ne_nil someDigit
    obtain ⟨-, small, exact⟩ :=
      (Text.Numeral.int32?_eq_some_iff (all c List.mem_cons_self)).mp numeral
    exact ⟨name, c :: rest, value, shape, small, exact, rfl⟩
  · rintro ⟨name, digits, value, shape, small, exact, rfl⟩
    have ⟨_, _, _, _, _, _, _, _, _, _, someDigit, all, _⟩ := shape
    obtain ⟨c, rest, rfl⟩ := List.exists_cons_of_ne_nil someDigit
    have digit := all c List.mem_cons_self
    exact parse_of_beginsWithAssignment shape
      ((Text.Numeral.int32?_eq_some_iff digit).mpr ⟨all, small, exact⟩) filename

end AssignLang
