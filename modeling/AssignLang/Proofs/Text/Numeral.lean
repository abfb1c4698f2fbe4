import AssignLang.Text.Numeral

/-! Which texts are numerals, and of which value. A numeral is digits behind one sign or none. Main
statement: a text is read as a 32-bit integer exactly if it is a numeral of that value
(`int32?_eq_some_iff_denotes`). -/
namespace AssignLang.Text.Numeral
set_option autoImplicit false

/-- `Denotes text value`: the text is a numeral, of any length and with any zeros in front, and this
is its value. -/
inductive Denotes : List Char → Int → Prop
  | bare {digits : List Char} (nonempty : digits ≠ []) (all : ∀ c ∈ digits, c.isDigit = true) :
      Denotes digits (Nat.ofDigitChars 10 digits 0)
  | plus {digits : List Char} (nonempty : digits ≠ []) (all : ∀ c ∈ digits, c.isDigit = true) :
      Denotes ('+' :: digits) (Nat.ofDigitChars 10 digits 0)
  | minus {digits : List Char} (nonempty : digits ≠ []) (all : ∀ c ∈ digits, c.isDigit = true) :
      Denotes ('-' :: digits) (-(Nat.ofDigitChars 10 digits 0 : Int))

theorem natural?_eq_some_iff {digits : List Char} {n : Nat} :
    natural? digits = some n ↔
      digits ≠ [] ∧ (∀ c ∈ digits, c.isDigit = true) ∧ n = Nat.ofDigitChars 10 digits 0 := by
  unfold natural?
  split
  next empty =>
    refine iff_of_false (by simp) fun h => h.1 ?_
    exact List.isEmpty_iff.mp empty
  next some =>
    have nonempty : digits ≠ [] := by simpa using some
    by_cases all : digits.all Char.isDigit = true
    · rw [if_pos all, Option.some.injEq]
      exact ⟨fun h => ⟨nonempty, List.all_eq_true.mp all, h.symm⟩, fun h => h.2.2.symm⟩
    · rw [if_neg all]
      exact iff_of_false (by simp) fun h => all (List.all_eq_true.mpr h.2.1)

/-- A sign is no digit, so digits alone are read as they stand. -/
theorem integer?_of_digits {digits : List Char} (all : ∀ c ∈ digits, c.isDigit = true) :
    integer? digits = (natural? digits).map Int.ofNat := by
  unfold integer?
  split
  · exact absurd (all '-' List.mem_cons_self) (by decide)
  · exact absurd (all '+' List.mem_cons_self) (by decide)
  · rfl

theorem integer?_minus (digits : List Char) :
    integer? ('-' :: digits) = (natural? digits).map fun n => -(Int.ofNat n) := by
  rw [integer?]
  cases natural? digits with
  | none => rfl
  | some n => rfl

theorem integer?_eq_some_iff {text : List Char} {v : Int} :
    integer? text = some v ↔ Denotes text v := by
  constructor
  · intro h
    fun_cases integer? text with
    | case1 digits =>
      rw [integer?_minus] at h
      obtain ⟨n, natural, rfl⟩ := Option.map_eq_some_iff.mp h
      obtain ⟨nonempty, all, rfl⟩ := natural?_eq_some_iff.mp natural
      exact .minus nonempty all
    | case2 digits =>
      obtain ⟨n, natural, rfl⟩ := Option.map_eq_some_iff.mp h
      obtain ⟨nonempty, all, rfl⟩ := natural?_eq_some_iff.mp natural
      exact .plus nonempty all
    | case3 digits minus plus =>
      rw [integer?.eq_3 _ minus plus] at h
      obtain ⟨n, natural, rfl⟩ := Option.map_eq_some_iff.mp h
      obtain ⟨nonempty, all, rfl⟩ := natural?_eq_some_iff.mp natural
      exact .bare nonempty all
  · rintro (⟨nonempty, all⟩ | ⟨nonempty, all⟩ | ⟨nonempty, all⟩)
    · rw [integer?_of_digits all, natural?_eq_some_iff.mpr ⟨nonempty, all, rfl⟩]
      rfl
    · rw [integer?, natural?_eq_some_iff.mpr ⟨nonempty, all, rfl⟩]
      rfl
    · rw [integer?_minus, natural?_eq_some_iff.mpr ⟨nonempty, all, rfl⟩]
      rfl

theorem narrow?_eq_some_iff {i : Int} {v : Int32} : narrow? i = some v ↔ v.toInt = i := by
  constructor
  · intro h
    unfold narrow? at h
    split at h
    next range =>
      obtain rfl := Option.some.inj h
      exact Int32.toInt_ofInt_of_le range.1 (Int.lt_of_le_of_lt range.2 (by decide))
    next => exact absurd h (by simp)
  · rintro rfl
    exact narrow?_toInt v

theorem int32?_eq_some_iff_denotes {text : List Char} {v : Int32} :
    int32? text = some v ↔ Denotes text v.toInt := by
  rw [int32?, Option.bind_eq_some_iff]
  constructor
  · rintro ⟨i, value, narrow⟩
    rw [narrow?_eq_some_iff.mp narrow]
    exact integer?_eq_some_iff.mp value
  · intro denotes
    exact ⟨v.toInt, integer?_eq_some_iff.mpr denotes, narrow?_toInt v⟩

/-- A text is read unless it is no numeral or its value is out of range. -/
theorem int32?_eq_none_iff {text : List Char} :
    int32? text = none ↔ ∀ i, Denotes text i → i < -2147483648 ∨ 2147483647 < i := by
  have least : Int32.minValue.toInt = -2147483648 := by decide
  have greatest : Int32.maxValue.toInt = 2147483647 := by decide
  constructor
  · intro none i denotes
    rw [int32?, integer?_eq_some_iff.mpr denotes, Option.bind_some, narrow?, least, greatest] at none
    split at none
    next => exact absurd none (by simp)
    next range => omega
  · intro out
    rw [Option.eq_none_iff_forall_ne_some]
    intro v value
    have range := out _ (int32?_eq_some_iff_denotes.mp value)
    have lower := Int32.minValue_le_toInt v
    have upper := Int32.toInt_le v
    omega

/-- A numeral that begins with a digit has no sign, so it is made of digits throughout. -/
theorem int32?_eq_some_iff {c : Char} {rest : List Char} {v : Int32} (digit : c.isDigit = true) :
    int32? (c :: rest) = some v ↔
      (∀ x ∈ c :: rest, x.isDigit = true) ∧ Nat.ofDigitChars 10 (c :: rest) 0 ≤ 2147483647 ∧
        v.toInt = Nat.ofDigitChars 10 (c :: rest) 0 := by
  rw [int32?_eq_some_iff_denotes]
  constructor
  · intro denotes
    have upper : v.toInt ≤ 2147483647 := Int32.toInt_le v
    generalize value : v.toInt = i at denotes upper
    cases denotes with
    | bare nonempty all => exact ⟨all, by omega, rfl⟩
    | plus | minus => exact absurd digit (by decide)
  · rintro ⟨all, -, value⟩
    rw [value]
    exact .bare (by simp) all

end AssignLang.Text.Numeral
