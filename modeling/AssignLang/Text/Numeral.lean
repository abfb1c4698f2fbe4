/-! Decimal numerals of 32-bit integers. Reading takes one optional sign and any number of digits,
leading zeros among them, and refuses a value out of range; writing gives the digits without leading
zeros behind a minus sign where there is one. Main statement: what is written reads back. -/
namespace AssignLang.Text.Numeral
set_option autoImplicit false

/-! ## Reading -/

def natural? (digits : List Char) : Option Nat :=
  if digits.isEmpty then none
  else if digits.all Char.isDigit then some (Nat.ofDigitChars 10 digits 0)
  else none

def integer? : List Char → Option Int
  | '-' :: digits => (natural? digits).map fun n => -(n : Int)
  | '+' :: digits => (natural? digits).map Int.ofNat
  | digits => (natural? digits).map Int.ofNat

def narrow? (v : Int) : Option Int32 :=
  if Int32.minValue.toInt ≤ v ∧ v ≤ Int32.maxValue.toInt then some (Int32.ofInt v) else none

def int32? (text : List Char) : Option Int32 :=
  (integer? text).bind narrow?

/-! ## Writing -/

def ofInt32 (v : Int32) : List Char :=
  if v.toInt < 0 then '-' :: Nat.toDigits 10 v.toInt.natAbs
  else Nat.toDigits 10 v.toInt.natAbs

/-! ## What is written reads back -/

theorem natural?_toDigits (n : Nat) : natural? (Nat.toDigits 10 n) = some n := by
  have nonempty : (Nat.toDigits 10 n).isEmpty = false := by
    cases h : Nat.toDigits 10 n with
    | nil => exact absurd h Nat.toDigits_ne_nil
    | cons c cs => rfl
  have digits : (Nat.toDigits 10 n).all Char.isDigit = true :=
    List.all_eq_true.mpr fun c hc => Nat.isDigit_of_mem_toDigits (by decide) (by decide) hc
  rw [natural?, nonempty, digits, Nat.ofDigitChars_toDigits (by decide) (by decide)]
  rfl

theorem narrow?_toInt (v : Int32) : narrow? v.toInt = some v := by
  have range : Int32.minValue.toInt ≤ v.toInt ∧ v.toInt ≤ Int32.maxValue.toInt :=
    ⟨Int32.minValue_le_toInt v, Int32.toInt_le v⟩
  rw [narrow?, if_pos range, Int32.ofInt_toInt]

theorem integer?_toDigits (n : Nat) : integer? (Nat.toDigits 10 n) = some (n : Int) := by
  have first : ∀ c ∈ Nat.toDigits 10 n, c.isDigit = true := fun c hc =>
    Nat.isDigit_of_mem_toDigits (by decide) (by decide) hc
  have value := natural?_toDigits n
  cases h : Nat.toDigits 10 n with
  | nil => exact absurd h Nat.toDigits_ne_nil
  | cons c cs =>
    rw [h] at first value
    have digit := first c List.mem_cons_self
    have minus : c ≠ '-' := by rintro rfl; exact absurd digit (by decide)
    have plus : c ≠ '+' := by rintro rfl; exact absurd digit (by decide)
    rw [integer?.eq_3 _ (by simpa using minus) (by simpa using plus), value]
    rfl

theorem int32?_ofInt32 (v : Int32) : int32? (ofInt32 v) = some v := by
  have value : integer? (ofInt32 v) = some v.toInt := by
    rw [ofInt32]
    split
    next negative =>
      rw [integer?, natural?_toDigits]
      exact congrArg some (show -(v.toInt.natAbs : Int) = v.toInt by omega)
    next positive =>
      rw [integer?_toDigits]
      exact congrArg some (by omega)
  rw [int32?, value, Option.bind_some, narrow?_toInt]

end AssignLang.Text.Numeral
