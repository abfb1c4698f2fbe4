import AssignLang.Proofs.Lexical.Longest
import AssignLang.Text.Numeral

/-! Where one piece of a text ends and the next one begins. Two texts that are equal as a whole are
equal piece by piece if the first piece of each goes just as far as its characters are of one sort
(`append_inj_of_stop`). Numerals are such pieces, and a numeral tells its number (`toDigits_inj`); so a
position is told by its text, from the left (`text_append_inj`) and from the right (`append_text_inj`). -/
namespace AssignLang.Text
set_option autoImplicit false

/-! ## Pieces -/

section Pieces
variable {u v s t : List Char}

theorem append_inj_of_stop {p : Char → Bool} (left : ∀ c ∈ u, p c = true)
    (right : ∀ c ∈ v, p c = true) (stop : ∀ c ∈ s.head?, p c = false)
    (stop' : ∀ c ∈ t.head?, p c = false) (same : u ++ s = v ++ t) : u = v ∧ s = t := by
  obtain ⟨taken, dropped⟩ := Lexical.takeWhile_append_of_stop left stop
  obtain ⟨taken', dropped'⟩ := Lexical.takeWhile_append_of_stop right stop'
  rw [same] at taken dropped
  exact ⟨taken.symm.trans taken', dropped.symm.trans dropped'⟩

/-- Both texts are split at the first `c` in them. -/
theorem append_cons_inj {c : Char} (left : c ∉ u) (right : c ∉ v)
    (same : u ++ c :: s = v ++ c :: t) : u = v ∧ s = t := by
  have other {w : List Char} (missing : c ∉ w) : ∀ d ∈ w, decide (d ≠ c) = true := by
    intro d mem
    exact decide_eq_true fun equal => missing (equal ▸ mem)
  obtain ⟨pieces, behind⟩ :=
    append_inj_of_stop (other left) (other right) (by simp) (by simp) same
  exact ⟨pieces, List.tail_eq_of_cons_eq behind⟩

/-- Both texts are split at the last `c` in them. -/
theorem append_cons_inj' {c : Char} (left : c ∉ s) (right : c ∉ t)
    (same : u ++ c :: s = v ++ c :: t) : u = v ∧ s = t := by
  have back : s.reverse ++ c :: u.reverse = t.reverse ++ c :: v.reverse := by
    simpa using congrArg List.reverse same
  obtain ⟨behind, before⟩ := append_cons_inj (by simpa using left) (by simpa using right) back
  exact ⟨List.reverse_inj.mp before, List.reverse_inj.mp behind⟩

/-- Two words of which none begins with the other are told apart whatever comes behind them. -/
theorem append_ne_of_apart (apart : ¬ u <+: v ∧ ¬ v <+: u) : u ++ s ≠ v ++ t := by
  intro same
  have first : u <+: v ++ t := ⟨s, same⟩
  rcases List.prefix_or_prefix_of_prefix first ⟨t, rfl⟩ with within | within
  · exact apart.1 within
  · exact apart.2 within

end Pieces

/-! ## Numerals -/

theorem exists_digitChar_of_mem_toDigits {b n : Nat} (base : 1 < b) {c : Char}
    (mem : c ∈ Nat.toDigits b n) : ∃ d < b, c = d.digitChar := by
  induction n using Nat.strongRecOn with
  | ind n ih =>
    rw [Nat.toDigits_eq_if base] at mem
    split at mem
    next small => exact ⟨n, small, List.mem_singleton.mp mem⟩
    next large =>
      rcases List.mem_append.mp mem with high | low
      · exact ih (n / b) (Nat.div_lt_self (by omega) base) high
      · exact ⟨n % b, Nat.mod_lt n (by omega), List.mem_singleton.mp low⟩

theorem digitChar_inj : ∀ d < 16, ∀ e < 16, Nat.digitChar d = Nat.digitChar e → d = e := by decide

theorem toDigits_inj {b : Nat} (base : 1 < b) (hex : b ≤ 16) {m n : Nat}
    (same : Nat.toDigits b m = Nat.toDigits b n) : m = n := by
  have digit {d e : Nat} (below : d < b) (below' : e < b) (same : d.digitChar = e.digitChar) :
      d = e := digitChar_inj d (by omega) e (by omega) same
  induction m using Nat.strongRecOn generalizing n with
  | ind m ih =>
    rw [Nat.toDigits_eq_if (n := m) base, Nat.toDigits_eq_if (n := n) base] at same
    split at same <;> split at same
    next small small' => exact digit small small' (List.singleton_inj.mp same)
    next => simpa using congrArg List.length same
    next => simpa using congrArg List.length same
    next large large' =>
      obtain ⟨high, low⟩ := List.append_inj' same rfl
      have quotient := ih (m / b) (Nat.div_lt_self (by omega) base) high
      have remainder : m % b = n % b :=
        digit (Nat.mod_lt m (by omega)) (Nat.mod_lt n (by omega)) (List.singleton_inj.mp low)
      rw [← Nat.div_add_mod m b, ← Nat.div_add_mod n b, quotient, remainder]

theorem isDigit_of_mem_toDigits {n : Nat} : ∀ c ∈ Nat.toDigits 10 n, c.isDigit = true :=
  fun _ mem => Nat.isDigit_of_mem_toDigits (by decide) (by decide) mem

theorem toDigits_append_inj {m n : Nat} {s t : List Char}
    (stop : ∀ c ∈ s.head?, c.isDigit = false) (stop' : ∀ c ∈ t.head?, c.isDigit = false)
    (same : Nat.toDigits 10 m ++ s = Nat.toDigits 10 n ++ t) : m = n ∧ s = t := by
  obtain ⟨digits, behind⟩ :=
    append_inj_of_stop isDigit_of_mem_toDigits isDigit_of_mem_toDigits stop stop' same
  exact ⟨toDigits_inj (by decide) (by decide) digits, behind⟩

theorem Numeral.ofInt32_append_inj {v w : Int32} {s t : List Char}
    (stop : ∀ c ∈ s.head?, (c.isDigit || c = '-') = false)
    (stop' : ∀ c ∈ t.head?, (c.isDigit || c = '-') = false)
    (same : ofInt32 v ++ s = ofInt32 w ++ t) : v = w ∧ s = t := by
  have inside (v : Int32) : ∀ c ∈ ofInt32 v, (c.isDigit || c = '-') = true := by
    intro c mem
    rw [ofInt32] at mem
    split at mem
    next =>
      rcases List.mem_cons.mp mem with rfl | digit
      · decide
      · rw [isDigit_of_mem_toDigits c digit, Bool.true_or]
    next => rw [isDigit_of_mem_toDigits c mem, Bool.true_or]
  obtain ⟨numerals, behind⟩ := append_inj_of_stop (inside v) (inside w) stop stop' same
  have values := congrArg int32? numerals
  rw [int32?_ofInt32, int32?_ofInt32] at values
  exact ⟨Option.some.inj values, behind⟩

theorem not_mem_toDigits {c : Char} (other : c.isDigit = false) (n : Nat) :
    c ∉ Nat.toDigits 10 n := by
  intro mem
  rw [isDigit_of_mem_toDigits c mem] at other
  exact absurd other (by decide)

end AssignLang.Text

/-! ## Positions -/

namespace AssignLang.Position
open Text
set_option autoImplicit false

variable {p q : Position}

theorem toList_text (p : Position) :
    p.text.toList = Nat.toDigits 10 p.line ++ ':' :: Nat.toDigits 10 p.column := by
  simp [text, Nat.toList_repr]

theorem text_append_inj {s t : List Char} (stop : ∀ c ∈ s.head?, c.isDigit = false)
    (stop' : ∀ c ∈ t.head?, c.isDigit = false)
    (same : p.text.toList ++ s = q.text.toList ++ t) : p = q ∧ s = t := by
  simp only [toList_text, List.append_assoc, List.cons_append] at same
  obtain ⟨lines, behind⟩ :=
    append_cons_inj (not_mem_toDigits rfl _) (not_mem_toDigits rfl _) same
  obtain ⟨columns, rest⟩ := toDigits_append_inj stop stop' behind
  have line := toDigits_inj (by decide) (by decide) lines
  exact ⟨congr (congrArg Position.mk line) columns, rest⟩

/-- A position at the end of a text is told from the right. -/
theorem append_text_inj {u v : List Char}
    (same : u ++ ':' :: p.text.toList = v ++ ':' :: q.text.toList) : u = v ∧ p = q := by
  have split (w : List Char) (r : Position) : w ++ ':' :: r.text.toList =
      (w ++ ':' :: Nat.toDigits 10 r.line) ++ ':' :: Nat.toDigits 10 r.column := by
    simp [toList_text]
  rw [split, split] at same
  obtain ⟨same, columns⟩ :=
    append_cons_inj' (not_mem_toDigits rfl _) (not_mem_toDigits rfl _) same
  obtain ⟨before, lines⟩ :=
    append_cons_inj' (not_mem_toDigits rfl _) (not_mem_toDigits rfl _) same
  have line := toDigits_inj (by decide) (by decide) lines
  have column := toDigits_inj (by decide) (by decide) columns
  exact ⟨before, congr (congrArg Position.mk line) column⟩

end AssignLang.Position
