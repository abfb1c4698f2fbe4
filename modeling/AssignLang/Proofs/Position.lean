import AssignLang.Position
import Mathlib.Data.List.Count
import Mathlib.Data.List.Induction

/-! Positions against offsets. The position that is kept up to date character by character is the one
that a count of line breaks gives (`start_after`), it moves down with the place where the text begins
(`down_after`), and it grows with every character (`before_after`), so it tells the offset
(`eq_of_ofOffset_eq`). -/
namespace AssignLang.Position
set_option autoImplicit false

/-- The line and the column of the character at an offset: one more than the line breaks before it,
and one more than the characters between the last of those and it. -/
def ofOffset (text : List Char) (offset : Nat) : Position where
  line := 1 + (text.take offset).count '\n'
  column := 1 + ((text.take offset).reverse.takeWhile (· ≠ '\n')).length

theorem after_concat (p : Position) (text : List Char) (c : Char) :
    p.after (text ++ [c]) = (p.after text).next c := by
  rw [after_append]
  rfl

theorem start_after (text : List Char) :
    start.after text =
      ⟨1 + text.count '\n', 1 + (text.reverse.takeWhile (· ≠ '\n')).length⟩ := by
  induction text using List.reverseRecOn with
  | nil => rfl
  | append_singleton text c ih =>
    rw [after_concat, ih, next, List.reverse_append, List.count_append]
    by_cases newline : c = '\n'
    · subst newline
      simp [Nat.add_assoc]
    · simp [newline, Nat.add_comm]

theorem ofOffset_eq (text : List Char) (offset : Nat) :
    ofOffset text offset = start.after (text.take offset) :=
  (start_after _).symm

/-- Each character adds to the line or to the column, and only one. -/
theorem start_after_le (text : List Char) :
    1 ≤ (start.after text).line ∧ 1 ≤ (start.after text).column ∧
      (start.after text).line + (start.after text).column ≤ text.length + 2 := by
  induction text using List.reverseRecOn with
  | nil => decide
  | append_singleton text c ih =>
    rw [after_concat, next, List.length_append, List.length_singleton]
    split
    all_goals
      dsimp only
      omega

/-! ## Positions further down -/

/-- The same column, so many lines further down. -/
def down (p : Position) (lines : Nat) : Position where
  line := p.line + lines
  column := p.column

theorem down_next (p : Position) (lines : Nat) (c : Char) :
    (p.down lines).next c = (p.next c).down lines := by
  unfold next
  split
  · simp only [down, Nat.add_right_comm]
  · rfl

theorem down_after (p : Position) (lines : Nat) (text : List Char) :
    (p.down lines).after text = (p.after text).down lines := by
  induction text generalizing p with
  | nil => rfl
  | cons c rest ih => rw [after_cons, after_cons, down_next, ih]

/-- Behind a line break all begins anew but for the line. -/
theorem start_after_newline (text : List Char) :
    start.after (text ++ ['\n']) = start.down (text.count '\n' + 1) := by
  rw [after_concat, start_after]
  simp [next, down, start, Nat.add_assoc]

/-! ## The order of positions -/

/-- On a line above, or further to the left on the same line. -/
def Before (p q : Position) : Prop :=
  p.line < q.line ∨ (p.line = q.line ∧ p.column < q.column)

theorem Before.trans {p q r : Position} (h : p.Before q) (h' : q.Before r) : p.Before r := by
  unfold Before at *
  omega

theorem Before.irrefl (p : Position) : ¬ p.Before p := by
  unfold Before
  omega

theorem before_next (p : Position) (c : Char) : p.Before (p.next c) := by
  unfold Before next
  split
  · exact .inl (Nat.lt_succ_self _)
  · exact .inr ⟨rfl, Nat.lt_succ_self _⟩

theorem before_after (p : Position) {text : List Char} (nonempty : text ≠ []) :
    p.Before (p.after text) := by
  induction text generalizing p with
  | nil => exact absurd rfl nonempty
  | cons c rest ih =>
    have first := p.before_next c
    by_cases more : rest = []
    · rwa [more]
    · exact first.trans (ih _ more)

theorem before_ofOffset {text : List Char} {m n : Nat} (less : m < n) (within : n ≤ text.length) :
    (ofOffset text m).Before (ofOffset text n) := by
  have split : text.take n = text.take m ++ (text.drop m).take (n - m) := by
    rw [← List.take_add, Nat.add_sub_cancel' (Nat.le_of_lt less)]
  have nonempty : (text.drop m).take (n - m) ≠ [] := by
    rw [ne_eq, List.take_eq_nil_iff, List.drop_eq_nil_iff]
    omega
  rw [ofOffset_eq, ofOffset_eq, split, after_append]
  exact before_after _ nonempty

theorem eq_of_ofOffset_eq {text : List Char} {m n : Nat} (same : ofOffset text m = ofOffset text n)
    (left : m ≤ text.length) (right : n ≤ text.length) : m = n := by
  rcases Nat.lt_trichotomy m n with less | equal | greater
  · have before := before_ofOffset less right
    rw [same] at before
    exact absurd before (Before.irrefl _)
  · exact equal
  · have before := before_ofOffset greater left
    rw [same] at before
    exact absurd before (Before.irrefl _)

end AssignLang.Position
