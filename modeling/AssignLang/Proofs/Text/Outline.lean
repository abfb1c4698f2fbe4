import AssignLang.Proofs.Text.Quoted
import AssignLang.Text.Numeral
import AssignLang.Text.Outline

/-! The two renderings of outlines under one description: what stands in front of the first part of
an outline, between two parts and behind the last one is told by the depth alone, and a reader who
comes to the end of a part can tell which of them it is looking at. Main definitions: the renderings
`onOneLine` and `onManyLines`. -/
namespace AssignLang.Text
set_option autoImplicit false

/-- The pairs of marks that the parts of an outline stand between. -/
inductive Bracket
  | curly
  | round
  | square

/-- A way to write outlines. What is said of records is said of those that have a field. -/
structure Rendering where
  write : Nat → Outline → List Char
  opening : Nat → Bracket → List Char
  next : Nat → List Char
  closing : Nat → Bracket → List Char
  write_atom (depth : Nat) (text : List Char) : write depth (.atom text) = text
  write_wrap (depth : Nat) (name : List Char) (inner : Outline) :
    write depth (.wrap name inner) =
      name ++ opening depth .round ++ write (depth + 1) inner ++ closing depth .round
  write_record (depth : Nat) (name field : List Char) (value : Outline)
    (rest : List (List Char × Outline)) :
    write depth (.record name ((field, value) :: rest)) =
      name ++ opening depth .curly ++ (field ++ ": ".toList ++ write (depth + 1) value) ++
        rest.flatMap (fun f => next depth ++ (f.1 ++ ": ".toList ++ write (depth + 1) f.2)) ++
        closing depth .curly
  write_empty (depth : Nat) : write depth (.list []) = ['[', ']']
  write_list (depth : Nat) (item : Outline) (rest : List Outline) :
    write depth (.list (item :: rest)) =
      opening depth .square ++ write (depth + 1) item ++
        rest.flatMap (fun o => next depth ++ write (depth + 1) o) ++ closing depth .square
  /-- A list with an item in it is no empty list. -/
  opening_apart (depth : Nat) (c : Char) (s t : List Char) (other : c ≠ ']') :
    opening depth .square ++ c :: s ≠ '[' :: ']' :: t
  /-- A list goes on or comes to its end. -/
  next_apart (depth : Nat) (s t : List Char) : next depth ++ s ≠ closing depth .square ++ t
  /-- A numeral ends where its record does. -/
  closing_stops (depth : Nat) (s : List Char) :
    ∀ c ∈ (closing depth .curly ++ s).head?, (c.isDigit || c = '-') = false

namespace Outline

/-! ## On one line -/

theorem inlineFields_cons (name : List Char) (value : Outline)
    (rest : List (List Char × Outline)) :
    inlineFields ((name, value) :: rest) = name ++ ": ".toList ++ inline value ++
      rest.flatMap (fun f => ", ".toList ++ (f.1 ++ ": ".toList ++ inline f.2)) := by
  induction rest generalizing name value with
  | nil => simp [inlineFields]
  | cons f rest ih =>
    obtain ⟨name', value'⟩ := f
    rw [inlineFields.eq_3 _ _ _ (by simp), ih, List.flatMap_cons]
    simp only [List.append_assoc]

theorem inlineItems_cons (item : Outline) (rest : List Outline) :
    inlineItems (item :: rest) =
      inline item ++ rest.flatMap (fun o => ", ".toList ++ inline o) := by
  induction rest generalizing item with
  | nil => simp [inlineItems]
  | cons item' rest ih =>
    rw [inlineItems.eq_3 _ _ (by simp), ih, List.flatMap_cons]
    simp only [List.append_assoc]

/-! ## One line for each part -/

theorem blockFields_cons (depth : Nat) (name : List Char) (value : Outline)
    (rest : List (List Char × Outline)) :
    blockFields depth ((name, value) :: rest) =
      margin depth ++ (name ++ ": ".toList ++ block depth value) ++
        rest.flatMap (fun f =>
          ",\n".toList ++ margin depth ++ (f.1 ++ ": ".toList ++ block depth f.2)) ++
        ",\n".toList := by
  induction rest generalizing name value with
  | nil => simp [blockFields]
  | cons f rest ih =>
    obtain ⟨name', value'⟩ := f
    rw [blockFields, ih, List.flatMap_cons]
    simp only [List.append_assoc]

theorem blockItems_cons (depth : Nat) (item : Outline) (rest : List Outline) :
    blockItems depth (item :: rest) =
      margin depth ++ block depth item ++
        rest.flatMap (fun o => ",\n".toList ++ margin depth ++ block depth o) ++
        ",\n".toList := by
  induction rest generalizing item with
  | nil => simp [blockItems]
  | cons item' rest ih =>
    rw [blockItems, ih, List.flatMap_cons]
    simp only [List.append_assoc]

theorem margin_succ (depth : Nat) : margin (depth + 1) = margin depth ++ "    ".toList := by
  rw [margin, margin, Nat.mul_add_one, ← List.replicate_append_replicate]
  rfl

end Outline

namespace Rendering
open Outline

/-! ## The renderings -/

/-- A record has a blank at each of its two marks, the others have none. -/
def onOneLine : Rendering where
  write _ o := o.inline
  opening
    | _, .curly => " \x7b ".toList
    | _, .round => ['(']
    | _, .square => ['[']
  next _ := ", ".toList
  closing
    | _, .curly => " \x7d".toList
    | _, .round => [')']
    | _, .square => [']']
  write_atom _ _ := by rw [Outline.inline]
  write_wrap _ _ _ := by simp [Outline.inline]
  write_record _ name field value rest := by
    rw [Outline.inline, inlineFields_cons]
    simp only [List.append_assoc]
  write_empty _ := by simp [Outline.inline, inlineItems]
  write_list _ item rest := by
    rw [Outline.inline, inlineItems_cons]
    simp only [List.cons_append, List.nil_append, List.append_assoc]
  opening_apart _ c s t other := by simp [other]
  next_apart _ s t := by simp
  closing_stops _ s := by simp

/-- Each part ends its line and stands at a margin one deeper than the marks around it. -/
def onManyLines : Rendering where
  write depth o := o.block depth
  opening
    | depth, .curly => " \x7b\n".toList ++ margin (depth + 1)
    | depth, .round => "(\n".toList ++ margin (depth + 1)
    | depth, .square => "[\n".toList ++ margin (depth + 1)
  next depth := ",\n".toList ++ margin (depth + 1)
  closing
    | depth, .curly => ",\n".toList ++ margin depth ++ ['\x7d']
    | depth, .round => ",\n".toList ++ margin depth ++ [')']
    | depth, .square => ",\n".toList ++ margin depth ++ [']']
  write_atom _ _ := by rw [block]
  write_wrap _ _ _ := by simp only [block, List.append_assoc]
  write_record depth name field value rest := by
    rw [block, blockFields_cons]
    simp only [List.append_assoc]
  write_empty _ := by simp [block]
  write_list depth item rest := by
    rw [block, blockItems_cons]
    simp only [List.append_assoc]
  opening_apart _ c s t other := by simp
  next_apart depth s t := by simp [margin_succ]
  closing_stops _ s := by simp

/-! ## Reading a part -/

variable (r : Rendering)

/-- What is written of these two outlines tells their ends, and that `P` holds of them. -/
def Tells (P : Prop) (depth : Nat) (o o' : Outline) : Prop :=
  ∀ s t, r.write depth o ++ s = r.write depth o' ++ t → P ∧ s = t

section Tells
variable {r} {P Q : Prop} {depth : Nat} {o o' u u' : Outline} {name field field' : List Char}

theorem Tells.imp (h : r.Tells P depth o o') (more : P → Q) : r.Tells Q depth o o' :=
  fun s t same => (h s t same).imp_left more

theorem Tells.wrap (h : r.Tells P (depth + 1) o o') :
    r.Tells P depth (.wrap name o) (.wrap name o') := by
  intro s t same
  simp only [r.write_wrap, List.append_assoc, List.append_cancel_left_eq] at same
  obtain ⟨told, behind⟩ := h _ _ same
  exact ⟨told, List.append_cancel_left behind⟩

theorem Tells.record (h : r.Tells P (depth + 1) o o') :
    r.Tells P depth (.record name [(field, o)]) (.record name [(field, o')]) := by
  intro s t same
  simp only [r.write_record, List.flatMap_nil, List.nil_append, List.append_assoc,
    List.append_cancel_left_eq] at same
  obtain ⟨told, behind⟩ := h _ _ same
  exact ⟨told, List.append_cancel_left behind⟩

theorem Tells.record₂ (h : r.Tells P (depth + 1) o o') (h' : r.Tells Q (depth + 1) u u') :
    r.Tells (P ∧ Q) depth (.record name [(field, o), (field', u)])
      (.record name [(field, o'), (field', u')]) := by
  intro s t same
  simp only [r.write_record, List.flatMap_cons, List.flatMap_nil, List.append_nil,
    List.append_assoc, List.append_cancel_left_eq] at same
  obtain ⟨told, behind⟩ := h _ _ same
  obtain ⟨told', behind⟩ := h' _ _ (by simpa only [List.append_cancel_left_eq] using behind)
  exact ⟨⟨told, told'⟩, List.append_cancel_left behind⟩

theorem tells_string (depth : Nat) (a b : String) :
    r.Tells (a = b) depth (.atom (Quoted.string a).toList) (.atom (Quoted.string b).toList) := by
  intro s t same
  rw [r.write_atom, r.write_atom] at same
  exact Quoted.string_append_inj same

/-- A numeral does not show its end, so it is told within its record. -/
theorem tells_numeral (depth : Nat) (v w : Int32) :
    r.Tells (v = w) depth (.record name [(field, .atom (Numeral.ofInt32 v))])
      (.record name [(field, .atom (Numeral.ofInt32 w))]) := by
  intro s t same
  simp only [r.write_record, r.write_atom, List.flatMap_nil, List.nil_append, List.append_assoc,
    List.append_cancel_left_eq] at same
  obtain ⟨told, behind⟩ :=
    Numeral.ofInt32_append_inj (r.closing_stops _ _) (r.closing_stops _ _) same
  exact ⟨told, List.append_cancel_left behind⟩

end Tells

end Rendering

end AssignLang.Text
