import AssignLang.Proofs.Tree.Renderings

/-! The depth of a rendering on many lines is an indentation. Written one level deeper, a node is the
same text with four blanks behind each line break (`deepens_node`): the breaks are all its own, since
no name and no number has one, so nothing inside a name is moved. So a program stands in a tree as it
is printed on its own (`toList_block_node`). -/
namespace AssignLang

/-! ## Indented texts -/

namespace Text
set_option autoImplicit false

/-- The text with four blanks behind each line break. -/
def indent (text : List Char) : List Char :=
  text.flatMap fun c => if c = '\n' then "\n    ".toList else [c]

theorem indent_append (s t : List Char) : indent (s ++ t) = indent s ++ indent t :=
  List.flatMap_append

theorem indent_of_not_mem {text : List Char} (whole : '\n' ∉ text) : indent text = text := by
  induction text with
  | nil => rfl
  | cons c text ih =>
    obtain ⟨other, rest⟩ := not_or.mp (mt List.mem_cons.mpr whole)
    rw [indent, List.flatMap_cons, if_neg (Ne.symm other)]
    exact congrArg (c :: ·) (ih rest)

theorem indent_append_break {mark : List Char} (whole : '\n' ∉ mark) (depth : Nat) :
    indent (mark ++ '\n' :: Outline.margin depth) =
      mark ++ '\n' :: Outline.margin (depth + 1) := by
  have margin : indent (Outline.margin depth) = Outline.margin depth :=
    indent_of_not_mem fun mem => absurd (List.eq_of_mem_replicate mem) (by decide)
  have deeper : Outline.margin (depth + 1) = "    ".toList ++ Outline.margin depth := by
    rw [Outline.margin, Outline.margin, Nat.mul_add_one, Nat.add_comm,
      ← List.replicate_append_replicate]
    rfl
  rw [indent_append, indent_of_not_mem whole, ← List.singleton_append, indent_append, margin, deeper]
  rfl

/-! ## Parts of an outline -/

namespace Rendering

theorem indent_opening (depth : Nat) (b : Bracket) :
    indent (onManyLines.opening depth b) = onManyLines.opening (depth + 1) b := by
  cases b with
  | curly => exact @indent_append_break " \x7b".toList (by decide) _
  | round => exact @indent_append_break ['('] (by decide) _
  | square => exact @indent_append_break ['['] (by decide) _

theorem indent_next (depth : Nat) :
    indent (onManyLines.next depth) = onManyLines.next (depth + 1) :=
  @indent_append_break [','] (by decide) _

theorem indent_closing (depth : Nat) (b : Bracket) :
    indent (onManyLines.closing depth b) = onManyLines.closing (depth + 1) b := by
  have marked {mark : Char} (other : '\n' ≠ mark) :
      indent ([','] ++ '\n' :: Outline.margin depth ++ [mark]) =
        [','] ++ '\n' :: Outline.margin (depth + 1) ++ [mark] := by
    rw [indent_append, indent_append_break (by decide), indent_of_not_mem (by simpa using other)]
  cases b with
  | curly | round | square => exact marked (by decide)

/-- One level deeper the outline is written as it is here, four blanks further in. -/
def Deepens (depth : Nat) (o : Outline) : Prop :=
  onManyLines.write (depth + 1) o = indent (onManyLines.write depth o)

section Deepens
variable {depth : Nat} {o u : Outline} {name field field' text : List Char}

theorem deepens_atom (whole : '\n' ∉ text) : Deepens depth (.atom text) := by
  rw [Deepens, write_atom, write_atom, indent_of_not_mem whole]

theorem Deepens.wrap (h : Deepens (depth + 1) o) (whole : '\n' ∉ name) :
    Deepens depth (.wrap name o) := by
  rw [Deepens, write_wrap, write_wrap, h]
  simp only [indent_append, indent_of_not_mem whole, indent_opening, indent_closing]

theorem indent_colon : indent ": ".toList = ": ".toList :=
  indent_of_not_mem (by decide)

theorem Deepens.record (h : Deepens (depth + 1) o) (whole : '\n' ∉ name) (whole' : '\n' ∉ field) :
    Deepens depth (.record name [(field, o)]) := by
  rw [Deepens, write_record, write_record, h]
  simp only [List.flatMap_nil, List.append_nil, indent_append, indent_of_not_mem whole,
    indent_of_not_mem whole', indent_colon, indent_opening, indent_closing]

theorem Deepens.record₂ (h : Deepens (depth + 1) o) (h' : Deepens (depth + 1) u)
    (whole : '\n' ∉ name) (whole₁ : '\n' ∉ field) (whole₂ : '\n' ∉ field') :
    Deepens depth (.record name [(field, o), (field', u)]) := by
  rw [Deepens, write_record, write_record, h, List.flatMap_singleton, List.flatMap_singleton, h']
  simp only [indent_append, indent_of_not_mem whole, indent_of_not_mem whole₁,
    indent_of_not_mem whole₂, indent_colon, indent_opening, indent_next, indent_closing]

end Deepens

end Rendering

theorem Numeral.newline_not_mem_ofInt32 (v : Int32) : '\n' ∉ ofInt32 v := by
  rw [ofInt32]
  split
  next => simp [not_mem_toDigits]
  next => exact not_mem_toDigits rfl _

end Text

/-! ## Nodes -/

namespace Node
open Text Rendering
set_option autoImplicit false

theorem deepens_name (depth : Nat) (name : String) : Deepens depth (nameOutline name) :=
  (deepens_atom (Quoted.newline_not_mem_string name)).record (by decide) (by decide)

mutual

/-- **One level deeper is four blanks further in**, whatever the names in the node are. -/
theorem deepens_node (depth : Nat) : ∀ a : Node, Deepens depth a.outline
  | identifier name => by
    rw [outline]
    exact (deepens_name _ name).wrap (by decide)
  | integer value => by
    rw [outline]
    have numeral := @deepens_atom (depth + 2) _ (Numeral.newline_not_mem_ofInt32 value)
    exact (numeral.record (by decide) (by decide)).wrap (by decide)
  | assignment target value => by
    rw [outline]
    have name := deepens_name (depth + 2) target
    have value := deepens_node (depth + 2) value
    exact (name.record₂ value (by decide) (by decide) (by decide)).wrap (by decide)
  | program statements => by
    rw [outline]
    have list := deepens_nodes (depth + 2) statements
    exact (list.record (by decide) (by decide)).wrap (by decide)

theorem deepens_nodes (depth : Nat) : ∀ xs : List Node, Deepens depth (.list (outlines xs))
  | [] => by
    rw [Deepens, outlines, write_empty, write_empty]
    rfl
  | x :: xs => by
    rw [Deepens, outlines, write_list, write_list, deepens_node (depth + 1) x,
      deepens_more depth xs, indent_append, indent_append, indent_append, indent_opening,
      indent_closing]

/-- The items of a list behind the first one. -/
theorem deepens_more (depth : Nat) : ∀ xs : List Node,
    (outlines xs).flatMap
        (fun o => onManyLines.next (depth + 1) ++ onManyLines.write (depth + 1 + 1) o) =
      indent ((outlines xs).flatMap
        (fun o => onManyLines.next depth ++ onManyLines.write (depth + 1) o))
  | [] => rfl
  | x :: xs => by
    rw [outlines, List.flatMap_cons, List.flatMap_cons, deepens_node (depth + 1) x,
      deepens_more depth xs, indent_append, indent_append, indent_next]

end

theorem deepens_program (depth : Nat) (xs : List Node) :
    Deepens depth (programOutline (outlines xs)) :=
  (deepens_nodes _ xs).record (by decide) (by decide)

end Node

/-- A program within a tree is the program as it is printed, four blanks further in. -/
theorem Program.toList_block_node (p : Program) :
    p.node.block.toList =
      "Program(\n    ".toList ++ Text.indent p.block.toList ++ ",\n)".toList := by
  have first : "Program".toList ++ Text.Rendering.onManyLines.opening 0 .round =
      "Program(\n    ".toList := by decide
  have last : Text.Rendering.onManyLines.closing 0 .round = ",\n)".toList := by decide
  have outer : p.node.block.toList = Text.Rendering.onManyLines.write 0
      (.wrap "Program".toList (Node.programOutline (Node.outlines p.statements))) := by
    rw [node, Node.block, Node.outline]
    exact String.toList_ofList
  have inner : p.block.toList = Text.Rendering.onManyLines.write 0
      (Node.programOutline (Node.outlines p.statements)) := String.toList_ofList
  rw [outer, inner, Text.Rendering.write_wrap, Node.deepens_program, first, last]

end AssignLang
