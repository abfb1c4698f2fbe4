import AssignLang.Proofs.Text.Outline
import AssignLang.Tree.Node

/-! Trees read back from what is written of them. The argument is one for both renderings: the word
at the front of a node tells its kind (`word_of_append_eq`), its parts are told where they stand, and
a list shows at each item whether it goes on. So what is written of a node tells the node and its own
end (`tells_node`). -/
namespace AssignLang
namespace Node
open Text
set_option autoImplicit false

/-! ## The word at the front -/

def word : Node → String
  | identifier _ => "Identifier"
  | integer _ => "IntLiteral"
  | assignment _ _ => "Assignment"
  | program _ => "Program"

theorem exists_outline (a : Node) : ∃ inner, a.outline = .wrap a.word.toList inner := by
  cases a <;> simp [outline, word]

theorem word_apart {a b : Node} (other : a.word ≠ b.word) :
    ¬ a.word.toList <+: b.word.toList ∧ ¬ b.word.toList <+: a.word.toList := by
  cases a <;> cases b <;> simp only [word] at other ⊢ <;> revert other <;> decide

theorem exists_word_eq_cons (a : Node) : ∃ c rest, a.word.toList = c :: rest ∧ c ≠ ']' := by
  cases a <;> simp [word]

section Reading
variable (r : Rendering) {depth : Nat}

theorem word_of_append_eq {a b : Node} {s t : List Char}
    (same : r.write depth a.outline ++ s = r.write depth b.outline ++ t) : a.word = b.word := by
  obtain ⟨inner, written⟩ := a.exists_outline
  obtain ⟨inner', written'⟩ := b.exists_outline
  simp only [written, written', r.write_wrap, List.append_assoc] at same
  by_cases equal : a.word = b.word
  · exact equal
  · exact absurd same (append_ne_of_apart (word_apart equal))

theorem opening_append_ne (a : Node) (s t : List Char) :
    r.opening depth .square ++ (r.write (depth + 1) a.outline ++ s) ≠ '[' :: ']' :: t := by
  obtain ⟨inner, written⟩ := a.exists_outline
  obtain ⟨c, rest, word, other⟩ := a.exists_word_eq_cons
  rw [written, r.write_wrap, word]
  exact r.opening_apart depth c _ t other

/-! ## Nodes -/

theorem tells_name (depth : Nat) (a b : String) :
    r.Tells (a = b) depth (nameOutline a) (nameOutline b) :=
  (Rendering.tells_string _ a b).record

mutual

-- By recursion on the first of the two nodes: its word gives the second the same kind.
theorem tells_node (depth : Nat) : ∀ a b : Node, r.Tells (a = b) depth a.outline b.outline
  | identifier a, b => by
    intro s t same
    cases b with
    | identifier b =>
      rw [outline, outline] at same
      exact ((tells_name r _ a b).wrap.imp (congrArg identifier)) s t same
    | _ => exact absurd (word_of_append_eq r same) (by simp [word])
  | integer v, b => by
    intro s t same
    cases b with
    | integer w =>
      rw [outline, outline] at same
      exact ((Rendering.tells_numeral _ v w).wrap.imp (congrArg integer)) s t same
    | _ => exact absurd (word_of_append_eq r same) (by simp [word])
  | assignment target x, b => by
    intro s t same
    cases b with
    | assignment target' y =>
      have name := tells_name r (depth + 2) target target'
      have value := tells_node (depth + 2) x y
      rw [outline, outline] at same
      obtain ⟨⟨rfl, rfl⟩, rest⟩ := (name.record₂ value).wrap s t same
      exact ⟨rfl, rest⟩
    | _ => exact absurd (word_of_append_eq r same) (by simp [word])
  | program xs, b => by
    intro s t same
    cases b with
    | program ys =>
      rw [outline, outline] at same
      exact ((tells_nodes (depth + 2) xs ys).record.wrap.imp (congrArg program)) s t same
    | _ => exact absurd (word_of_append_eq r same) (by simp [word])

theorem tells_nodes (depth : Nat) : ∀ xs ys : List Node,
    r.Tells (xs = ys) depth (.list (outlines xs)) (.list (outlines ys))
  | [], [] => fun _ _ same => ⟨rfl, List.append_cancel_left same⟩
  | [], y :: ys => by
    intro s t same
    simp only [outlines, r.write_empty, r.write_list, List.append_assoc] at same
    exact absurd same.symm (opening_append_ne r y _ _)
  | x :: xs, [] => by
    intro s t same
    simp only [outlines, r.write_empty, r.write_list, List.append_assoc] at same
    exact absurd same (opening_append_ne r x _ _)
  | x :: xs, y :: ys => by
    intro s t same
    simp only [outlines, r.write_list, List.append_assoc, List.append_cancel_left_eq] at same
    obtain ⟨first, behind⟩ := tells_node _ x y _ _ same
    obtain ⟨others, rest⟩ := more_append_inj depth s t xs ys behind
    exact ⟨by rw [first, others], rest⟩

/-- The items of a list behind the first one. -/
theorem more_append_inj (depth : Nat) (s t : List Char) : ∀ xs ys : List Node,
    (outlines xs).flatMap (fun o => r.next depth ++ r.write (depth + 1) o) ++
        (r.closing depth .square ++ s) =
      (outlines ys).flatMap (fun o => r.next depth ++ r.write (depth + 1) o) ++
        (r.closing depth .square ++ t) →
      xs = ys ∧ s = t
  | [], [], same => ⟨rfl, by simpa [outlines] using same⟩
  | [], y :: ys, same => by
    simp only [outlines, List.flatMap_cons, List.flatMap_nil, List.nil_append,
      List.append_assoc] at same
    exact absurd same.symm (r.next_apart depth _ _)
  | x :: xs, [], same => by
    simp only [outlines, List.flatMap_cons, List.flatMap_nil, List.nil_append,
      List.append_assoc] at same
    exact absurd same (r.next_apart depth _ _)
  | x :: xs, y :: ys, same => by
    simp only [outlines, List.flatMap_cons, List.append_assoc,
      List.append_cancel_left_eq] at same
    obtain ⟨first, behind⟩ := tells_node _ x y _ _ same
    obtain ⟨others, rest⟩ := more_append_inj depth s t xs ys behind
    exact ⟨by rw [first, others], rest⟩

end

theorem tells_program (depth : Nat) (xs ys : List Node) :
    r.Tells (xs = ys) depth (programOutline (outlines xs)) (programOutline (outlines ys)) :=
  (tells_nodes r _ xs ys).record

end Reading

/-! ## Whole texts -/

theorem inline_inj {a b : Node} : a.inline = b.inline ↔ a = b := by
  refine ⟨fun same => ?_, congrArg inline⟩
  have written := congrArg (· ++ []) (String.ofList_inj.mp same)
  exact (tells_node .onOneLine 0 a b [] [] written).1

theorem block_inj {a b : Node} : a.block = b.block ↔ a = b := by
  refine ⟨fun same => ?_, congrArg block⟩
  have written := congrArg (· ++ []) (String.ofList_inj.mp same)
  exact (tells_node .onManyLines 0 a b [] [] written).1

end Node

theorem Program.block_inj {p q : Program} : p.block = q.block ↔ p = q := by
  refine ⟨fun same => ?_, congrArg Program.block⟩
  have written := congrArg (· ++ []) (String.ofList_inj.mp same)
  have statements := (Node.tells_program .onManyLines 0 _ _ [] [] written).1
  rw [Program.mk.injEq, statements]

end AssignLang
