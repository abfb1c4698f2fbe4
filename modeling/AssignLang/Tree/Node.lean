import AssignLang.Text.Numeral
import AssignLang.Text.Outline
import AssignLang.Text.Quoted

/-! Trees of programs. Main statement: equality of trees is decidable (`Node.same_iff`), the node
being nested in lists of nodes. -/
namespace AssignLang
set_option autoImplicit false

inductive Node
  | identifier (name : String)
  | integer (value : Int32)
  | assignment (target : String) (value : Node)
  | program (statements : List Node)

structure Program where
  statements : List Node

namespace Node

/-- The short name of the kind of a node. -/
def kindName : Node → String
  | identifier _ => "Identifier"
  | integer _ => "IntLiteralExpr"
  | assignment _ _ => "Assignment"
  | program _ => "Program"

/-! ## Equality -/

mutual

def same : Node → Node → Bool
  | identifier a, identifier b => a = b
  | integer a, integer b => a = b
  | assignment a x, assignment b y => a = b && same x y
  | program xs, program ys => sameAll xs ys
  | _, _ => false

def sameAll : List Node → List Node → Bool
  | [], [] => true
  | x :: xs, y :: ys => same x y && sameAll xs ys
  | _, _ => false

end

mutual

theorem same_iff : ∀ a b : Node, same a b = true ↔ a = b
  | identifier a, b => by cases b <;> simp [same]
  | integer a, b => by cases b <;> simp [same]
  | assignment a x, b => by
    cases b <;> simp [same]
    next c y =>
      intro _
      exact same_iff x y
  | program xs, b => by
    cases b <;> simp [same]
    next ys => exact sameAll_iff xs ys

theorem sameAll_iff : ∀ xs ys : List Node, sameAll xs ys = true ↔ xs = ys
  | [], ys => by cases ys <;> simp [sameAll]
  | x :: xs, ys => by
    cases ys with
    | nil => simp [sameAll]
    | cons y ys => rw [sameAll, Bool.and_eq_true, same_iff x y, sameAll_iff xs ys, List.cons.injEq]

end

instance : DecidableEq Node := fun a b => decidable_of_iff _ (same_iff a b)

/-! ## Outline -/

def nameOutline (name : String) : Text.Outline :=
  .record "Identifier".toList [("name".toList, .atom (Text.Quoted.string name).toList)]

def programOutline (statements : List Text.Outline) : Text.Outline :=
  .record "Program".toList [("init".toList, .list statements)]

mutual

def outline : Node → Text.Outline
  | identifier name => .wrap "Identifier".toList (nameOutline name)
  | integer value =>
    .wrap "IntLiteral".toList
      (.record "IntLiteralExpr".toList [("value".toList, .atom (Text.Numeral.ofInt32 value))])
  | assignment target value =>
    .wrap "Assignment".toList
      (.record "Assignment".toList
        [("target".toList, nameOutline target), ("value".toList, outline value)])
  | program statements => .wrap "Program".toList (programOutline (outlines statements))

def outlines : List Node → List Text.Outline
  | [] => []
  | node :: rest => outline node :: outlines rest

end

/-- The whole tree on one line. -/
def inline (node : Node) : String :=
  String.ofList node.outline.inline

/-- The whole tree with a line for each part. -/
def block (node : Node) : String :=
  String.ofList (node.outline.block 0)

end Node

namespace Program

deriving instance DecidableEq for Program

def node (p : Program) : Node :=
  .program p.statements

/-- The program with a line for each part. -/
def block (p : Program) : String :=
  String.ofList ((Node.programOutline (Node.outlines p.statements)).block 0)

end Program

end AssignLang
