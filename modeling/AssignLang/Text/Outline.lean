/-! Outlines: values written as named records, wrapped values and lists. An outline has two
renderings: `inline` keeps it on one line, and `block` gives each field and item a line of its own,
four columns further in than the line that opens it. -/
namespace AssignLang.Text
set_option autoImplicit false

inductive Outline
  | atom (text : List Char)
  | record (name : List Char) (fields : List (List Char × Outline))
  | wrap (name : List Char) (inner : Outline)
  | list (items : List Outline)

namespace Outline

/-! ## On one line -/

mutual

def inline : Outline → List Char
  | atom text => text
  | record name fields => name ++ " \x7b ".toList ++ inlineFields fields ++ " \x7d".toList
  | wrap name inner => name ++ '(' :: (inline inner ++ [')'])
  | list items => '[' :: (inlineItems items ++ [']'])

def inlineFields : List (List Char × Outline) → List Char
  | [] => []
  | [(name, value)] => name ++ ": ".toList ++ inline value
  | (name, value) :: rest =>
    name ++ ": ".toList ++ inline value ++ ", ".toList ++ inlineFields rest

def inlineItems : List Outline → List Char
  | [] => []
  | [item] => inline item
  | item :: rest => inline item ++ ", ".toList ++ inlineItems rest

end

/-! ## One line for each part -/

/-- The blanks that open a line at a depth. -/
def margin (depth : Nat) : List Char :=
  List.replicate (4 * depth) ' '

mutual

def block (depth : Nat) : Outline → List Char
  | atom text => text
  | record name fields =>
    name ++ " \x7b\n".toList ++ blockFields (depth + 1) fields ++ margin depth ++ ['\x7d']
  | wrap name inner =>
    name ++ "(\n".toList ++ margin (depth + 1) ++ block (depth + 1) inner ++ ",\n".toList
      ++ margin depth ++ [')']
  | list [] => "[]".toList
  | list (item :: rest) =>
    "[\n".toList ++ blockItems (depth + 1) (item :: rest) ++ margin depth ++ [']']

def blockFields (depth : Nat) : List (List Char × Outline) → List Char
  | [] => []
  | (name, value) :: rest =>
    margin depth ++ name ++ ": ".toList ++ block depth value ++ ",\n".toList
      ++ blockFields depth rest

def blockItems (depth : Nat) : List Outline → List Char
  | [] => []
  | item :: rest => margin depth ++ block depth item ++ ",\n".toList ++ blockItems depth rest

end

end Outline

end AssignLang.Text
