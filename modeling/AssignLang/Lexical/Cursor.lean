import AssignLang.Position

/-! A reading cursor: the characters taken so far for the current piece of the text, the characters
ahead of it, and the position of the first of them all. -/
namespace AssignLang.Lexical
set_option autoImplicit false

structure Cursor where
  window : List Char
  ahead : List Char
  place : Position
deriving DecidableEq

namespace Cursor

def ofText (text : List Char) : Cursor :=
  ⟨[], text, .start⟩

/-- Moves the next `n` characters into the window, or all that are left. -/
def take (c : Cursor) (n : Nat) : Cursor :=
  { c with window := c.window ++ c.ahead.take n, ahead := c.ahead.drop n }

def takeWhile (c : Cursor) (p : Char → Bool) : Cursor :=
  { c with window := c.window ++ c.ahead.takeWhile p, ahead := c.ahead.dropWhile p }

def takeAll (c : Cursor) : Cursor :=
  { c with window := c.window ++ c.ahead, ahead := [] }

/-- Leaves the window behind: the next piece of the text begins at the next character ahead. -/
def cut (c : Cursor) : Cursor :=
  { c with window := [], place := c.place.after c.window }

def skip (c : Cursor) (n : Nat) : Cursor :=
  (c.take n).cut

/-- What the cursor has not left behind. -/
def remaining (c : Cursor) : List Char :=
  c.window ++ c.ahead

@[simp] theorem remaining_take (c : Cursor) (n : Nat) : (c.take n).remaining = c.remaining := by
  simp only [remaining, take, List.append_assoc, List.take_append_drop]

@[simp] theorem remaining_takeWhile (c : Cursor) (p : Char → Bool) :
    (c.takeWhile p).remaining = c.remaining := by
  simp only [remaining, takeWhile, List.append_assoc, List.takeWhile_append_dropWhile]

@[simp] theorem remaining_takeAll (c : Cursor) : c.takeAll.remaining = c.remaining := by
  simp only [remaining, takeAll, List.append_nil]

@[simp] theorem remaining_cut (c : Cursor) : c.cut.remaining = c.ahead := rfl

end Cursor

end AssignLang.Lexical
