/-! Sets of code points as tables of closed ranges. -/
namespace AssignLang.Unicode
set_option autoImplicit false

/-- Each entry holds the first and the last code point of a range. -/
abbrev CodeRanges := Array (Nat × Nat)

def CodeRanges.holds (table : CodeRanges) (c : Char) : Bool :=
  table.any fun range => range.1 ≤ c.toNat && c.toNat ≤ range.2

end AssignLang.Unicode
