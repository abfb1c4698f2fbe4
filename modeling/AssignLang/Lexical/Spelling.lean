import AssignLang.Token

/-! The spelling of tokens: which characters are blank, which begin a word or a number, which kind a
word and a symbol have, and where a quoted string ends. Words, numbers and blanks are made of ASCII
characters; a string may hold any. -/
namespace AssignLang.Lexical
set_option autoImplicit false

/-! ## Characters -/

/-- A carriage return is not blank. -/
def isBlank (c : Char) : Bool :=
  c = ' ' || c = '\t' || c = '\n'

abbrev isLetter (c : Char) : Bool := c.isAlpha

abbrev isDigit (c : Char) : Bool := c.isDigit

/-! ## Words -/

def isKeyword (word : List Char) : Bool :=
  word = ['v', 'a', 'l'] || word = ['v', 'a', 'r']

def wordKind (word : List Char) : TokenKind :=
  if isKeyword word then .declare else .identifier

/-! ## Symbols -/

/-- A symbol is one character, and some may be written twice over as a token of their own. -/
structure Symbol where
  alone : TokenKind
  doubled : Option TokenKind
deriving DecidableEq

def symbol? : Char → Option Symbol
  | '-' | '/' => some ⟨.binaryOp, none⟩
  | '+' | '&' | '*' => some ⟨.binaryOrUnaryOp, some .binaryOp⟩
  | '=' => some ⟨.assign, some .binaryOp⟩
  | '|' => some ⟨.binaryOp, some .binaryOp⟩
  | '!' => some ⟨.unaryOp, none⟩
  | '(' => some ⟨.leftParen, none⟩
  | ')' => some ⟨.rightParen, none⟩
  | '[' => some ⟨.leftSquare, none⟩
  | ']' => some ⟨.rightSquare, none⟩
  | '\x7b' => some ⟨.leftCurly, none⟩
  | '\x7d' => some ⟨.rightCurly, none⟩
  | _ => none

/-- The kind and the length of the longest spelling that a symbol has, given whether the same
character follows. -/
def Symbol.longest (s : Symbol) (again : Bool) : TokenKind × Nat :=
  match again, s.doubled with
  | true, some kind => (kind, 2)
  | _, _ => (s.alone, 1)

theorem Symbol.longest_pos (s : Symbol) (again : Bool) : 1 ≤ (s.longest again).2 := by
  unfold longest
  split <;> simp

/-! ## Strings -/

/-- The number of characters before the closing quote. A backslash takes the next character with it,
whatever that is, so a quote behind one does not close. -/
def bodyLength? : List Char → Option Nat
  | [] => none
  | '"' :: _ => some 0
  | '\\' :: _ :: rest => (bodyLength? rest).map (· + 2)
  | _ :: rest => (bodyLength? rest).map (· + 1)

end AssignLang.Lexical
